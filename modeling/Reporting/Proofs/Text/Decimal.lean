import Mathlib.Logic.Function.Defs
import Mathlib.Tactic.SplitIfs
import Reporting.Binary64.Reader
import Reporting.Text.Split

/-! Decimal digits and the numbers they make. A number can be read from its digits, so two numbers
never have the same ones. -/

namespace Reporting.Text

open Binary64 (natOfDigits)

theorem isDigit_digits (n : Nat) : ∀ c ∈ digits n, c.isDigit = true := by
  have hdigit : ∀ k < 10, (Char.ofNat (48 + k)).isDigit = true := by decide
  fun_induction digits n with
  | case1 n hn =>
    intro c hc
    rw [List.mem_singleton.mp hc]
    exact hdigit n hn
  | case2 n hn ih =>
    intro c hc
    rcases List.mem_append.mp hc with hc | hc
    · exact ih c hc
    · rw [List.mem_singleton.mp hc]
      exact hdigit _ (Nat.mod_lt _ (by decide))

theorem digits_ne_nil (n : Nat) : digits n ≠ [] := by
  rw [digits]
  split <;> simp

theorem natOfDigits_concat (cs : List Char) (c : Char) :
    natOfDigits (cs ++ [c]) = 10 * natOfDigits cs + (c.toNat - 48) := by
  rw [natOfDigits, List.foldl_append]
  rfl

theorem natOfDigits_digits (n : Nat) : natOfDigits (digits n) = n := by
  have hdigit : ∀ k < 10, (Char.ofNat (48 + k)).toNat - 48 = k := by decide
  fun_induction digits n with
  | case1 n hn =>
    show 10 * 0 + _ = n
    rw [hdigit n hn, Nat.mul_zero, Nat.zero_add]
  | case2 n hn ih =>
    rw [natOfDigits_concat, ih, hdigit _ (Nat.mod_lt _ (by decide))]
    exact Nat.div_add_mod n 10

theorem lt_tenTo_length_digits (n : Nat) : n < tenTo (digits n).length := by
  fun_induction digits n with
  | case1 n hn => exact hn
  | case2 n hn ih =>
    rw [List.length_append, List.length_singleton, tenTo_succ]
    omega

theorem ofNat_injective : Function.Injective ofNat := by
  intro m n h
  have hdigits : digits m = digits n := String.ofList_injective h
  rw [← natOfDigits_digits m, hdigits, natOfDigits_digits]

def toInt : List Char → Int
  | '-' :: cs => -(natOfDigits cs : Int)
  | cs => natOfDigits cs

theorem toInt_ofInt (n : Int) : toInt (ofInt n).toList = n := by
  rw [ofInt, String.toList_ofList]
  split_ifs with hn
  · rw [toInt, natOfDigits_digits]
    omega
  · rw [toInt, natOfDigits_digits]
    · omega
    · rintro cs hcs
      have hminus := isDigit_digits n.natAbs '-' (hcs ▸ List.mem_cons_self)
      exact absurd hminus (by decide)

end Reporting.Text
