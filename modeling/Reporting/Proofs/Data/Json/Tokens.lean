import Mathlib.Tactic.IntervalCases
import Reporting.Data.Json.Token
import Reporting.Data.Json.Writer
import Reporting.Proofs.Text.Decimal

/-! The tokens of written JSON. A text between quotes is scanned as it was before it was escaped, and
a whole number is one token as long as nothing follows that a numeral could go on with. -/

namespace Reporting.Json

theorem hexNumber?_low : ∀ n < 16, hexNumber? ('0' :: '0' :: '0' :: Text.hexDigits n) = some n := by
  intro n hn
  rw [Text.hexDigits, if_pos hn]
  interval_cases n <;> rfl

theorem hexNumber?_high : ∀ n < 32, 16 ≤ n →
    hexNumber? ('0' :: '0' :: Text.hexDigits n) = some n := by
  intro n hn hlow
  rw [Text.hexDigits, if_neg (Nat.not_lt.mpr hlow), Text.hexDigits, if_pos (by omega)]
  interval_cases n <;> rfl

theorem scanString_short {e c : Char} (hu : e ≠ 'u') (h : escaped? e = some c) (cs : List Char) :
    scanString ('\\' :: e :: cs) = (scanString cs).map fun p => (c.toNat :: p.1, p.2) := by
  rw [scanString, h]
  · cases scanString cs <;> rfl
  · exact fun _ _ _ _ _ he _ => hu he

theorem scanString_long {a b c d : Char} {n : Nat} (h : hexNumber? [a, b, c, d] = some n)
    (cs : List Char) :
    scanString ('\\' :: 'u' :: a :: b :: c :: d :: cs) =
      (scanString cs).map fun p => (n :: p.1, p.2) := by
  rw [scanString, h]
  cases scanString cs <;> rfl

theorem scanString_plain {c : Char} (hquote : c ≠ '\x22') (hescape : c ≠ '\\')
    (hcontrol : ¬c.toNat < 0x20) (cs : List Char) :
    scanString (c :: cs) = (scanString cs).map fun p => (c.toNat :: p.1, p.2) := by
  rw [scanString]
  · simp [hescape, hcontrol]
  · exact hquote
  · exact fun _ _ _ _ _ hc _ => hescape hc
  · exact fun _ _ hc _ => hescape hc

theorem scanString_escape (c : Char) (cs : List Char) :
    scanString (escape c ++ cs) = (scanString cs).map fun p => (c.toNat :: p.1, p.2) := by
  unfold escape
  split_ifs with hquote hback hline hreturn htab hbell hfeed hlow hhigh
  · rw [hquote]
    exact scanString_short (by decide) rfl cs
  · rw [hback]
    exact scanString_short (by decide) rfl cs
  · rw [hline]
    exact scanString_short (by decide) rfl cs
  · rw [hreturn]
    exact scanString_short (by decide) rfl cs
  · rw [htab]
    exact scanString_short (by decide) rfl cs
  · rw [hbell]
    exact scanString_short (by decide) rfl cs
  · rw [hfeed]
    exact scanString_short (by decide) rfl cs
  · have hhex := hexNumber?_low c.toNat hlow
    rw [Text.hexDigits, if_pos hlow] at hhex ⊢
    exact scanString_long hhex cs
  · have hhex := hexNumber?_high c.toNat hhigh (Nat.not_lt.mp hlow)
    rw [Text.hexDigits, if_neg hlow, Text.hexDigits, if_pos (by omega)] at hhex ⊢
    exact scanString_long hhex cs
  · exact scanString_plain hquote hback hhigh cs

theorem scanString_quoted (cs rest : List Char) :
    scanString (cs.flatMap escape ++ '\x22' :: rest) = some (cs.map Char.toNat, rest) := by
  induction cs with
  | nil => rfl
  | cons c cs ih =>
    rw [List.flatMap_cons, List.append_assoc, scanString_escape, ih]
    rfl

theorem isSurrogate_toNat (c : Char) :
    isHighSurrogate c.toNat = false ∧ isLowSurrogate c.toNat = false := by
  have hvalid : c.toNat < 0xD800 ∨ 0xDFFF < c.toNat := by
    rcases c.valid with h | h
    · exact .inl h
    · exact .inr h.1
  simp only [isHighSurrogate, isLowSurrogate, Bool.and_eq_false_iff, decide_eq_false_iff_not]
  omega

theorem charsOfUnits?_toNat (cs : List Char) : charsOfUnits? (cs.map Char.toNat) = some cs := by
  induction cs with
  | nil => rfl
  | cons c cs ih =>
    obtain ⟨hhigh, hlow⟩ := isSurrogate_toNat c
    cases cs with
    | nil => simp [charsOfUnits?, hhigh, hlow, Char.ofNat_toNat]
    | cons c' cs =>
      rw [List.map_cons] at ih
      simp [charsOfUnits?, hhigh, hlow, ih, Char.ofNat_toNat]

theorem next?_quoted (s : String) (rest : List Char) :
    next? (quoted s ++ rest) = some (.string s, rest) := by
  have hscan := scanString_quoted s.toList rest
  rw [quoted, List.append_assoc, List.cons_append, List.singleton_append, next?, hscan,
    Option.map_some, stringToken, charsOfUnits?_toNat]
  exact congrArg (fun t => some (Token.string t, rest)) String.ofList_toList

def Ends (rest : List Char) : Prop :=
  ∀ c ∈ rest.head?, c.isDigit = false ∧ c ≠ '.' ∧ c ≠ 'e' ∧ c ≠ 'E'

theorem eq_zero_of_head?_digits {n : Nat} (h : (Text.digits n).head? = some '0') : n = 0 := by
  fun_induction Text.digits n with
  | case1 n hn =>
    interval_cases n <;> first | rfl | exact absurd (Option.some.inj h) (by decide)
  | case2 n hn ih =>
    obtain ⟨d, ds, hds⟩ := List.exists_cons_of_ne_nil (Text.digits_ne_nil (n / 10))
    rw [hds] at h ih
    have hzero := ih h
    omega

theorem takeWhile_digits (n : Nat) {rest : List Char} (h : Ends rest) :
    (Text.digits n ++ rest).takeWhile Char.isDigit = Text.digits n := by
  rw [List.takeWhile_append_of_pos (Text.isDigit_digits n)]
  cases rest with
  | nil => exact List.append_nil _
  | cons c cs =>
    have hc := (h c rfl).1
    rw [List.takeWhile_cons_of_neg (by simp [hc]), List.append_nil]

theorem dropWhile_digits (n : Nat) {rest : List Char} (h : Ends rest) :
    (Text.digits n ++ rest).dropWhile Char.isDigit = rest := by
  rw [List.dropWhile_append_of_pos (Text.isDigit_digits n)]
  cases rest with
  | nil => rfl
  | cons c cs =>
    have hc := (h c rfl).1
    rw [List.dropWhile_cons_of_neg (by simp [hc])]

def wholeNumeral (n : Int) : Numeral := ⟨decide (n < 0), Text.digits n.natAbs, [], none⟩

theorem scanNumeral?_digits (n : Nat) {rest : List Char} (h : Ends rest) :
    scanNumeral? (Text.digits n ++ rest) = some (⟨false, Text.digits n, [], none⟩, rest) ∧
      scanNumeral? ('-' :: Text.digits n ++ rest) =
        some (⟨true, Text.digits n, [], none⟩, rest) := by
  have hne := Text.digits_ne_nil n
  have hzero : ((Text.digits n).head? == some '0' && (Text.digits n).length != 1) = false := by
    rw [Bool.and_eq_false_imp]
    intro hhead
    rw [eq_zero_of_head?_digits (eq_of_beq hhead), Text.digits]
    rfl
  have hminus : ∀ cs, Text.digits n ++ rest ≠ '-' :: cs := by
    intro cs hcs
    obtain ⟨d, ds, hds⟩ := List.exists_cons_of_ne_nil hne
    rw [hds, List.cons_append] at hcs
    have hd := Text.isDigit_digits n d (hds ▸ List.mem_cons_self)
    rw [(List.cons.inj hcs).1] at hd
    exact absurd hd (by decide)
  have hwhole : (Text.digits n).isEmpty = false := List.isEmpty_eq_false_iff.mpr hne
  constructor
  · unfold scanNumeral?
    split
    rename_i negative cs hsign
    split at hsign
    · rename_i hcs
      exact absurd hcs (hminus _)
    · obtain ⟨rfl, rfl⟩ := Prod.mk.inj hsign
      simp only [takeWhile_digits n h, dropWhile_digits n h, hwhole, hzero]
      cases rest with
      | nil => rfl
      | cons c cs =>
        obtain ⟨-, hpoint, he, hE⟩ := h c rfl
        simp [hpoint, he, hE]
  · unfold scanNumeral?
    simp only [List.cons_append, takeWhile_digits n h, dropWhile_digits n h, hwhole, hzero]
    cases rest with
    | nil => rfl
    | cons c cs =>
      obtain ⟨-, hpoint, he, hE⟩ := h c rfl
      simp [hpoint, he, hE]

theorem scanNumeral?_ofInt (n : Int) {rest : List Char} (h : Ends rest) :
    scanNumeral? ((Text.ofInt n).toList ++ rest) = some (wholeNumeral n, rest) := by
  obtain ⟨hpositive, hnegative⟩ := scanNumeral?_digits n.natAbs h
  rw [Text.ofInt, String.toList_ofList, wholeNumeral]
  split_ifs with hn
  · rw [hnegative, decide_eq_true hn]
  · rw [hpositive, decide_eq_false hn]

theorem le_foldl_digits (cs : List Char) (n : Nat) :
    n ≤ cs.foldl (fun n c => 10 * n + (c.toNat - 48)) n := by
  induction cs generalizing n with
  | nil => exact le_rfl
  | cons c cs ih => exact le_trans (by omega) (ih (10 * n + (c.toNat - 48)))

theorem significand_eq {n : Nat} {cs : List Char}
    (h : cs.foldl (fun n c => 10 * n + (c.toNat - 48)) n < Numeral.limit) :
    Numeral.significand n cs = (cs.foldl (fun n c => 10 * n + (c.toNat - 48)) n, []) := by
  induction cs generalizing n with
  | nil => rfl
  | cons c cs ih =>
    have hbelow := lt_of_le_of_lt (le_foldl_digits cs (10 * n + (c.toNat - 48))) h
    rw [Numeral.significand]
    exact (if_neg (Nat.not_le.mpr hbelow)).trans (ih h)

def IsWord (n : Int) : Prop := -(twoTo 63 : Int) ≤ n ∧ n < twoTo 64

theorem token_wholeNumeral {n : Int} (h : IsWord n) : (wholeNumeral n).token = .int n := by
  obtain ⟨hlow, hhigh⟩ := h
  have hlimit : n.natAbs < Numeral.limit := by
    have hpowers : twoTo 63 < twoTo 64 := by decide
    unfold Numeral.limit
    omega
  have hvalue : (Text.digits n.natAbs).foldl (fun n c => 10 * n + (c.toNat - 48)) 0 = n.natAbs :=
    Text.natOfDigits_digits n.natAbs
  have hread := significand_eq (n := 0) (hvalue.symm ▸ hlimit)
  rw [hvalue] at hread
  by_cases hn : n < 0
  · have hsize : n.natAbs ≤ twoTo 63 := by omega
    simp [Numeral.token, wholeNumeral, hread, hn, hsize, hn.ne, abs_of_neg hn]
  · simp [Numeral.token, wholeNumeral, hread, hn, abs_of_nonneg (Int.not_lt.mp hn)]

theorem next?_numeral {c : Char} (h : c.isDigit = true ∨ c = '-') (cs : List Char) :
    next? (c :: cs) = (scanNumeral? (c :: cs)).map fun p => (p.1.token, p.2) := by
  have hne (d : Char) (hd : d.isDigit = false) (hminus : d ≠ '-') : c ≠ d := by
    rintro rfl
    rcases h with h | h
    · rw [hd] at h
      cases h
    · exact hminus h
  unfold next?
  split <;> rename_i heq
  all_goals first
    | rfl
    | exact absurd (List.cons.inj heq).1 (hne _ (by decide) (by decide))

theorem ofInt_eq_cons (n : Int) :
    ∃ c cs, (Text.ofInt n).toList = c :: cs ∧ (c.isDigit = true ∨ c = '-') := by
  rw [Text.ofInt, String.toList_ofList]
  split_ifs
  · exact ⟨_, _, rfl, .inr rfl⟩
  · obtain ⟨d, ds, hds⟩ := List.exists_cons_of_ne_nil (Text.digits_ne_nil n.natAbs)
    exact ⟨d, ds, hds, .inl (Text.isDigit_digits n.natAbs d (hds ▸ List.mem_cons_self))⟩

theorem next?_ofInt {n : Int} (hn : IsWord n) {rest : List Char} (h : Ends rest) :
    next? ((Text.ofInt n).toList ++ rest) = some (.int n, rest) := by
  obtain ⟨c, cs, hc, hhead⟩ := ofInt_eq_cons n
  have hscan := scanNumeral?_ofInt n h
  rw [hc] at hscan ⊢
  rw [List.cons_append] at hscan ⊢
  rw [next?_numeral hhead, hscan, Option.map_some, token_wholeNumeral hn]

end Reporting.Json
