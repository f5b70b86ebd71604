import Mathlib.Data.List.Forall2
import Mathlib.Tactic.SplitIfs
import Reporting.Plan
import Reporting.Proofs.Catalog.FieldSet
import Reporting.Proofs.Text.Pieces

/-! Which conditions of a report count. The first position without an operator that can be read, or
without a value, ends them whatever its field is; before it, hidden fields are left out. -/

namespace Reporting

namespace Text

theorem toLower_eq_iff {c small capital : Char} (hsmall : small.val.toNat = capital.val.toNat + 32)
    (hcapital : 65 ≤ capital.val.toNat ∧ capital.val.toNat ≤ 90) :
    c.toLower = small ↔ c = small ∨ c = capital := by
  have hvals (a b : Char) : a = b ↔ a.val.toNat = b.val.toNat :=
    ⟨fun h => h ▸ rfl, fun h => Char.ext (UInt32.toNat_inj.mp h)⟩
  have ha : 'A'.val.toNat = 65 := rfl
  have hz : 'Z'.val.toNat = 90 := rfl
  have hd : ('a'.val - 'A'.val).toNat = 32 := rfl
  unfold Char.toLower
  simp only [hvals, ge_iff_le, UInt32.le_iff_toNat_le, ha, hz]
  split_ifs with h
  · rw [UInt32.toNat_add, hd]
    omega
  · omega

theorem lowerAscii_eq_in_iff (s : String) : lowerAscii s = "in" ↔ s ∈ ["IN", "In", "iN", "in"] := by
  have hi (c : Char) : c.toLower = 'i' ↔ c = 'i' ∨ c = 'I' := toLower_eq_iff rfl (by decide)
  have hn (c : Char) : c.toLower = 'n' ↔ c = 'n' ∨ c = 'N' := toLower_eq_iff rfl (by decide)
  have hchars (cs : List Char) : cs.map Char.toLower = ['i', 'n'] ↔
      cs ∈ [['I', 'N'], ['I', 'n'], ['i', 'N'], ['i', 'n']] := by
    constructor
    · intro h
      obtain ⟨c, rest, rfl, hc, hrest⟩ := List.map_eq_cons_iff.mp h
      obtain ⟨c', rest, rfl, hc', hnil⟩ := List.map_eq_cons_iff.mp hrest
      obtain rfl := List.map_eq_nil_iff.mp hnil
      rcases (hi c).mp hc with rfl | rfl <;> rcases (hn c').mp hc' with rfl | rfl <;> decide
    · simp only [List.mem_cons, List.not_mem_nil, or_false]
      rintro (rfl | rfl | rfl | rfl) <;> rfl
  rw [lowerAscii, ← String.toList_inj, String.toList_ofList]
  refine (hchars _).trans ?_
  simp [← String.toList_inj]

end Text

namespace Comparison

def spellings : Comparison → List String
  | eq => ["="]
  | ne => ["!=", "<>"]
  | ge => [">="]
  | gt => [">"]
  | lt => ["<"]
  | le => ["<="]
  | member => ["IN", "In", "iN", "in"]

def IsSpelled (c : Comparison) (s : String) : Prop :=
  ∃ t ∈ c.spellings, Text.IsTrimmed s.toList t.toList

theorem isSpelled_iff (s : String) (c : Comparison) :
    c.IsSpelled s ↔ Text.trimmed s ∈ c.spellings := by
  have htrimmed (t : String) : Text.IsTrimmed s.toList t.toList ↔ t = Text.trimmed s := by
    rw [Text.isTrimmed_iff, Text.trimmed, ← String.toList_inj, String.toList_ofList, eq_comm]
  simp only [IsSpelled, htrimmed, exists_eq_right]

instance (c : Comparison) (s : String) : Decidable (c.IsSpelled s) :=
  decidable_of_iff _ (isSpelled_iff s c).symm

theorem ofText?_eq_some_iff (s : String) (c : Comparison) :
    ofText? s = some c ↔ c.IsSpelled s := by
  rw [isSpelled_iff]
  unfold ofText?
  generalize Text.trimmed s = t
  have hmember := Text.lowerAscii_eq_in_iff t
  constructor
  · intro h
    dsimp only at h
    split_ifs at h with heq hne hge hgt hlt hle hin <;> cases h
    · exact heq ▸ List.mem_singleton_self _
    · simpa [spellings] using hne
    · exact hge ▸ List.mem_singleton_self _
    · exact hgt ▸ List.mem_singleton_self _
    · exact hlt ▸ List.mem_singleton_self _
    · exact hle ▸ List.mem_singleton_self _
    · exact hmember.mp hin
  · intro h
    cases c with
    | member =>
      rw [spellings] at h
      simp only [hmember.mpr h]
      revert h
      simp only [List.mem_cons, List.not_mem_nil, or_false]
      rintro (rfl | rfl | rfl | rfl) <;> rfl
    | ne => rcases List.mem_pair.mp h with rfl | rfl <;> rfl
    | _ =>
      rw [List.mem_singleton.mp h]
      rfl

end Comparison

namespace Filter

def Written (operators values : List String) (i : Nat) (c : Comparison) (value : String) : Prop :=
  (∃ operator, operators[i]? = some operator ∧ operator ≠ "" ∧ c.IsSpelled operator) ∧
    values[i]? = some value ∧ value ≠ ""

def WellFormed (operators values : List String) (i : Nat) : Prop :=
  ∃ c value, Written operators values i c value

/-- The members of a list are its pieces between the commas without the blanks around them, unless
nothing is left. -/
def IsList (value : String) (members : List String) : Prop :=
  ∃ pieces kept : List (List Char), pieces ≠ [] ∧ (∀ piece ∈ pieces, ',' ∉ piece) ∧
    [','].intercalate pieces = value.toList ∧ List.Forall₂ Text.IsTrimmed pieces kept ∧
    members.map String.toList = kept.filter (· ≠ [])

/-- Membership is tested in a list, and all else with the value as it stands. -/
inductive IsOperand (value : String) : Comparison → Operand → Prop
  | single {c : Comparison} (h : c ≠ .member) : IsOperand value c (.single value)
  | list {members : List String} (h : IsList value members) : IsOperand value .member (.list members)

def IsAt (fields operators values : List String) (i : Nat) (p : Predicate) : Prop :=
  fields[i]? = some p.field ∧
    ∃ value, Written operators values i p.comparison value ∧ IsOperand value p.comparison p.operand

theorem members_map_toList (value : String) :
    (members value).map String.toList =
      ((Text.splitOn ',' value.toList).map Text.trim).filter (· ≠ []) := by
  have hne : (fun m : List Char => !m.isEmpty) = (decide <| · ≠ []) := by
    funext m
    cases m <;> rfl
  rw [members, List.map_map, hne]
  simp [Function.comp_def]

theorem isList_iff {value : String} {ms : List String} : IsList value ms ↔ ms = members value := by
  have hinj : Function.Injective (List.map String.toList) :=
    List.map_injective_iff.mpr fun _ _ => String.toList_inj.mp
  rw [← hinj.eq_iff, members_map_toList]
  constructor
  · rintro ⟨pieces, kept, hne, hcomma, hvalue, htrim, hms⟩
    have hsplit : Text.splitOn ',' value.toList = pieces := by
      rw [Text.splitOn_eq, ← hvalue, List.splitOn_intercalate ',' hcomma hne]
    have hkept : pieces.map Text.trim = kept := by
      rw [← List.forall₂_eq_eq_eq, List.forall₂_map_left_iff]
      exact htrim.imp fun _ _ => Text.IsTrimmed.trim_eq
    rw [hms, hsplit, hkept]
  · intro hms
    refine ⟨_, _, Text.splitOn_ne_nil ',' _, fun piece => Text.not_mem_of_mem_splitOn,
      Text.intercalate_splitOn ',' _, ?_, hms⟩
    exact List.forall₂_map_right_iff.mpr
      (List.forall₂_same.mpr fun piece _ => Text.isTrimmed_trim piece)

theorem isOperand_iff {value : String} {c : Comparison} {x : Operand} :
    IsOperand value c x ↔ x = operand c value := by
  constructor
  · rintro (h | h)
    · cases c <;> first | rfl | exact absurd rfl h
    · rw [isList_iff.mp h]
      rfl
  · rintro rfl
    cases c with
    | member => exact .list (isList_iff.mpr rfl)
    | _ => exact .single nofun

theorem mem_members_iff {m value : String} :
    m ∈ members value ↔
      ∃ piece ∈ Text.splitOn ',' value.toList, Text.trim piece ≠ [] ∧ m = .ofList (Text.trim piece) := by
  simp only [members, List.mem_map, List.mem_filter, Bool.not_eq_true', List.isEmpty_eq_false_iff]
  constructor
  · rintro ⟨_, ⟨⟨piece, hpiece, rfl⟩, hne⟩, rfl⟩
    exact ⟨piece, hpiece, hne, rfl⟩
  · rintro ⟨piece, hpiece, hne, rfl⟩
    exact ⟨_, ⟨⟨piece, hpiece, rfl⟩, hne⟩, rfl⟩

example : members " Emma,, Persuasion ," = ["Emma", "Persuasion"] := by decide

section

variable {fields operators values : List String} {i : Nat}

theorem Written.unique {c c' : Comparison} {v v' : String} (h : Written operators values i c v)
    (h' : Written operators values i c' v') : c = c' ∧ v = v' := by
  obtain ⟨⟨operator, ho, -, hc⟩, hv, -⟩ := h
  obtain ⟨⟨operator', ho', -, hc'⟩, hv', -⟩ := h'
  cases ho.symm.trans ho'
  rw [← Comparison.ofText?_eq_some_iff] at hc hc'
  exact ⟨Option.some.inj (hc.symm.trans hc'), Option.some.inj (hv.symm.trans hv')⟩

theorem IsAt.unique {p q : Predicate} (hp : IsAt fields operators values i p)
    (hq : IsAt fields operators values i q) : p = q := by
  obtain ⟨hfield, v, hwritten, hoperand⟩ := hp
  obtain ⟨hfield', v', hwritten', hoperand'⟩ := hq
  obtain ⟨hc, rfl⟩ := hwritten.unique hwritten'
  obtain ⟨f, c, x⟩ := p
  obtain ⟨f', c', x'⟩ := q
  cases hfield.symm.trans hfield'
  cases hc
  cases (isOperand_iff.mp hoperand).trans (isOperand_iff.mp hoperand').symm
  rfl

theorem written_succ_iff {c : Comparison} {v : String} :
    Written operators values (i + 1) c v ↔ Written operators.tail values.tail i c v := by
  rw [Written, Written, List.getElem?_tail, List.getElem?_tail]

theorem wellFormed_succ_iff :
    WellFormed operators values (i + 1) ↔ WellFormed operators.tail values.tail i := by
  simp only [WellFormed, written_succ_iff]

theorem isAt_succ_iff {f : String} {p : Predicate} :
    IsAt (f :: fields) operators values (i + 1) p ↔ IsAt fields operators.tail values.tail i p := by
  simp only [IsAt, written_succ_iff, List.getElem?_cons_succ]

theorem complete?_eq_some_iff {operator value : String} {c : Comparison} {x : Operand} :
    complete? operator value = some (c, x) ↔
      operator ≠ "" ∧ value ≠ "" ∧ c.IsSpelled operator ∧ IsOperand value c x := by
  have hempty : ¬(operator.isEmpty || value.isEmpty) = true ↔ operator ≠ "" ∧ value ≠ "" := by
    rw [Bool.or_eq_true, not_or, String.isEmpty_iff, String.isEmpty_iff]
  rw [complete?, ← Comparison.ofText?_eq_some_iff, isOperand_iff]
  constructor
  · intro h
    split_ifs at h with hne
    obtain ⟨hoperator, hvalue⟩ := hempty.mp hne
    obtain ⟨c', hc', hc⟩ := Option.map_eq_some_iff.mp h
    cases hc
    exact ⟨hoperator, hvalue, hc', rfl⟩
  · rintro ⟨hoperator, hvalue, hc, rfl⟩
    rw [if_neg (hempty.mpr ⟨hoperator, hvalue⟩), hc, Option.map_some]

theorem complete?_head_iff {c : Comparison} {x : Operand} :
    complete? (operators.head?.getD "") (values.head?.getD "") = some (c, x) ↔
      ∃ value, Written operators values 0 c value ∧ IsOperand value c x := by
  -- what stands for a missing text is empty, so only texts that are there pass
  have hhead (xs : List String) (s : String) (hs : s ≠ "") :
      xs[0]? = some s ↔ xs.head?.getD "" = s := by
    cases xs with
    | nil => simp [Ne.symm hs]
    | cons x xs => simp
  rw [complete?_eq_some_iff]
  constructor
  · rintro ⟨hoperator, hvalue, hc, hx⟩
    exact ⟨_, ⟨⟨_, (hhead operators _ hoperator).mpr rfl, hoperator, hc⟩,
      (hhead values _ hvalue).mpr rfl, hvalue⟩, hx⟩
  · rintro ⟨value, ⟨⟨operator, ho, hoperator, hc⟩, hv, hvalue⟩, hx⟩
    rw [(hhead operators _ hoperator).mp ho, (hhead values _ hvalue).mp hv]
    exact ⟨hoperator, hvalue, hc, hx⟩

theorem complete?_head_eq_none_iff :
    complete? (operators.head?.getD "") (values.head?.getD "") = none ↔
      ¬WellFormed operators values 0 := by
  rw [Option.eq_none_iff_forall_ne_some]
  constructor
  · rintro h ⟨c, v, hwritten⟩
    exact h (c, operand c v) (complete?_head_iff.mpr ⟨v, hwritten, isOperand_iff.mpr rfl⟩)
  · rintro h ⟨c, x⟩ hcx
    obtain ⟨v, hwritten, -⟩ := complete?_head_iff.mp hcx
    exact h ⟨c, v, hwritten⟩

end

theorem exists_prefix_length (fields operators values : List String) :
    ∃ n ≤ fields.length, (∀ i < n, WellFormed operators values i) ∧
      (n < fields.length → ¬WellFormed operators values n) ∧
      ∀ allowed : FieldSet, List.Forall₂ (IsAt fields operators values)
        (allowed.positions (fields.take n)) (ofLists allowed fields operators values) := by
  induction fields generalizing operators values with
  | nil => exact ⟨0, Nat.le_refl _, nofun, nofun, fun _ => .nil⟩
  | cons f fs ih =>
    cases hcomplete : complete? (operators.head?.getD "") (values.head?.getD "") with
    | none =>
      refine ⟨0, Nat.zero_le _, nofun, fun _ => complete?_head_eq_none_iff.mp hcomplete, ?_⟩
      intro allowed
      rw [ofLists, hcomplete]
      exact .nil
    | some cx =>
      obtain ⟨c, x⟩ := cx
      obtain ⟨v, hwritten, hx⟩ := complete?_head_iff.mp hcomplete
      obtain ⟨n, hn, hbefore, hend, hpredicates⟩ := ih operators.tail values.tail
      refine ⟨n + 1, Nat.succ_le_succ hn, ?_, ?_, ?_⟩
      · intro i hi
        cases i with
        | zero => exact ⟨c, v, hwritten⟩
        | succ i => exact wellFormed_succ_iff.mpr (hbefore i (Nat.lt_of_succ_lt_succ hi))
      · intro hlt
        rw [wellFormed_succ_iff]
        exact hend (Nat.lt_of_succ_lt_succ hlt)
      · intro allowed
        have hrest : List.Forall₂ (IsAt (f :: fs) operators values)
            ((allowed.positions (fs.take n)).map (· + 1))
            (ofLists allowed fs operators.tail values.tail) := by
          rw [List.forall₂_map_left_iff]
          exact (hpredicates allowed).imp fun i p hp => isAt_succ_iff.mpr hp
        rw [ofLists, hcomplete, List.take_succ_cons, FieldSet.positions_cons]
        dsimp only
        split_ifs
        · exact .cons ⟨rfl, v, hwritten, hx⟩ hrest
        · exact hrest

structure Accepted (allowed : FieldSet) (fields operators values : List String) (i : Nat)
    (f : String) (c : Comparison) (value : String) : Prop where
  field : fields[i]? = some f
  offered : allowed.contains f = true
  written : Written operators values i c value
  before : ∀ j < i, WellFormed operators values j

theorem mem_ofLists_iff {allowed : FieldSet} {fields operators values : List String}
    {p : Predicate} :
    p ∈ ofLists allowed fields operators values ↔
      ∃ i value, Accepted allowed fields operators values i p.field p.comparison value ∧
        IsOperand value p.comparison p.operand := by
  obtain ⟨n, hn, hbefore, hend, hpredicates⟩ := exists_prefix_length fields operators values
  obtain ⟨hlength, hat⟩ := List.forall₂_iff_get.mp (hpredicates allowed)
  constructor
  · intro hp
    obtain ⟨k, hk, rfl⟩ := List.mem_iff_getElem.mp hp
    obtain ⟨hi, f, hf, hoffered⟩ :=
      FieldSet.mem_positions_take.mp (List.getElem_mem (hlength ▸ hk))
    obtain ⟨hfield, v, hwritten, hoperand⟩ := hat k (hlength ▸ hk) hk
    cases hf.symm.trans hfield
    exact ⟨_, v, ⟨hfield, hoffered, hwritten, fun j hj => hbefore j (Nat.lt_trans hj hi)⟩, hoperand⟩
  · rintro ⟨i, v, haccepted, hoperand⟩
    have hlt : i < n := by
      -- the first malformed position is neither before an accepted one nor that one itself
      by_contra hle
      have hi := (List.getElem?_eq_some_iff.mp haccepted.field).1
      have hmalformed := hend (Nat.lt_of_le_of_lt (Nat.le_of_not_lt hle) hi)
      rcases Nat.eq_or_lt_of_le (Nat.le_of_not_lt hle) with rfl | hlt
      · exact hmalformed ⟨_, v, haccepted.written⟩
      · exact hmalformed (haccepted.before n hlt)
    have hi : i ∈ allowed.positions (fields.take n) :=
      FieldSet.mem_positions_take.mpr ⟨hlt, _, haccepted.field, haccepted.offered⟩
    obtain ⟨k, hk, rfl⟩ := List.mem_iff_getElem.mp hi
    have hsame := (hat k hk (hlength ▸ hk)).unique ⟨haccepted.field, v, haccepted.written, hoperand⟩
    exact hsame ▸ List.getElem_mem _

theorem ofLists_take (allowed : FieldSet) (fields operators values : List String) {i : Nat}
    (h : ¬WellFormed operators values i) :
    ofLists allowed (fields.take i) (operators.take i) (values.take i) =
      ofLists allowed fields operators values := by
  have hhead (xs : List String) (i : Nat) : (xs.take (i + 1)).head? = xs.head? := by
    cases xs <;> rfl
  have htail (xs : List String) (i : Nat) : (xs.take (i + 1)).tail = xs.tail.take i := by
    cases xs <;> simp
  induction fields generalizing operators values i with
  | nil => rw [List.take_nil, ofLists, ofLists]
  | cons f fs ih =>
    cases i with
    | zero =>
      rw [ofLists, complete?_head_eq_none_iff.mpr h]
      rfl
    | succ i =>
      rw [wellFormed_succ_iff] at h
      rw [List.take_succ_cons, ofLists, ofLists, hhead, hhead, htail, htail, ih _ _ h]

theorem ofLists_eraseIdx {allowed : FieldSet} {fields operators values : List String} {i : Nat}
    {f : String} (hf : fields[i]? = some f) (hhidden : allowed.contains f = false)
    (h : WellFormed operators values i) :
    ofLists allowed (fields.eraseIdx i) (operators.eraseIdx i) (values.eraseIdx i) =
      ofLists allowed fields operators values := by
  have hhead (xs : List String) (i : Nat) : (xs.eraseIdx (i + 1)).head? = xs.head? := by
    cases xs <;> rfl
  have htail (xs : List String) (i : Nat) : (xs.eraseIdx (i + 1)).tail = xs.tail.eraseIdx i := by
    cases xs <;> simp
  induction fields generalizing operators values i with
  | nil => cases hf
  | cons g gs ih =>
    cases i with
    | zero =>
      cases hf
      obtain ⟨c, v, hwritten⟩ := h
      rw [ofLists, complete?_head_iff.mpr ⟨v, hwritten, isOperand_iff.mpr rfl⟩]
      simp [hhidden]
    | succ i =>
      rw [wellFormed_succ_iff] at h
      rw [List.eraseIdx_cons_succ, ofLists, ofLists, hhead, hhead, htail, htail, ih hf h]

/-- The predicates are those of the longest well-formed prefix, without its hidden fields. Nothing
from a malformed position on matters, nor does a hidden field before it. -/
theorem prefix_and_ofLists_eq (fields operators values : List String) :
    (∃ n ≤ fields.length, (∀ i < n, WellFormed operators values i) ∧
      (n < fields.length → ¬WellFormed operators values n) ∧
      ∀ allowed : FieldSet, List.Forall₂ (IsAt fields operators values)
        (allowed.positions (fields.take n)) (ofLists allowed fields operators values)) ∧
    ∀ (allowed : FieldSet) (i : Nat),
      (¬WellFormed operators values i →
        ofLists allowed (fields.take i) (operators.take i) (values.take i) =
          ofLists allowed fields operators values) ∧
      ∀ f, fields[i]? = some f → allowed.contains f = false → WellFormed operators values i →
        ofLists allowed (fields.eraseIdx i) (operators.eraseIdx i) (values.eraseIdx i) =
          ofLists allowed fields operators values := by
  refine ⟨exists_prefix_length fields operators values, fun allowed i => ⟨fun h => ?_, ?_⟩⟩
  · exact ofLists_take allowed fields operators values h
  · exact fun f hf hhidden h => ofLists_eraseIdx hf hhidden h

theorem ofLists_books :
    let allowed := (Catalog.offer
      { name := "Books", entity := "Book", fields := [{ name := "Title" }] }).fields
    let filter := ofLists allowed ["Secret", "Title", "Title"] ["=", " != ", "like"] ["x", "Emma", "y"]
    ofLists allowed ["Secret", "Title"] ["=", " != "] ["x", "Emma"] = filter ∧
      ofLists allowed ["Title", "Title"] [" != ", "like"] ["Emma", "y"] = filter := by
  intro allowed filter
  have hhidden : allowed.contains "Secret" = false :=
    Catalog.contains_fieldSet_eq_false _ (by decide)
  have hfirst : WellFormed ["=", " != ", "like"] ["x", "Emma", "y"] 0 :=
    ⟨.eq, "x", ⟨"=", rfl, by decide, by decide⟩, rfl, by decide⟩
  have hlast : ¬WellFormed ["=", " != ", "like"] ["x", "Emma", "y"] 2 := by
    rintro ⟨c, v, ⟨operator, ho, -, hc⟩, -⟩
    cases ho
    revert hc
    cases c <;> decide
  have hsame := (prefix_and_ofLists_eq ["Secret", "Title", "Title"] ["=", " != ", "like"]
    ["x", "Emma", "y"]).2 allowed
  exact ⟨(hsame 2).1 hlast, (hsame 0).2 "Secret" rfl hhidden hfirst⟩

end Filter

end Reporting
