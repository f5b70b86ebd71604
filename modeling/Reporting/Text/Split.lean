/-!
Cutting texts at a character and replacing a pattern, over lists of characters.
-/

namespace Reporting.Text

def cutAt (sep : Char) : List Char → Option (List Char × List Char)
  | [] => none
  | c :: cs =>
    if c = sep then some ([], cs)
    else (cutAt sep cs).map fun p => (c :: p.1, p.2)

theorem eq_append_of_cutAt {sep : Char} {cs a b : List Char} (h : cutAt sep cs = some (a, b)) :
    cs = a ++ sep :: b := by
  induction cs generalizing a with
  | nil => simp [cutAt] at h
  | cons c cs ih =>
    by_cases hc : c = sep
    · simp [cutAt, hc] at h
      simp [h.1.symm, h.2, hc]
    · cases hcut : cutAt sep cs with
      | none => simp [cutAt, hc, hcut] at h
      | some p =>
        simp only [cutAt, hc, hcut, if_false, Option.map_some, Option.some.injEq,
          Prod.mk.injEq] at h
        rw [← h.1, ih (a := p.1) (by rw [hcut, ← h.2]), List.cons_append]

def splitOn (sep : Char) : List Char → List (List Char)
  | [] => [[]]
  | c :: cs =>
    if c = sep then [] :: splitOn sep cs
    else
      match splitOn sep cs with
      | [] => [[c]]
      | p :: ps => (c :: p) :: ps

theorem splitOn_ne_nil (sep : Char) (cs : List Char) : splitOn sep cs ≠ [] := by
  cases cs with
  | nil => simp [splitOn]
  | cons c cs =>
    by_cases hc : c = sep
    · simp [splitOn, hc]
    · cases h : splitOn sep cs <;> simp [splitOn, hc, h]

theorem intercalate_splitOn (sep : Char) (cs : List Char) :
    [sep].intercalate (splitOn sep cs) = cs := by
  induction cs with
  | nil => simp [splitOn]
  | cons c cs ih =>
    cases h : splitOn sep cs with
    | nil => exact absurd h (splitOn_ne_nil sep cs)
    | cons p ps =>
      rw [h] at ih
      by_cases hc : c = sep
      · simp only [splitOn, hc, if_true, h]
        rw [← ih]
        simp [List.intercalate]
      · simp only [splitOn, hc, if_false, h]
        rw [← ih]
        cases ps <;> simp [List.intercalate]

/--
Replaces every occurrence of the non-empty `pattern`, found from left to right without overlap;
the first `skip` characters belong to an occurrence already replaced.
-/
def replaceFrom (pattern replacement : List Char) : Nat → List Char → List Char
  | _, [] => []
  | skip + 1, _ :: cs => replaceFrom pattern replacement skip cs
  | 0, c :: cs =>
    if pattern.isPrefixOf (c :: cs) then
      replacement ++ replaceFrom pattern replacement (pattern.length - 1) cs
    else c :: replaceFrom pattern replacement 0 cs

theorem replaceFrom_singleton (c : Char) (replacement cs : List Char) :
    replaceFrom [c] replacement 0 cs = cs.flatMap fun d => if d = c then replacement else [d] := by
  induction cs with
  | nil => rfl
  | cons d cs ih =>
    have hstarts : [c].isPrefixOf (d :: cs) = true ↔ d = c := by
      rw [List.isPrefixOf, List.isPrefixOf, Bool.and_true, beq_iff_eq]
      exact eq_comm
    rw [replaceFrom, List.flatMap_cons, ← ih]
    by_cases hd : d = c
    · rw [if_pos (hstarts.mpr hd), if_pos hd]
      rfl
    · rw [if_neg fun h => hd (hstarts.mp h), if_neg hd]
      rfl

def replace (s pattern replacement : String) : String :=
  .ofList (replaceFrom pattern.toList replacement.toList 0 s.toList)

def occursIn (pattern : List Char) : List Char → Bool
  | [] => pattern.isEmpty
  | c :: cs => pattern.isPrefixOf (c :: cs) || occursIn pattern cs

def lowerAscii (s : String) : String :=
  .ofList (s.toList.map Char.toLower)

theorem lowerAscii_lowerAscii (s : String) : lowerAscii (lowerAscii s) = lowerAscii s := by
  have hchar (c : Char) : c.toLower.toLower = c.toLower := by
    unfold Char.toLower
    grind
  rw [lowerAscii, lowerAscii, String.toList_ofList, List.map_map]
  exact congrArg String.ofList (List.map_congr_left fun c _ => hchar c)

def digits (n : Nat) : List Char :=
  if n < 10 then [Char.ofNat (48 + n)] else digits (n / 10) ++ [Char.ofNat (48 + n % 10)]

def ofInt (n : Int) : String :=
  .ofList (if n < 0 then '-' :: digits n.natAbs else digits n.natAbs)

def ofNat (n : Nat) : String := .ofList (digits n)

def hexDigits (n : Nat) : List Char :=
  let d := fun k => if k < 10 then Char.ofNat (48 + k) else Char.ofNat (87 + k)
  if n < 16 then [d n] else hexDigits (n / 16) ++ [d (n % 16)]

end Reporting.Text
