import Reporting.Text.Quoted

/-! Reading a quoted text from its opening mark on. The inside of a text ends at the first closing
mark that is not followed by another one, so that quoting is undone whatever the text holds. -/

namespace Reporting.Text.Quotes

def unescape (c : Char) : List Char :=
  match c with
  | '0' => [Char.ofNat 0]
  | 'b' => [Char.ofNat 8]
  | 'n' => ['\n']
  | 'r' => ['\r']
  | 't' => ['\t']
  | 'Z' => [Char.ofNat 26]
  | '%' => ['\\', '%']
  | '_' => ['\\', '_']
  | c => [c]

def scan (q : Quotes) : List Char → Option (List Char × List Char)
  | [] => none
  | [c] => if c = q.closing then some ([], []) else none
  | c :: c' :: cs =>
    if c = q.closing then
      if c' = q.closing then (scan q cs).map fun p => (c :: p.1, p.2) else some ([], c' :: cs)
    else if q.escape = some c then (scan q cs).map fun p => (unescape c' ++ p.1, p.2)
    else (scan q (c' :: cs)).map fun p => (c :: p.1, p.2)

def Legible (q : Quotes) : Prop := ∀ e, q.escape = some e → e = '\\' ∧ e ≠ q.closing

theorem scan_closing (q : Quotes) {rest : List Char} (h : rest.head? ≠ some q.closing) :
    q.scan (q.closing :: rest) = some ([], rest) := by
  cases rest with
  | nil => rw [scan, if_pos rfl]
  | cons c cs =>
    have hc : c ≠ q.closing := fun hc => h (congrArg some hc)
    rw [scan, if_pos rfl, if_neg hc]

theorem scan_doubled (q : Quotes) (cs : List Char) :
    q.scan (q.closing :: q.closing :: cs) = (q.scan cs).map fun p => (q.closing :: p.1, p.2) := by
  rw [scan, if_pos rfl, if_pos rfl]

theorem scan_escaped {q : Quotes} (hq : q.Legible) {e : Char} (he : q.escape = some e)
    (cs : List Char) : q.scan (e :: e :: cs) = (q.scan cs).map fun p => (e :: p.1, p.2) := by
  obtain ⟨rfl, hne⟩ := hq e he
  rw [scan, if_neg hne, if_pos he]
  rfl

theorem scan_plain (q : Quotes) {c : Char} (hc : c ≠ q.closing) (he : q.escape ≠ some c)
    (cs : List Char) : q.scan (c :: cs) = (q.scan cs).map fun p => (c :: p.1, p.2) := by
  cases cs with
  | nil => simp only [scan, if_neg hc, Option.map_none]
  | cons c' cs => rw [scan, if_neg hc, if_neg he]

theorem scan_body_append {q : Quotes} (hq : q.Legible) (cs tail : List Char) :
    q.scan (q.body cs ++ tail) = (q.scan tail).map fun p => (cs ++ p.1, p.2) := by
  induction cs with
  | nil =>
    rw [body_nil]
    exact Option.map_id'.symm
  | cons c cs ih =>
    have hread : ((q.scan (q.body cs ++ tail)).map fun p => (c :: p.1, p.2)) =
        (q.scan tail).map fun p => (c :: cs ++ p.1, p.2) := by
      rw [ih, Option.map_map]
      rfl
    rw [body_cons fun h => (hq _ h).2 rfl, List.append_assoc, ← hread]
    by_cases hc : c = q.closing
    · subst hc
      rw [if_pos (.inl rfl)]
      exact scan_doubled q _
    by_cases he : q.escape = some c
    · rw [if_pos (.inr he)]
      exact scan_escaped hq he _
    · rw [if_neg (not_or.mpr ⟨hc, he⟩)]
      exact scan_plain q hc he _

theorem scan_body {q : Quotes} (hq : q.Legible) (cs : List Char) {rest : List Char}
    (h : rest.head? ≠ some q.closing) :
    q.scan (q.body cs ++ q.closing :: rest) = some (cs, rest) := by
  rw [scan_body_append hq, scan_closing q h, Option.map_some, List.append_nil]

theorem scan_length {q : Quotes} {cs : List Char} {p : List Char × List Char}
    (h : q.scan cs = some p) : p.2.length < cs.length := by
  fun_induction q.scan cs generalizing p with
  | case1 => cases h
  | case2 =>
    cases h
    exact Nat.zero_lt_one
  | case3 => cases h
  | case4 cs ih =>
    obtain ⟨r, hr, rfl⟩ := Option.map_eq_some_iff.mp h
    have := ih hr
    simp only [List.length_cons]
    omega
  | case5 =>
    cases h
    exact Nat.lt_succ_self _
  | case6 c c' cs hc he ih =>
    obtain ⟨r, hr, rfl⟩ := Option.map_eq_some_iff.mp h
    have := ih hr
    simp only [List.length_cons]
    omega
  | case7 c c' cs hc he ih =>
    obtain ⟨r, hr, rfl⟩ := Option.map_eq_some_iff.mp h
    have := ih hr
    exact Nat.lt_succ_of_lt this

theorem scan_body_eq_some_iff {q : Quotes} (hq : q.Legible) (cs rest : List Char) :
    q.scan (q.body cs ++ q.closing :: rest) = some (cs, rest) ↔ rest.head? ≠ some q.closing := by
  constructor
  · intro h hrest
    obtain ⟨rest', rfl⟩ := List.head?_eq_some_iff.mp hrest
    rw [scan_body_append hq, scan_doubled, Option.map_map] at h
    obtain ⟨p, hp, hread⟩ := Option.map_eq_some_iff.mp h
    -- both marks are behind what is read, so less is left than stands there
    have hlength := scan_length hp
    have hleft : p.2 = q.closing :: rest' := congrArg Prod.snd hread
    rw [hleft, List.length_cons] at hlength
    omega
  · exact scan_body hq cs

end Reporting.Text.Quotes
