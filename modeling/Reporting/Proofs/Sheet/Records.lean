import Mathlib.Tactic.SplitIfs
import Reporting.Proofs.Text.Scanning
import Reporting.Sheet.Csv

/-! Reading comma-separated records. Lines end with a carriage return and a line feed, fields may
stand in quotes, and a quote within them is doubled. What a sheet is written as reads as the records
of the sheet, whatever its labels, titles and cells hold. -/

namespace Reporting.Csv

def isPlain (c : Char) : Bool := c ∉ [',', '\x22', '\r', '\n']

def readField : List Char → Option (List Char × List Char)
  | '\x22' :: cs => Text.Quotes.double.scan cs
  | cs => some (cs.takeWhile isPlain, cs.dropWhile isPlain)

theorem readField_length {cs : List Char} {p : List Char × List Char}
    (h : readField cs = some p) : p.2.length ≤ cs.length := by
  unfold readField at h
  split at h
  · exact Nat.le_succ_of_le (Nat.le_of_lt (Text.Quotes.scan_length h))
  · cases h
    exact (List.dropWhile_suffix isPlain).length_le

/-- The fields of a line, and the lines behind it. Nothing but a comma or the end of the line may
follow a field. -/
def readRecord (cs : List Char) : Option (List String × List Char) :=
  match _h : readField cs with
  | some (f, ',' :: rest) => (readRecord rest).map fun p => (.ofList f :: p.1, p.2)
  | some (f, '\r' :: '\n' :: rest) => some ([.ofList f], rest)
  | some (f, []) => some ([.ofList f], [])
  | _ => none
termination_by cs.length
decreasing_by exact readField_length _h

theorem readRecord_length {cs : List Char} {p : List String × List Char}
    (h : readRecord cs = some p) : p.2.length ≤ cs.length - 1 := by
  fun_induction readRecord cs generalizing p with
  | case1 cs f rest hfield ih =>
    obtain ⟨q, hq, rfl⟩ := Option.map_eq_some_iff.mp h
    have hlt : rest.length + 1 ≤ cs.length := readField_length hfield
    have := ih hq
    show q.2.length ≤ _
    omega
  | case2 cs f rest hfield =>
    cases h
    have hlt : rest.length + 2 ≤ cs.length := readField_length hfield
    show rest.length ≤ _
    omega
  | case3 cs f hfield =>
    cases h
    exact Nat.zero_le _
  | case4 => cases h

def readRecords : List Char → Option (List (List String))
  | [] => some []
  | c :: cs =>
    match _h : readRecord (c :: cs) with
    | none => none
    | some (record, rest) => (readRecords rest).map (record :: ·)
termination_by cs => cs.length
decreasing_by exact Nat.lt_succ_of_le (readRecord_length _h)

def read (text : String) : Option (List (List String)) := readRecords text.toList

/-! What is written for a field, a record and all records. -/

def EndsField (cs : List Char) : Prop := ∀ c ∈ cs.head?, c = ',' ∨ c = '\r'

theorem endsField_comma (cs : List Char) : EndsField (',' :: cs) :=
  fun c hc => by cases hc; exact .inl rfl

theorem endsField_line (cs : List Char) : EndsField ('\r' :: cs) :=
  fun c hc => by cases hc; exact .inr rfl

theorem EndsField.head?_ne {cs : List Char} (h : EndsField cs) : cs.head? ≠ some '\x22' := by
  intro hquote
  rcases h _ hquote with hc | hc <;> revert hc <;> decide

theorem readField_quoted (s : String) {rest : List Char} (h : EndsField rest) :
    readField ((quotes.write s).toList ++ rest) = some (s.toList, rest) := by
  have hlegible : Text.Quotes.double.Legible := fun _ h => nomatch h
  rw [quotes, Text.Quotes.write, String.toList_ofList, List.append_assoc, List.append_assoc]
  exact Text.Quotes.scan_body hlegible s.toList h.head?_ne

theorem readField_plain {cs : List Char} (hcs : ∀ c ∈ cs, isPlain c = true) {rest : List Char}
    (h : EndsField rest) : readField (cs ++ rest) = some (cs, rest) := by
  have hstop : rest.takeWhile isPlain = [] ∧ rest.dropWhile isPlain = rest := by
    cases rest with
    | nil => exact ⟨rfl, rfl⟩
    | cons c rest =>
      have hc : isPlain c = false := by rcases h c rfl with rfl | rfl <;> decide
      simp [List.takeWhile, List.dropWhile, hc]
  have hquote : (cs ++ rest).head? ≠ some '\x22' := by
    cases cs with
    | nil => exact h.head?_ne
    | cons c cs =>
      rintro ⟨⟩
      exact absurd (hcs _ List.mem_cons_self) (by decide)
  rw [readField]
  · rw [List.takeWhile_append_of_pos hcs, List.dropWhile_append_of_pos hcs, hstop.1, hstop.2,
      List.append_nil]
  · rintro cs' hcs'
    exact hquote (by rw [hcs']; rfl)

theorem readField_field (s : String) {rest : List Char} (h : EndsField rest) :
    readField (field s ++ rest) = some (s.toList, rest) := by
  unfold field
  split_ifs with hspecial
  · exact readField_quoted s h
  · refine readField_plain (fun c hc => ?_) h
    have hc : ¬isSpecial c = true := fun hs => hspecial (List.any_eq_true.mpr ⟨c, hc, hs⟩)
    simpa [isSpecial, isPlain, and_assoc] using hc

theorem readRecord_comma {cs f rest : List Char} (h : readField cs = some (f, ',' :: rest)) :
    readRecord cs = (readRecord rest).map fun p => (.ofList f :: p.1, p.2) := by
  rw [readRecord]
  split <;> simp_all

theorem readRecord_line {cs f rest : List Char}
    (h : readField cs = some (f, '\r' :: '\n' :: rest)) :
    readRecord cs = some ([.ofList f], rest) := by
  rw [readRecord]
  split <;> simp_all

theorem readRecord_fields (s : String) (ss : List String) (rest : List Char) :
    readRecord (fields (s :: ss) ++ '\r' :: '\n' :: rest) = some (s :: ss, rest) := by
  induction ss generalizing s with
  | nil =>
    rw [fields, readRecord_line (readField_field s (endsField_line _)), String.ofList_toList]
  | cons t ss ih =>
    rw [fields, List.append_assoc, List.cons_append,
      readRecord_comma (readField_field s (endsField_comma _)), ih, String.ofList_toList]
    · rfl
    · exact List.cons_ne_nil t ss

theorem readRecord_empty (rest : List Char) :
    readRecord ('\x22' :: '\x22' :: '\r' :: '\n' :: rest) = some ([""], rest) :=
  readRecord_line (readField_quoted "" (endsField_line _))

/-- What a record reads as: one without fields cannot be told from one with an empty field. -/
def visible (record : List String) : List String := if record = [] then [""] else record

theorem fields_eq_nil {ss : List String} (h : fields ss = []) : visible ss = [""] := by
  match ss, h with
  | [], _ => rfl
  | [s], h =>
    unfold fields field at h
    split_ifs at h with hspecial
    · exact absurd h (by simp [quotes, Text.Quotes.write, Text.Quotes.double])
    · rw [String.toList_eq_nil_iff.mp h]
      rfl
  | s :: t :: ss, h => exact absurd (List.append_eq_nil_iff.mp h).2 (List.cons_ne_nil _ _)

theorem readRecord_record (ss : List String) (rest : List Char) :
    readRecord (record ss ++ rest) = some (visible ss, rest) := by
  unfold record
  split
  · rename_i hnil
    rw [fields_eq_nil hnil]
    exact readRecord_empty rest
  · rename_i hne
    cases ss with
    | nil => exact absurd rfl hne
    | cons s ss =>
      rw [List.append_assoc]
      exact readRecord_fields s ss rest

theorem readRecords_cons {cs : List Char} (hne : cs ≠ []) {r : List String} {rest : List Char}
    (h : readRecord cs = some (r, rest)) : readRecords cs = (readRecords rest).map (r :: ·) := by
  obtain ⟨c, cs, rfl⟩ := List.exists_cons_of_ne_nil hne
  rw [readRecords]
  split <;> simp_all

theorem readRecords_flatMap (rs : List (List String)) :
    readRecords (rs.flatMap record) = some (rs.map visible) := by
  induction rs with
  | nil => rw [List.flatMap_nil, readRecords, List.map_nil]
  | cons r rs ih =>
    -- every record ends its own line, so there is something to read
    have hne : record r ++ rs.flatMap record ≠ [] :=
      List.append_ne_nil_of_left_ne_nil
        (List.append_ne_nil_of_right_ne_nil _ (List.cons_ne_nil _ _)) _
    rw [List.flatMap_cons, readRecords_cons hne (readRecord_record r _), ih]
    rfl

/-- Whatever labels, titles and cells hold, a rendered sheet reads as its labels, then for each
section its title and its rows, and its totals at the end. -/
theorem read_render (s : Sheet) :
    read (render s) = some
      (([s.columns.map Prod.snd] ++
        s.report.sections.flatMap (fun x => x.title.toList.map (fun title => [title]) ++
          x.rows.map fun r => s.columns.map fun c => s.cell r c.1) ++
        s.report.totals.toList.map fun r => s.columns.map fun c => s.cell r c.1).map
          fun r => if r = [] then [""] else r) := by
  rw [read, render, String.toList_ofList, readRecords_flatMap]
  rfl

end Reporting.Csv
