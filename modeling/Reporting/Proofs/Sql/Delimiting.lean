import Reporting.Proofs.Sql.Lexing

/-! Names and strings as a dialect reads them, from their first mark on. What is read ends right
behind what was quoted, unless the text there goes on with another closing mark. -/

namespace Reporting

namespace Text.Quotes

def read (q : Quotes) (cs : List Char) : Option (String × List Char) :=
  (q.scan cs).map fun p => (.ofList p.1, p.2)

theorem read_body_eq_some_iff {q : Quotes} (hq : q.Legible) (s : String) (rest : List Char) :
    q.read (q.body s.toList ++ q.closing :: rest) = some (s, rest) ↔
      rest.head? ≠ some q.closing := by
  rw [← scan_body_eq_some_iff hq s.toList rest, read]
  constructor
  · intro h
    obtain ⟨p, hp, heq⟩ := Option.map_eq_some_iff.mp h
    obtain ⟨htext, hrest⟩ := Prod.mk.inj heq
    have hread : p = (s.toList, rest) := by
      rw [← htext, ← hrest, String.toList_ofList]
    rw [hp, hread]
  · intro h
    rw [h, Option.map_some, String.ofList_toList]

end Text.Quotes

namespace Sql.Dialect

def nameMarks : Dialect → Char × Char
  | mySql => ('\x60', '\x60')
  | tSql => ('[', ']')
  | _ => ('\x22', '\x22')

/-- A name and what follows it. A closing mark within the name is doubled, and nothing else is. -/
def readName (d : Dialect) : List Char → Option (String × List Char)
  | [] => none
  | c :: cs =>
    if c = d.nameMarks.1 then Text.Quotes.read ⟨[c], d.nameMarks.2, none⟩ cs else none

/-- A string and what follows it; where strings may be national text, an `N` can come first. -/
def readString (d : Dialect) : List Char → Option (String × List Char)
  | '\x27' :: cs => d.literalQuotes.read cs
  | 'N' :: '\x27' :: cs => if d = tSql then d.literalQuotes.read cs else none
  | _ => none

/-- Reading undoes quoting and stops where the quoted text ends, unless the mark goes on there. -/
def Delimits (read : List Char → Option (String × List Char)) (quote : String → String)
    (mark : Char) : Prop :=
  ∀ s rest, read ((quote s).toList ++ rest) = some (s, rest) ↔ rest.head? ≠ some mark

theorem Delimits.append_eq_append_iff {read : List Char → Option (String × List Char)}
    {quote : String → String} {mark : Char} (h : Delimits read quote mark) {s t : String}
    {rest rest' : List Char} (hrest : rest.head? ≠ some mark) (hrest' : rest'.head? ≠ some mark) :
    (quote s).toList ++ rest = (quote t).toList ++ rest' ↔ s = t ∧ rest = rest' := by
  constructor
  · intro heq
    have hs := (h s rest).mpr hrest
    have ht := (h t rest').mpr hrest'
    rw [heq, ht] at hs
    obtain ⟨hst, hrests⟩ := Prod.mk.inj (Option.some.inj hs)
    exact ⟨hst.symm, hrests.symm⟩
  · rintro ⟨rfl, rfl⟩
    rfl

theorem nameQuotes_eq (d : Dialect) : d.nameQuotes = ⟨[d.nameMarks.1], d.nameMarks.2, none⟩ := by
  cases d <;> rfl

theorem delimits_quoteName (d : Dialect) : Delimits d.readName d.quoteName d.nameMarks.2 := by
  intro s rest
  have hlegible : d.nameQuotes.Legible := by
    rw [nameQuotes_eq]
    exact fun _ h => nomatch h
  have hread := Text.Quotes.read_body_eq_some_iff hlegible s rest
  rw [nameQuotes_eq] at hread
  rw [quoteName, nameQuotes_eq, Text.Quotes.write, String.toList_ofList, List.append_assoc,
    List.append_assoc, List.singleton_append, List.singleton_append, readName, if_pos rfl]
  exact hread

theorem delimits_quoteString (d : Dialect) : Delimits d.readString d.quoteString '\x27' := by
  intro s rest
  have hread := Text.Quotes.read_body_eq_some_iff d.legible_literalQuotes s rest
  rw [closing_literalQuotes] at hread
  rcases toList_quoteString d s with hs | ⟨rfl, hs⟩
  · rw [hs, List.cons_append, List.append_assoc]
    exact hread
  · rw [hs, List.cons_append, List.cons_append, List.append_assoc, readString, if_pos rfl]
    exact hread

/-- In every dialect a quoted string or name is read back, and reading stops where it ends if and only
if its mark does not go on there. So quoted texts are told apart whatever follows them. -/
theorem readString_iff_and_readName_iff (d : Dialect) (s : String) (rest : List Char) :
    (d.readString ((d.quoteString s).toList ++ rest) = some (s, rest) ↔
      rest.head? ≠ some '\x27') ∧
    (d.readName ((d.quoteName s).toList ++ rest) = some (s, rest) ↔
      rest.head? ≠ some d.nameMarks.2) ∧
    (∀ t rest', rest.head? ≠ some '\x27' → rest'.head? ≠ some '\x27' →
      ((d.quoteString s).toList ++ rest = (d.quoteString t).toList ++ rest' ↔
        s = t ∧ rest = rest')) ∧
    ∀ t rest', rest.head? ≠ some d.nameMarks.2 → rest'.head? ≠ some d.nameMarks.2 →
      ((d.quoteName s).toList ++ rest = (d.quoteName t).toList ++ rest' ↔
        s = t ∧ rest = rest') := by
  refine ⟨delimits_quoteString d s rest, delimits_quoteName d s rest, ?_, ?_⟩
  · intro t rest' hrest hrest'
    exact (delimits_quoteString d).append_eq_append_iff hrest hrest'
  · intro t rest' hrest hrest'
    exact (delimits_quoteName d).append_eq_append_iff hrest hrest'

theorem readString_and_readName_of_marks :
    let s := "O'Neill]\x60\\"
    let rest := " OR '' = ''".toList
    rest.head? ≠ some '\x27' ∧ rest.head? ≠ some ']' ∧ rest.head? ≠ some '\x60' ∧
      mySql.readString ((mySql.quoteString s).toList ++ rest) = some (s, rest) ∧
      mySql.readName ((mySql.quoteName s).toList ++ rest) = some (s, rest) ∧
      tSql.readName ((tSql.quoteName s).toList ++ rest) = some (s, rest) ∧
      (tSql.quoteString s).toList ++ rest ≠ (tSql.quoteString "O").toList ++ rest := by
  intro s rest
  have hstring : rest.head? ≠ some '\x27' := by decide
  have hbracket : rest.head? ≠ some ']' := by decide
  have hbacktick : rest.head? ≠ some '\x60' := by decide
  have hmySql := readString_iff_and_readName_iff mySql s rest
  have htSql := readString_iff_and_readName_iff tSql s rest
  refine ⟨hstring, hbracket, hbacktick, hmySql.1.mpr hstring, hmySql.2.1.mpr hbacktick,
    htSql.2.1.mpr hbracket, ?_⟩
  intro heq
  have hsame := ((htSql.2.2.1 "O" rest hstring hstring).mp heq).1
  revert hsame
  decide

end Sql.Dialect

end Reporting
