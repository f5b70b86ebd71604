import Mathlib.Tactic.SplitIfs
import Reporting.Proofs.Text.Scanning
import Reporting.Sql.Token

/-! The lexemes of SQL text, by the rules of the dialect it is written in. A name ends at its own
closing quote and a word where its letters end. -/

namespace Reporting.Sql

inductive Lexeme where
  | word (s : String)
  | name (s : String)
  | string (s : String)
  | number (s : String)
  | mark (m : Mark)
  deriving DecidableEq, Repr

def isWordChar (c : Char) : Bool := c.isAlpha || c == '_'

/-- The quotes of a string literal, with or without the mark of national text before them. -/
def Dialect.literalQuotes : Dialect → Text.Quotes
  | .mySql => .backslash
  | _ => .single

theorem Dialect.closing_literalQuotes (d : Dialect) : d.literalQuotes.closing = '\x27' := by
  cases d <;> rfl

theorem Dialect.legible_literalQuotes (d : Dialect) : d.literalQuotes.Legible := by
  cases d with
  | mySql =>
    rintro e ⟨⟩
    exact ⟨rfl, by decide⟩
  | _ => exact fun _ h => nomatch h

def Mark.ofChars? : List Char → Option (Mark × List Char)
  | '<' :: '>' :: cs => some (.ne, cs)
  | '<' :: '=' :: cs => some (.le, cs)
  | '<' :: cs => some (.lt, cs)
  | '>' :: '=' :: cs => some (.ge, cs)
  | '>' :: cs => some (.gt, cs)
  | '=' :: cs => some (.eq, cs)
  | ',' :: cs => some (.comma, cs)
  | '.' :: cs => some (.dot, cs)
  | '*' :: cs => some (.star, cs)
  | '(' :: cs => some (.lparen, cs)
  | ')' :: cs => some (.rparen, cs)
  | '+' :: cs => some (.plus, cs)
  | _ => none

def lexemeAt (d : Dialect) (c : Char) (cs : List Char) : Option (Lexeme × List Char) :=
  if d.nameQuotes.opening = [c] then
    (d.nameQuotes.scan cs).map fun p => (.name (.ofList p.1), p.2)
  else if c = '\x27' then
    (d.literalQuotes.scan cs).map fun p => (.string (.ofList p.1), p.2)
  else if d = .tSql ∧ c = 'N' ∧ cs.head? = some '\x27' then
    (d.literalQuotes.scan cs.tail).map fun p => (.string (.ofList p.1), p.2)
  else if isWordChar c then
    some (.word (.ofList (c :: cs.takeWhile isWordChar)), cs.dropWhile isWordChar)
  else if c.isDigit || c = '-' then
    some (.number (.ofList (c :: cs.takeWhile Char.isDigit)), cs.dropWhile Char.isDigit)
  else (Mark.ofChars? (c :: cs)).map fun p => (.mark p.1, p.2)

theorem Mark.ofChars?_length {cs : List Char} {p : Mark × List Char}
    (h : Mark.ofChars? cs = some p) : p.2.length < cs.length := by
  unfold Mark.ofChars? at h
  split at h <;> cases h <;> simp only [List.length_cons] <;> omega

theorem lexemeAt_length {d : Dialect} {c : Char} {cs : List Char} {p : Lexeme × List Char}
    (h : lexemeAt d c cs = some p) : p.2.length ≤ cs.length := by
  have hdrop (isIn : Char → Bool) : (cs.dropWhile isIn).length ≤ cs.length :=
    (List.dropWhile_suffix isIn).length_le
  unfold lexemeAt at h
  split_ifs at h
  · obtain ⟨r, hr, rfl⟩ := Option.map_eq_some_iff.mp h
    exact Nat.le_of_lt (Text.Quotes.scan_length hr)
  · obtain ⟨r, hr, rfl⟩ := Option.map_eq_some_iff.mp h
    exact Nat.le_of_lt (Text.Quotes.scan_length hr)
  · obtain ⟨r, hr, rfl⟩ := Option.map_eq_some_iff.mp h
    exact Nat.le_trans (Nat.le_of_lt (Text.Quotes.scan_length hr)) (by simp)
  · cases h
    exact hdrop _
  · cases h
    exact hdrop _
  · obtain ⟨r, hr, rfl⟩ := Option.map_eq_some_iff.mp h
    exact Nat.le_of_lt_succ (Mark.ofChars?_length hr)

def lexemes (d : Dialect) : List Char → Option (List Lexeme)
  | [] => some []
  | c :: cs =>
    if c = ' ' ∨ c = '\n' then lexemes d cs
    else
      match _h : lexemeAt d c cs with
      | none => none
      | some (l, rest) => (lexemes d rest).map (l :: ·)
termination_by cs => cs.length
decreasing_by
  · exact Nat.lt_succ_self _
  · exact Nat.lt_succ_of_le (lexemeAt_length _h)

end Reporting.Sql
