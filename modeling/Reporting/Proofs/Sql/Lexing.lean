import Mathlib.Data.List.Chain
import Reporting.Proofs.Sql.Lexeme
import Reporting.Proofs.Text.Decimal

/-! Tokens between which there is room can be read back from their text: whatever a name or a string
holds, its own quotes end it. -/

namespace Reporting.Sql

theorem lexemes_nil (d : Dialect) : lexemes d [] = some [] := by rw [lexemes]

theorem lexemes_layout (d : Dialect) {c : Char} (hc : c = ' ' ∨ c = '\n') (cs : List Char) :
    lexemes d (c :: cs) = lexemes d cs := by
  rw [lexemes, if_pos hc]

theorem lexemes_cons {d : Dialect} {c : Char} {cs rest : List Char} {l : Lexeme}
    (hc : ¬(c = ' ' ∨ c = '\n')) (h : lexemeAt d c cs = some (l, rest)) :
    lexemes d (c :: cs) = (lexemes d rest).map (l :: ·) := by
  rw [lexemes, if_neg hc]
  split
  · rename_i h'
    rw [h] at h'
    cases h'
  · rename_i h'
    rw [h] at h'
    cases h'
    rfl

/-! Words, numbers and marks end where something else begins. -/

def Delimited (cs : List Char) : Prop := ∀ c ∈ cs.head?, c ∈ [' ', '\n', ',', '.', '(', ')']

theorem Delimited.head?_ne {cs : List Char} (h : Delimited cs) {c : Char}
    (hc : c ∉ [' ', '\n', ',', '.', '(', ')']) : cs.head? ≠ some c :=
  fun hh => hc (h c hh)

theorem Delimited.span {cs : List Char} (h : Delimited cs) {p : Char → Bool}
    (hp : [' ', '\n', ',', '.', '(', ')'].any p = false) (w : List Char)
    (hw : ∀ c ∈ w, p c = true) :
    (w ++ cs).takeWhile p = w ∧ (w ++ cs).dropWhile p = cs := by
  rw [List.takeWhile_append_of_pos hw, List.dropWhile_append_of_pos hw]
  cases cs with
  | nil => simp
  | cons c cs =>
    have hc : p c = false := eq_false_of_ne_true (List.any_eq_false.mp hp c (h c rfl))
    simp [List.takeWhile, List.dropWhile, hc]

theorem lexemes_word (d : Dialect) {w rest : List Char} (hne : w ≠ [])
    (hw : ∀ c ∈ w, isWordChar c = true) (h : Delimited rest) :
    lexemes d (w ++ rest) = (lexemes d rest).map (.word (.ofList w) :: ·) := by
  cases w with
  | nil => exact absurd rfl hne
  | cons c w =>
    have hc := hw c List.mem_cons_self
    have hquote : c ≠ '\x27' := by
      rintro rfl
      revert hc
      decide
    have hlayout : ¬(c = ' ' ∨ c = '\n') := by
      rintro (rfl | rfl) <;> revert hc <;> decide
    have hname : d.nameQuotes.opening ≠ [c] := by
      intro ho
      cases d <;> cases ho <;> revert hc <;> decide
    -- a word that begins with `N` is not taken for national text: no quote follows
    have hnational : (w ++ rest).head? ≠ some '\x27' := by
      cases w with
      | nil => exact h.head?_ne (by decide)
      | cons c' w =>
        intro hh
        cases hh
        have := hw '\x27' (by simp)
        revert this
        decide
    have hspan := h.span (p := isWordChar) (by decide) w
      fun c hc => hw c (List.mem_cons_of_mem _ hc)
    rw [List.cons_append]
    apply lexemes_cons hlayout
    rw [lexemeAt, if_neg hname, if_neg hquote, if_neg fun h => hnational h.2.2, if_pos hc,
      hspan.1, hspan.2]

theorem lexemes_name (d : Dialect) (s : String) {rest : List Char} (h : Delimited rest) :
    lexemes d ((d.quoteName s).toList ++ rest) = (lexemes d rest).map (.name s :: ·) := by
  obtain ⟨o, ho, hlayout⟩ : ∃ o, d.nameQuotes.opening = [o] ∧ ¬(o = ' ' ∨ o = '\n') := by
    cases d <;> exact ⟨_, rfl, by decide⟩
  have hlegible : d.nameQuotes.Legible := by
    cases d <;> exact fun _ h => nomatch h
  have hclosing : rest.head? ≠ some d.nameQuotes.closing := by
    apply h.head?_ne
    cases d <;> decide
  rw [Dialect.quoteName, Text.Quotes.write, String.toList_ofList, ho, List.append_assoc,
    List.append_assoc, List.singleton_append, List.singleton_append]
  apply lexemes_cons hlayout
  rw [lexemeAt, if_pos ho, Text.Quotes.scan_body hlegible _ hclosing]
  simp only [Option.map_some, String.ofList_toList]

theorem toList_quoteString (d : Dialect) (s : String) :
    (d.quoteString s).toList = '\x27' :: (d.literalQuotes.body s.toList ++ ['\x27']) ∨
      d = .tSql ∧
        (d.quoteString s).toList = 'N' :: '\x27' :: (d.literalQuotes.body s.toList ++ ['\x27']) := by
  cases d with
  | tSql =>
    rw [Dialect.quoteString, Dialect.stringQuotes, Text.Quotes.write, String.toList_ofList]
    split_ifs
    · exact .inl rfl
    · exact .inr ⟨rfl, rfl⟩
  | _ =>
    left
    rw [Dialect.quoteString, Text.Quotes.write, String.toList_ofList]
    rfl

theorem lexemes_string (d : Dialect) (s : String) {rest : List Char} (h : Delimited rest) :
    lexemes d ((d.quoteString s).toList ++ rest) = (lexemes d rest).map (.string s :: ·) := by
  have hrest : rest.head? ≠ some d.literalQuotes.closing := by
    rw [d.closing_literalQuotes]
    exact h.head?_ne (by decide)
  have hscan := Text.Quotes.scan_body d.legible_literalQuotes s.toList hrest
  rw [d.closing_literalQuotes] at hscan
  have hname (c : Char) (hc : c ∈ ['\x27', 'N']) : d.nameQuotes.opening ≠ [c] := by
    intro ho
    cases d <;> cases ho <;> revert hc <;> decide
  rcases toList_quoteString d s with hs | ⟨rfl, hs⟩
  · rw [hs, List.cons_append, List.append_assoc]
    apply lexemes_cons (by decide)
    rw [lexemeAt, if_neg (hname _ (by decide)), if_pos rfl, List.singleton_append, hscan]
    simp only [Option.map_some, String.ofList_toList]
  · rw [hs, List.cons_append, List.cons_append, List.append_assoc]
    apply lexemes_cons (by decide)
    rw [lexemeAt, if_neg (hname _ (by decide)), if_neg (by decide), if_pos ⟨rfl, rfl, rfl⟩,
      List.tail_cons, List.singleton_append, hscan]
    simp only [Option.map_some, String.ofList_toList]

theorem isWordChar_of_isDigit {c : Char} (h : c.isDigit = true) : isWordChar c = false := by
  have hdigit := Char.isDigit_iff_toNat.mp h
  have hval (k : UInt32) (hk : 57 < k.toNat) : decide (c.val ≥ k) = false := by
    apply decide_eq_false
    rw [ge_iff_le, UInt32.le_iff_toNat_le]
    exact Nat.not_le_of_lt (Nat.lt_of_le_of_lt hdigit.2 hk)
  have hupper : c.isUpper = false := decide_eq_false fun hc =>
    absurd hc.1 (of_decide_eq_false (hval 65 (by decide)))
  have hlower : c.isLower = false := by
    show (decide (c.val ≥ 97) && _) = false
    rw [hval 97 (by decide), Bool.false_and]
  have hscore : (c == '_') = false := by
    rw [beq_eq_false_iff_ne]
    rintro rfl
    cases h
  show (c.isUpper || c.isLower || c == '_') = false
  rw [hupper, hlower, hscore]
  rfl

theorem toList_ofInt (n : Int) : ∃ c ds, (Text.ofInt n).toList = c :: ds ∧
    (c.isDigit || c = '-') = true ∧ ∀ c ∈ ds, c.isDigit = true := by
  have hdigits := Text.isDigit_digits n.natAbs
  rw [Text.ofInt, String.toList_ofList]
  split_ifs
  · exact ⟨_, _, rfl, rfl, hdigits⟩
  · cases hds : Text.digits n.natAbs with
    | nil =>
      rw [Text.digits] at hds
      split_ifs at hds
      simp at hds
    | cons c ds =>
      rw [hds] at hdigits
      exact ⟨c, ds, rfl, by rw [hdigits c List.mem_cons_self]; rfl,
        fun c hc => hdigits c (List.mem_cons_of_mem _ hc)⟩

theorem lexemes_int (d : Dialect) (n : Int) {rest : List Char} (h : Delimited rest) :
    lexemes d ((Text.ofInt n).toList ++ rest) =
      (lexemes d rest).map (.number (Text.ofInt n) :: ·) := by
  obtain ⟨c, ds, hn, hc, hds⟩ := toList_ofInt n
  have hspan := h.span (p := Char.isDigit) (by decide) ds hds
  have hne (x : Char) (hx : (x.isDigit || x = '-') = false) : c ≠ x := by
    rintro rfl
    rw [hx] at hc
    cases hc
  have hword : ¬isWordChar c = true := by
    rcases Bool.or_eq_true_iff.mp hc with hc | hc
    · rw [isWordChar_of_isDigit hc]
      exact Bool.false_ne_true
    · cases of_decide_eq_true hc
      decide
  have hname : d.nameQuotes.opening ≠ [c] := by
    intro ho
    cases d <;> cases ho <;> revert hc <;> decide
  rw [hn, List.cons_append]
  apply lexemes_cons
  · rintro (rfl | rfl) <;> revert hc <;> decide
  · rw [lexemeAt, if_neg hname, if_neg (hne _ (by decide)),
      if_neg fun h => hne 'N' (by decide) h.2.1, if_neg hword, if_pos hc, hspan.1, hspan.2, ← hn,
      String.ofList_toList]

namespace Mark

def isLayout : Mark → Bool
  | space => true
  | newline => true
  | _ => false

def needsRoom : Mark → Bool
  | lt => true
  | gt => true
  | _ => false

def givesRoom : Mark → Bool
  | space => true
  | newline => true
  | comma => true
  | dot => true
  | lparen => true
  | rparen => true
  | _ => false

def opening (m : Mark) : Char := m.text.toList.headD ' '

theorem toList_text (m : Mark) : m.text.toList = m.opening :: m.text.toList.tail := by
  cases m <;> decide

theorem delimited_text {m : Mark} (hm : m.givesRoom = true) (rest : List Char) :
    Delimited (m.text.toList ++ rest) := by
  have hopening : m.opening ∈ [' ', '\n', ',', '.', '(', ')'] := by
    revert hm
    cases m <;> decide
  rw [toList_text]
  intro c hc
  cases hc
  exact hopening

end Mark

theorem lexemes_layoutMark (d : Dialect) {m : Mark} (hm : m.isLayout = true) (rest : List Char) :
    lexemes d (m.text.toList ++ rest) = lexemes d rest := by
  have hhead : ∃ c, (c = ' ' ∨ c = '\n') ∧ m.text.toList = [c] := by
    cases m with
    | space => exact ⟨' ', .inl rfl, by decide⟩
    | newline => exact ⟨'\n', .inr rfl, by decide⟩
    | _ => cases hm
  obtain ⟨c, hc, htext⟩ := hhead
  rw [htext]
  exact lexemes_layout d hc rest

theorem Mark.ofChars?_text {m : Mark} (hm : m.isLayout = false) {rest : List Char}
    (h : m.needsRoom = true → Delimited rest) :
    Mark.ofChars? (m.text.toList ++ rest) = some (m, rest) := by
  have hne (hm : m.needsRoom = true) : rest.head? ≠ some '>' ∧ rest.head? ≠ some '=' :=
    ⟨(h hm).head?_ne (by decide), (h hm).head?_ne (by decide)⟩
  cases m with
  | space | newline => cases hm
  | lt =>
    obtain ⟨hgt, heq⟩ := hne rfl
    show Mark.ofChars? ('<' :: rest) = _
    rw [Mark.ofChars?]
    · rintro cs rfl
      exact hgt rfl
    · rintro cs rfl
      exact heq rfl
  | gt =>
    obtain ⟨-, heq⟩ := hne rfl
    show Mark.ofChars? ('>' :: rest) = _
    rw [Mark.ofChars?]
    rintro cs rfl
    exact heq rfl
  | _ => rfl

theorem lexemes_mark (d : Dialect) {m : Mark} (hm : m.isLayout = false) {rest : List Char}
    (h : m.needsRoom = true → Delimited rest) :
    lexemes d (m.text.toList ++ rest) = (lexemes d rest).map (.mark m :: ·) := by
  have hread := Mark.ofChars?_text hm h
  have hc : m.opening ∈ [',', '.', '*', '(', ')', '=', '<', '>', '+'] := by
    revert hm
    cases m <;> decide
  have hword : ¬isWordChar m.opening = true := by cases m <;> decide
  have hnumber : ¬(m.opening.isDigit || m.opening = '-') = true := by cases m <;> decide
  have hname : d.nameQuotes.opening ≠ [m.opening] := by
    revert hm
    cases m <;> cases d <;> decide
  have hne (x : Char) (hx : x ∉ [',', '.', '*', '(', ')', '=', '<', '>', '+']) : m.opening ≠ x :=
    fun h => hx (h ▸ hc)
  rw [m.toList_text, List.cons_append] at hread ⊢
  apply lexemes_cons
  · exact fun h => h.elim (hne _ (by decide)) (hne _ (by decide))
  · rw [lexemeAt, if_neg hname, if_neg (hne _ (by decide)),
      if_neg fun h => hne 'N' (by decide) h.2.1, if_neg hword, if_neg hnumber, hread,
      Option.map_some]

/-! Tokens in a row. -/

def Keyword.words : Keyword → List String
  | .orderBy => ["ORDER", "BY"]
  | k => [k.text]

namespace Token

def lexemes : Token → List Lexeme
  | keyword k => k.words.map .word
  | mark m => if m.isLayout then [] else [.mark m]
  | indent _ => []
  | name s => [.name s]
  | qualified (some schema) s => [.name schema, .mark .dot, .name s]
  | qualified none s => [.name s]
  | int n => [.number (Text.ofInt n)]
  | string s => [.string s]
  | typeName t => [.word t.text]

def needsRoom : Token → Bool
  | mark m => m.needsRoom
  | indent _ => false
  | _ => true

def givesRoom : Token → Bool
  | mark m => m.givesRoom
  | _ => false

end Token

def lexed (ts : List Token) : List Lexeme := ts.flatMap Token.lexemes

theorem lexed_nil : lexed [] = [] := rfl

theorem lexed_cons (t : Token) (ts : List Token) : lexed (t :: ts) = t.lexemes ++ lexed ts :=
  List.flatMap_cons

theorem lexed_append (ts us : List Token) : lexed (ts ++ us) = lexed ts ++ lexed us :=
  List.flatMap_append

def Spaced (ts : List Token) : Prop :=
  ts.IsChain fun t u => t.needsRoom = true → u.givesRoom = true

theorem toList_write_cons (d : Dialect) (t : Token) (ts : List Token) :
    (write d (t :: ts)).toList = (t.text d).toList ++ (write d ts).toList := by
  rw [write, List.map_cons, String.join_cons, String.toList_append, write]

theorem delimited_write (d : Dialect) {ts : List Token}
    (h : ∀ t ∈ ts.head?, t.givesRoom = true) : Delimited (write d ts).toList := by
  cases ts with
  | nil =>
    intro c hc
    cases hc
  | cons t ts =>
    rw [toList_write_cons]
    cases t with
    | mark m => exact Mark.delimited_text (h _ rfl) _
    | _ => cases h _ rfl

theorem lexemes_plainWord (d : Dialect) {w : String} (hne : w.toList ≠ [])
    (hw : w.toList.all isWordChar = true) {rest : List Char} (h : Delimited rest) :
    lexemes d (w.toList ++ rest) = (lexemes d rest).map (.word w :: ·) := by
  simpa only [String.ofList_toList] using lexemes_word d hne (List.all_eq_true.mp hw) h

theorem lexemes_keyword (d : Dialect) (k : Keyword) {rest : List Char} (h : Delimited rest) :
    lexemes d (k.text.toList ++ rest) = (lexemes d rest).map (k.words.map .word ++ ·) := by
  cases k with
  | orderBy =>
    have htext : Keyword.orderBy.text.toList = "ORDER".toList ++ ' ' :: "BY".toList := by decide
    have hspace : Delimited (' ' :: ("BY".toList ++ rest)) := by
      intro c hc
      cases hc
      decide
    rw [htext, List.append_assoc, List.cons_append, lexemes_plainWord d (by decide) (by decide) hspace,
      lexemes_layout d (.inl rfl), lexemes_plainWord d (by decide) (by decide) h, Option.map_map]
    rfl
  | _ => exact lexemes_plainWord d (by decide) (by decide) h

theorem lexemes_indentation (d : Dialect) (depth : Nat) (rest : List Char) :
    lexemes d ((Token.indentation depth).toList ++ rest) = lexemes d rest := by
  rw [Token.indentation, String.toList_ofList]
  generalize 2 * depth = n
  induction n with
  | zero => rfl
  | succ n ih => rw [List.replicate_succ, List.cons_append, lexemes_layout d (.inl rfl), ih]

theorem lexemes_qualified (d : Dialect) (schema s : String) {rest : List Char} (h : Delimited rest) :
    lexemes d ((d.quoteName schema ++ "." ++ d.quoteName s).toList ++ rest) =
      (lexemes d rest).map ([.name schema, .mark .dot, .name s] ++ ·) := by
  have hdot : Delimited (Mark.dot.text.toList ++ ((d.quoteName s).toList ++ rest)) :=
    Mark.delimited_text rfl _
  rw [String.toList_append, String.toList_append, List.append_assoc, List.append_assoc,
    show "." = Mark.dot.text from rfl, lexemes_name d schema hdot,
    lexemes_mark d rfl (fun h => Bool.noConfusion h), lexemes_name d s h, Option.map_map, Option.map_map]
  rfl

theorem lexemes_token (d : Dialect) (t : Token) {rest : List Char}
    (h : t.needsRoom = true → Delimited rest) :
    lexemes d ((t.text d).toList ++ rest) = (lexemes d rest).map (t.lexemes ++ ·) := by
  cases t with
  | keyword k => exact lexemes_keyword d k (h rfl)
  | mark m =>
    cases hm : m.isLayout with
    | true =>
      rw [Token.text, lexemes_layoutMark d hm, Token.lexemes, if_pos hm]
      exact Option.map_id'.symm
    | false =>
      rw [Token.text, lexemes_mark d hm h, Token.lexemes, if_neg (by rw [hm]; exact Bool.false_ne_true)]
      rfl
  | indent depth => exact (lexemes_indentation d depth rest).trans Option.map_id'.symm
  | name s => exact lexemes_name d s (h rfl)
  | qualified schema s =>
    cases schema with
    | none => exact lexemes_name d s (h rfl)
    | some schema => exact lexemes_qualified d schema s (h rfl)
  | int n => exact lexemes_int d n (h rfl)
  | string s => exact lexemes_string d s (h rfl)
  | typeName t =>
    rw [Token.text]
    cases t <;> exact lexemes_plainWord d (by decide) (by decide) (h rfl)

theorem lexemes_write (d : Dialect) {ts : List Token} (h : Spaced ts) :
    lexemes d (write d ts).toList = some (lexed ts) := by
  induction ts with
  | nil => exact lexemes_nil d
  | cons t ts ih =>
    -- the token behind `t` gives it the room it needs, so `t` ends where its text does
    have hroom := List.isChain_cons.mp h
    rw [toList_write_cons, lexemes_token d t fun ht => delimited_write d fun u hu => hroom.1 u hu ht,
      ih hroom.2, Option.map_some, lexed_cons]

end Reporting.Sql
