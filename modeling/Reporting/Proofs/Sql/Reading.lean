import Reporting.Proofs.Sql.Reader
import Reporting.Proofs.Sql.Spacing

/-! What the reader makes of the text of a query. Each part is read up to where the next one begins,
so a report query comes back whole but for the column of a membership without members. -/

namespace Reporting.Sql

def Expr.IsColumn (e : Expr) : Prop := ∃ table name, e = .column table name

def Selected.IsItem (s : Selected) : Prop :=
  s.expr.IsColumn ∨ s.expr = .star ∧ s.rename = none

def Join.IsEquality (j : Join) : Prop :=
  ∃ left right, left.IsColumn ∧ right.IsColumn ∧ j.on = .binary .eq left right

inductive Expr.IsTest : Expr → Prop
  | compare {op : Operator} {e : Expr} (s : String) (hop : op ≠ .conj) (he : e.IsColumn) :
      IsTest (.binary op e (.string s))
  | member {e : Expr} (values : List String) (he : e.IsColumn) :
      IsTest (.member e (values.map .string))

inductive Expr.IsConjunction : Expr → Prop
  | mk (t : Expr) (ts : List Expr) (h : ∀ u ∈ t :: ts, u.IsTest) :
      IsConjunction (ts.foldl (.binary .conj) t)

def Ordered.IsTerm (o : Ordered) : Prop :=
  o.expr.IsColumn ∨ ∃ e, e.IsColumn ∧ o.expr = .numeric e

structure Query.IsReport (q : Query) : Prop where
  select_ne_nil : q.select ≠ []
  select : ∀ s ∈ q.select, s.IsItem
  source : q.source ≠ none
  joins : ∀ j ∈ q.joins, j.IsEquality
  condition : ∀ e ∈ q.condition, e.IsConjunction
  orderBy : ∀ o ∈ q.orderBy, o.IsTerm

/-- What the text of an expression tells: of a membership without members only that it never holds. -/
def Expr.visible : Expr → Expr
  | .member _ [] => .binary .eq (.int 1) (.int 0)
  | .binary op left right => .binary op left.visible right.visible
  | e => e

def Query.visible (q : Query) : Query := { q with condition := q.condition.map Expr.visible }

namespace Reading

variable {α β : Type}

theorem expect_append (w ls : List Lexeme) : expect w (w ++ ls) = some ls :=
  List.dropPrefix?_append_of_beq ls (BEq.refl w)

theorem expect_cons_of_ne {l : Lexeme} {ls : List Lexeme} (h : ls.head? ≠ some l)
    (w : List Lexeme) : expect (l :: w) ls = none := by
  cases ls with
  | nil => rfl
  | cons l' ls =>
    have hl : (l' == l) = false := by
      rw [beq_eq_false_iff_ne]
      rintro rfl
      exact h rfl
    rw [expect, List.dropPrefix?, hl]
    rfl

theorem head_cons_ne {l l' : Lexeme} (h : l ≠ l') (ls : List Lexeme) :
    (l :: ls).head? ≠ some l' :=
  fun hh => h (Option.some.inj hh)

def Ends (ls : List Lexeme) : Prop :=
  ls.head? ≠ some (.mark .dot) ∧ ls.head? ≠ some (.word "AS")

theorem head_column (d : Dialect) {e : Expr} (he : e.IsColumn) (ls : List Lexeme) :
    ∃ s, (lexed (e.tokens d) ++ ls).head? = some (.name s) := by
  obtain ⟨table, name, rfl⟩ := he
  cases table with
  | some table => exact ⟨table, rfl⟩
  | none => exact ⟨name, rfl⟩

theorem column_append (d : Dialect) {e : Expr} (he : e.IsColumn) {ls : List Lexeme}
    (h : ls.head? ≠ some (.mark .dot)) : column (lexed (e.tokens d) ++ ls) = some (e, ls) := by
  obtain ⟨table, name, rfl⟩ := he
  cases table with
  | some table => rfl
  | none =>
    show column (.name name :: ls) = _
    rw [column]
    rintro name' rest rfl
    exact h rfl

theorem table_append (t : TableRef) {ls : List Lexeme} (h : ls.head? ≠ some (.mark .dot)) :
    table (t.token.lexemes ++ ls) = some (t, ls) := by
  obtain ⟨schema, name⟩ := t
  cases schema with
  | some schema => rfl
  | none =>
    show table (.name name :: ls) = _
    rw [table]
    rintro name' rest rfl
    exact h rfl

theorem many_flatMap {read : Reading β} (f : α → β) (text : α → List Lexeme) {xs : List α}
    (hread : ∀ x ∈ xs, ∀ ls, Ends ls → read (text x ++ ls) = some (f x, ls))
    (hends : ∀ x ∈ xs, ∀ ls, Ends (text x ++ ls)) (hne : ∀ x ∈ xs, text x ≠ [])
    {ls : List Lexeme} (h : Ends ls) (hstop : read ls = none) :
    many read (xs.flatMap text ++ ls) = (xs.map f, ls) := by
  induction xs with
  | nil =>
    rw [List.flatMap_nil, List.nil_append, many, hstop]
    rfl
  | cons x xs ih =>
    have hrest : Ends (xs.flatMap text ++ ls) := by
      cases xs with
      | nil => exact h
      | cons y ys =>
        rw [List.flatMap_cons, List.append_assoc]
        exact hends y (by simp) _
    -- every text is read whole and none is empty, so less remains
    have hlt : (xs.flatMap text ++ ls).length < (text x ++ (xs.flatMap text ++ ls)).length := by
      have := List.length_pos_iff.mpr (hne x List.mem_cons_self)
      simp only [List.length_append]
      omega
    rw [List.flatMap_cons, List.append_assoc, many, hread x List.mem_cons_self _ hrest]
    simp only [if_pos hlt]
    rw [ih (fun y hy => hread y (List.mem_cons_of_mem _ hy))
      (fun y hy => hends y (List.mem_cons_of_mem _ hy))
      (fun y hy => hne y (List.mem_cons_of_mem _ hy))]
    rfl

theorem separated_append {between : Lexeme} (hb : between ≠ .mark .dot ∧ between ≠ .word "AS")
    {read : Reading β} (f : α → β) (text : α → List Lexeme) {x : α} {xs : List α}
    (hread : ∀ y ∈ x :: xs, ∀ ls, Ends ls → read (text y ++ ls) = some (f y, ls))
    {ls : List Lexeme} (h : Ends ls) (hstop : ls.head? ≠ some between) :
    separated between read (text x ++ (xs.flatMap (fun y => between :: text y) ++ ls)) =
      some ((x :: xs).map f, ls) := by
  have hends (y : α) (ls : List Lexeme) : Ends ((between :: text y) ++ ls) :=
    ⟨fun h => hb.1 (Option.some.inj h), fun h => hb.2 (Option.some.inj h)⟩
  have hfirst : Ends (xs.flatMap (fun y => between :: text y) ++ ls) := by
    cases xs with
    | nil => exact h
    | cons y ys =>
      rw [List.flatMap_cons, List.append_assoc]
      exact hends y _
  have hmany : many (fun ls => (expect [between] ls).bind read)
      (xs.flatMap (fun y => between :: text y) ++ ls) = (xs.map f, ls) := by
    apply many_flatMap f
    · intro y hy ls h
      show (expect [between] ([between] ++ (text y ++ ls))).bind read = _
      rw [expect_append]
      exact hread y (List.mem_cons_of_mem _ hy) ls h
    · exact fun y _ => hends y
    · exact fun y _ => List.cons_ne_nil _ _
    · exact h
    · rw [expect_cons_of_ne hstop, Option.bind_none]
  rw [separated, hread x List.mem_cons_self _ hfirst]
  show some _ = _
  rw [hmany]
  rfl

theorem rename_of_ends {ls : List Lexeme} (h : Ends ls) : rename ls = some (none, ls) := by
  rw [rename]
  rintro s rest rfl
  exact h.2 rfl

theorem selected_append (d : Dialect) {s : Selected} (hs : s.IsItem) {ls : List Lexeme}
    (h : Ends ls) : selected (lexed (s.tokens d) ++ ls) = some (s, ls) := by
  obtain ⟨e, name⟩ := s
  rcases hs with he | ⟨rfl, rfl⟩
  · have hcolumn (ls : List Lexeme) : selected (lexed (e.tokens d) ++ ls) =
        (column (lexed (e.tokens d) ++ ls)).bind fun p =>
          (rename p.2).bind fun q => some (⟨p.1, q.1⟩, q.2) := by
      obtain ⟨_ | _, _, rfl⟩ := he <;> rfl
    cases name with
    | none =>
      rw [Selected.tokens, List.append_nil, hcolumn, column_append d he h.1, Option.bind_some,
        rename_of_ends h, Option.bind_some]
    | some name =>
      have hlexed : lexed (Selected.tokens d ⟨e, some name⟩) ++ ls =
          lexed (e.tokens d) ++ (.word "AS" :: .name name :: ls) := by
        rw [Selected.tokens, lexed_append, List.append_assoc]
        rfl
      rw [hlexed, hcolumn, column_append d he (head_cons_ne (by decide) _)]
      rfl
  · rfl

theorem join_append (d : Dialect) {j : Join} (hj : j.IsEquality) {ls : List Lexeme} (h : Ends ls) :
    join (lexed (j.tokens d) ++ ls) = some (j, ls) := by
  obtain ⟨kind, t, on⟩ := j
  obtain ⟨left, right, hl, hr, rfl⟩ := hj
  have hlexed : lexed ((⟨kind, t, .binary .eq left right⟩ : Join).tokens d) ++ ls =
      [.word kind.keyword.text, .word "JOIN"] ++ (t.token.lexemes ++ ([.word "ON"] ++
        (lexed (left.tokens d) ++ ([.mark .eq] ++ (lexed (right.tokens d) ++ ls))))) := by
    cases kind <;>
      simp only [Join.tokens, Expr.tokens, lexed_append, lexed_cons, lexed_nil, List.append_assoc] <;>
      rfl
  have hkind (ls : List Lexeme) :
      joinKind ([.word kind.keyword.text, .word "JOIN"] ++ ls) = some (kind, ls) := by
    cases kind <;> rfl
  have ht (ls : List Lexeme) : table (t.token.lexemes ++ ([.word "ON"] ++ ls)) =
      some (t, [.word "ON"] ++ ls) := table_append t (head_cons_ne (by decide) _)
  have hleft (ls : List Lexeme) : column (lexed (left.tokens d) ++ ([.mark .eq] ++ ls)) =
      some (left, [.mark .eq] ++ ls) := column_append d hl (head_cons_ne (by decide) _)
  rw [hlexed, join]
  simp only [hkind, ht, hleft, expect_append, column_append d hr h.1, Option.bind_eq_bind,
    Option.bind_some]

theorem strings_append (d : Dialect) (v : String) (vs : List String) (ls : List Lexeme) :
    strings (.string v :: (lexed (Expr.tailTokens d (vs.map .string)) ++ .mark .rparen :: ls)) =
      some ((v :: vs).map .string, ls) := by
  induction vs generalizing v with
  | nil => rfl
  | cons w vs ih =>
    show strings (.string v :: .mark .comma :: .string w ::
      (lexed (Expr.tailTokens d (vs.map .string)) ++ .mark .rparen :: ls)) = _
    rw [strings, ih]
    rfl

theorem ofInt_zero : Text.ofInt 0 = "0" := by
  show String.ofList (Text.digits 0) = "0"
  rw [Text.digits]
  rfl

theorem ofInt_one : Text.ofInt 1 = "1" := by
  show String.ofList (Text.digits 1) = "1"
  rw [Text.digits]
  rfl

theorem test_of_column (d : Dialect) {e : Expr} (he : e.IsColumn) {ls : List Lexeme}
    (h : ls.head? ≠ some (.mark .dot)) : test (lexed (e.tokens d) ++ ls) = testOf e ls := by
  obtain ⟨s, hhead⟩ := head_column d he ls
  rw [test, expect_cons_of_ne (by rw [hhead]; exact fun h => nomatch h)]
  simp only [column_append d he h, Option.bind_some]

theorem exists_mark {op : Operator} (hop : op ≠ .conj) :
    ∃ m, lexed [.mark .space, op.token, .mark .space] = [.mark m] ∧ operator? m = some op := by
  cases op <;> first | exact absurd rfl hop | exact ⟨_, rfl, rfl⟩

theorem test_append (d : Dialect) {e : Expr} (he : e.IsTest) (ls : List Lexeme) :
    test (lexed (e.tokens d) ++ ls) = some (e.visible, ls) := by
  cases he with
  | @compare op e s hop he =>
    have hvisible : e.visible = e := by
      obtain ⟨_, _, rfl⟩ := he
      rfl
    obtain ⟨m, hm, hread⟩ := exists_mark hop
    have hlexed : lexed ((Expr.binary op e (.string s)).tokens d) ++ ls =
        lexed (e.tokens d) ++ (.mark m :: .string s :: ls) := by
      rw [Expr.tokens, lexed_append, lexed_append, hm, List.append_assoc, List.append_assoc]
      rfl
    have hdot : (Lexeme.mark m) ≠ .mark .dot := by
      rintro ⟨⟩
      cases hread
    rw [hlexed, test_of_column d he (head_cons_ne hdot _), testOf, hread]
    rw [Expr.visible, hvisible]
    rfl
  | @member e values he =>
    cases values with
    | nil =>
      have hlexed : lexed Expr.neverHolds = [.number "1", .mark .eq, .number "0"] := by
        rw [Expr.neverHolds]
        simp only [lexed_cons, lexed_nil, Token.lexemes, ofInt_zero, ofInt_one]
        rfl
      show test (lexed Expr.neverHolds ++ ls) = _
      rw [hlexed, test, expect_append]
      rfl
    | cons v vs =>
      have hlexed : lexed ((Expr.member e ((v :: vs).map .string)).tokens d) ++ ls =
          lexed (e.tokens d) ++ (.word "IN" :: .mark .lparen :: .string v ::
            (lexed (Expr.tailTokens d (vs.map .string)) ++ .mark .rparen :: ls)) := by
        simp only [List.map_cons, Expr.tokens, lexed_append, List.append_assoc]
        rfl
      rw [hlexed, test_of_column d he (head_cons_ne (by decide) _), testOf, strings_append]
      rfl

theorem casted_column (d : Dialect) (word : String) (kind : NumericType) {e : Expr}
    (he : e.IsColumn) {ls : List Lexeme} (h : ls.head? ≠ some (.mark .dot)) :
    casted word kind (lexed (e.tokens d) ++ ls) = some (e, ls) := by
  obtain ⟨s, hhead⟩ := head_column d he ls
  have hname : (lexed (e.tokens d) ++ ls).head? ≠ some (.word word) := by
    rw [hhead]
    rintro ⟨⟩
  rw [casted, expect_cons_of_ne hname]
  exact column_append d he h

theorem casted_append (d : Dialect) (word : String) (kind : NumericType) {e : Expr}
    (he : e.IsColumn) (ls : List Lexeme) :
    casted word kind ([.word word, .mark .lparen] ++ (lexed (e.tokens d) ++
      ([.word "AS", .word kind.text, .mark .rparen] ++ ls))) = some (.numeric e, ls) := by
  have hcolumn : column (lexed (e.tokens d) ++ ([.word "AS", .word kind.text, .mark .rparen] ++ ls)) =
      some (e, [.word "AS", .word kind.text, .mark .rparen] ++ ls) :=
    column_append d he (head_cons_ne (by decide) _)
  rw [casted, expect_append]
  simp only [hcolumn, expect_append, Option.bind_eq_bind, Option.bind_some]

theorem added_column (d : Dialect) {e : Expr} (he : e.IsColumn) {ls : List Lexeme}
    (h : ls.head? ≠ some (.mark .dot)) (hplus : ls.head? ≠ some (.mark .plus)) :
    added (lexed (e.tokens d) ++ ls) = some (e, ls) := by
  rw [added, column_append d he h]
  simp only [Option.bind_eq_bind, Option.bind_some, expect_cons_of_ne hplus]

theorem added_append (d : Dialect) {e : Expr} (he : e.IsColumn) (ls : List Lexeme) :
    added (lexed (e.tokens d) ++ ([.mark .plus, .number "0"] ++ ls)) = some (.numeric e, ls) := by
  have hcolumn : column (lexed (e.tokens d) ++ ([.mark .plus, .number "0"] ++ ls)) =
      some (e, [.mark .plus, .number "0"] ++ ls) := column_append d he (head_cons_ne (by decide) _)
  rw [added, hcolumn]
  simp only [Option.bind_eq_bind, Option.bind_some, expect_append]

theorem lexed_cast (k : Keyword) (hk : k.words = [k.text]) (kind : NumericType) (ts : List Token)
    (ls : List Lexeme) :
    lexed ([.keyword k, .mark .lparen] ++ ts ++
        [.mark .space, .keyword .naming, .mark .space, .typeName kind, .mark .rparen]) ++ ls =
      [.word k.text, .mark .lparen] ++ (lexed ts ++
        ([.word "AS", .word kind.text, .mark .rparen] ++ ls)) := by
  have hopening : lexed [.keyword k, .mark .lparen] = [.word k.text, .mark .lparen] := by
    rw [lexed_cons, Token.lexemes, hk]
    rfl
  rw [lexed_append, lexed_append, hopening, List.append_assoc, List.append_assoc]
  rfl

theorem lexed_plusZero (ts : List Token) (ls : List Lexeme) :
    lexed (ts ++ [.mark .space, .mark .plus, .mark .space, .int 0]) ++ ls =
      lexed ts ++ ([.mark .plus, .number "0"] ++ ls) := by
  have hzero : lexed [.mark .space, .mark .plus, .mark .space, .int 0] =
      [.mark .plus, .number "0"] := by
    simp only [lexed_cons, lexed_nil, Token.lexemes, ofInt_zero]
    rfl
  rw [lexed_append, hzero, List.append_assoc]

theorem magnitude_append (d : Dialect) {e : Expr}
    (he : e.IsColumn ∨ ∃ f, f.IsColumn ∧ e = .numeric f) (w : String) (ls : List Lexeme) :
    magnitude d (lexed (e.tokens d) ++ (.word w :: ls)) = some (e, .word w :: ls) := by
  -- the shape of a coercion hangs on the dialect, for the writer as for the reader
  rw [magnitude]
  rcases he with he | ⟨f, hf, rfl⟩
  · have hdot : (Lexeme.word w :: ls).head? ≠ some (.mark .dot) := head_cons_ne (by rintro ⟨⟩) _
    cases d.coercion with
    | plusZero => exact added_column d he hdot (head_cons_ne (by rintro ⟨⟩) _)
    | cast kind => exact casted_column d _ kind he hdot
    | tryCast kind => exact casted_column d _ kind he hdot
  · rw [Expr.tokens, coerce]
    cases d.coercion with
    | plusZero =>
      simp only [lexed_plusZero]
      exact added_append d hf _
    | cast kind =>
      simp only [lexed_cast .cast rfl]
      exact casted_append d _ kind hf _
    | tryCast kind =>
      simp only [lexed_cast .tryCast rfl]
      exact casted_append d _ kind hf _

theorem ordered_append (d : Dialect) {o : Ordered} (ho : o.IsTerm) (ls : List Lexeme) :
    ordered d (lexed (o.tokens d) ++ ls) = some (o, ls) := by
  obtain ⟨e, dir⟩ := o
  have hlexed : lexed (Ordered.tokens d ⟨e, dir⟩) ++ ls =
      lexed (e.tokens d) ++ (.word dir.text :: ls) := by
    rw [Ordered.tokens, lexed_append, List.append_assoc]
    cases dir <;> rfl
  rw [hlexed, ordered, magnitude_append d ho dir.text]
  cases dir <;> rfl

/-! The clauses of a query, each read up to the word that begins the next. -/

def Follows (openings ls : List Lexeme) : Prop := ∀ l ∈ ls.head?, l ∈ openings

theorem Follows.head?_ne {openings ls : List Lexeme} (h : Follows openings ls) {l : Lexeme}
    (hl : l ∉ openings) : ls.head? ≠ some l :=
  fun hh => hl (h l hh)

theorem Follows.ends {openings ls : List Lexeme} (h : Follows openings ls)
    (hdot : .mark .dot ∉ openings) (has : .word "AS" ∉ openings) : Ends ls :=
  ⟨h.head?_ne hdot, h.head?_ne has⟩

theorem lexed_separated {between : List Token} {l : Lexeme} (hb : lexed between = [l])
    (text : α → List Token) (x : α) (xs : List α) :
    lexed (Query.separated between ((x :: xs).map text)) =
      lexed (text x) ++ xs.flatMap fun y => l :: lexed (text y) := by
  induction xs generalizing x with
  | nil => exact (List.append_nil _).symm
  | cons y ys ih =>
    show lexed (text x ++ between ++ Query.separated between ((y :: ys).map text)) = _
    rw [lexed_append, lexed_append, ih, hb, List.flatMap_cons, List.append_assoc]
    rfl

theorem lexed_conjunction (d : Dialect) (t : Expr) (ts : List Expr) :
    lexed ((ts.foldl (.binary .conj) t).tokens d) =
      lexed (t.tokens d) ++ ts.flatMap fun u => .word "AND" :: lexed (u.tokens d) := by
  induction ts generalizing t with
  | nil => exact (List.append_nil _).symm
  | cons u us ih =>
    rw [List.foldl_cons, ih, Expr.tokens, lexed_append, lexed_append, List.flatMap_cons,
      List.append_assoc, List.append_assoc]
    rfl

theorem visible_conjunction (t : Expr) (ts : List Expr) :
    (ts.foldl (.binary .conj) t).visible =
      (ts.map Expr.visible).foldl (.binary .conj) t.visible := by
  induction ts generalizing t with
  | nil => rfl
  | cons u us ih =>
    rw [List.foldl_cons, ih]
    rfl

theorem select_append (d : Dialect) {items : List Selected} (hne : items ≠ [])
    (h : ∀ s ∈ items, s.IsItem) {ls : List Lexeme} (hls : Follows [.word "FROM"] ls) :
    separated (.mark .comma) selected (lexed (Query.selectTokens d items) ++ ls) =
      some (items, ls) := by
  cases items with
  | nil => exact absurd rfl hne
  | cons s items =>
    have hlexed : lexed (Query.selectTokens d (s :: items)) =
        lexed (s.tokens d) ++ items.flatMap fun t => .mark .comma :: lexed (t.tokens d) :=
      lexed_separated rfl (Selected.tokens d) s items
    have hcomma : Lexeme.mark .comma ≠ .mark .dot ∧ Lexeme.mark .comma ≠ .word "AS" := by decide
    have hread := separated_append hcomma id (fun s => lexed (s.tokens d))
      (fun t ht _ => selected_append d (h t ht)) (hls.ends (by decide) (by decide)) (hls.head?_ne (by decide))
    rw [hlexed, List.append_assoc, hread, List.map_id]

theorem join_of_follows {ls : List Lexeme} (h : Follows [.word "WHERE", .word "ORDER"] ls) :
    join ls = none := by
  cases ls with
  | nil => rfl
  | cons l ls =>
    rcases List.mem_cons.mp (h l rfl) with rfl | hl
    · rfl
    · rw [List.mem_singleton.mp hl]
      rfl

theorem joins_append (d : Dialect) {joins : List Join} (h : ∀ j ∈ joins, j.IsEquality)
    {ls : List Lexeme} (hls : Follows [.word "WHERE", .word "ORDER"] ls) :
    many join (lexed (Query.joinTokens d joins) ++ ls) = (joins, ls) := by
  have hlexed : lexed (Query.joinTokens d joins) =
      joins.flatMap fun j => lexed (j.tokens d) := by
    rw [Query.joinTokens, lexed, List.flatMap_assoc]
    rfl
  have hends (j : Join) (ls : List Lexeme) : Ends (lexed (j.tokens d) ++ ls) := by
    obtain ⟨kind, t, on⟩ := j
    have hne : Lexeme.word kind.keyword.text ≠ .word "AS" := by cases kind <;> decide
    cases kind <;> exact ⟨head_cons_ne (by rintro ⟨⟩) _, head_cons_ne hne _⟩
  have hne (j : Join) : lexed (j.tokens d) ≠ [] := by
    obtain ⟨kind, t, on⟩ := j
    cases kind <;> exact List.cons_ne_nil _ _
  have hread := many_flatMap id (fun j => lexed (j.tokens d))
    (fun j hj _ => join_append d (h j hj)) (fun j _ => hends j) (fun j _ => hne j)
    (hls.ends (by decide) (by decide)) (join_of_follows hls)
  rw [hlexed, hread, List.map_id]

theorem condition_append (d : Dialect) {c : Option Expr} (h : ∀ e ∈ c, e.IsConjunction)
    {ls : List Lexeme} (hls : Follows [.word "ORDER"] ls) :
    condition (lexed (Query.conditionTokens d c) ++ ls) = some (c.map Expr.visible, ls) := by
  cases c with
  | none =>
    show condition ls = _
    rw [condition, expect_cons_of_ne (hls.head?_ne (by decide))]
    rfl
  | some e =>
    obtain ⟨t, ts, ht⟩ := h e rfl
    have hand : Lexeme.word "AND" ≠ .mark .dot ∧ Lexeme.word "AND" ≠ .word "AS" := by decide
    have hread := separated_append hand Expr.visible (fun u => lexed (u.tokens d))
      (fun u hu ls _ => test_append d (ht u hu) ls) (hls.ends (by decide) (by decide)) (hls.head?_ne (by decide))
    show condition ([.word "WHERE"] ++ (lexed ((ts.foldl (.binary .conj) t).tokens d) ++ ls)) = _
    rw [condition, expect_append, lexed_conjunction, List.append_assoc]
    simp only [hread, List.map_cons, Option.map_some, visible_conjunction]

theorem orderBy_lexed (d : Dialect) {terms : List Ordered} (h : ∀ o ∈ terms, o.IsTerm) :
    orderBy d (lexed (Query.orderTokens d terms)) = some (terms, []) := by
  cases terms with
  | nil => rfl
  | cons o terms =>
    have hlexed : lexed (Query.separated [.mark .comma, .mark .space]
        ((o :: terms).map (Ordered.tokens d))) =
          lexed (o.tokens d) ++ terms.flatMap fun p => .mark .comma :: lexed (p.tokens d) :=
      lexed_separated rfl (Ordered.tokens d) o terms
    have hcomma : Lexeme.mark .comma ≠ .mark .dot ∧ Lexeme.mark .comma ≠ .word "AS" := by decide
    have hread : _ = some (_, []) := separated_append hcomma id (fun o => lexed (o.tokens d))
      (fun p hp ls _ => ordered_append d (h p hp) ls) ⟨nofun, nofun⟩ nofun
    rw [List.append_nil] at hread
    show orderBy d ([.word "ORDER", .word "BY"] ++ lexed (Query.separated [.mark .comma, .mark .space]
      ((o :: terms).map (Ordered.tokens d)))) = _
    rw [orderBy, expect_append, hlexed]
    simp only [hread, List.map_id]

theorem follows_order (d : Dialect) (terms : List Ordered) :
    Follows [.word "ORDER"] (lexed (Query.orderTokens d terms)) := by
  rintro l hl
  cases terms with
  | nil => cases hl
  | cons o terms =>
    cases hl
    decide

theorem follows_condition (d : Dialect) (c : Option Expr) {ls : List Lexeme}
    (hls : Follows [.word "ORDER"] ls) :
    Follows [.word "WHERE", .word "ORDER"] (lexed (Query.conditionTokens d c) ++ ls) := by
  intro l hl
  cases c with
  | none => exact List.mem_cons_of_mem _ (hls l hl)
  | some e =>
    cases hl
    decide

theorem follows_joins (d : Dialect) (joins : List Join) {ls : List Lexeme}
    (hls : Follows [.word "WHERE", .word "ORDER"] ls) :
    Follows [.word "INNER", .word "LEFT", .word "WHERE", .word "ORDER"]
      (lexed (Query.joinTokens d joins) ++ ls) := by
  intro l hl
  cases joins with
  | nil => exact List.mem_cons_of_mem _ (List.mem_cons_of_mem _ (hls l hl))
  | cons j joins =>
    obtain ⟨kind, t, on⟩ := j
    have hmem : Lexeme.word kind.keyword.text ∈
        [.word "INNER", .word "LEFT", .word "WHERE", .word "ORDER"] := by cases kind <;> decide
    cases kind <;> cases hl <;> exact hmem

theorem query_lexed (d : Dialect) {q : Query} (hq : q.IsReport) :
    query d (lexed (q.tokens d)) = some (q.visible, []) := by
  -- from the end: what may follow a clause depends on the clauses behind it
  obtain ⟨items, source, joins, c, terms⟩ := q
  obtain ⟨t, rfl⟩ := Option.ne_none_iff_exists'.mp hq.source
  have horder := follows_order d terms
  have hcondition := follows_condition d c horder
  have hjoins := follows_joins d joins hcondition
  have hlexed : lexed (Query.tokens d ⟨items, some t, joins, c, terms⟩) =
      [.word "SELECT"] ++ (lexed (Query.selectTokens d items) ++ ([.word "FROM"] ++
        (t.token.lexemes ++ (lexed (Query.joinTokens d joins) ++
          (lexed (Query.conditionTokens d c) ++ lexed (Query.orderTokens d terms)))))) := by
    have hsource : lexed (Query.sourceTokens (some t)) = [.word "FROM"] ++ t.token.lexemes := by
      show [.word "FROM"] ++ (t.token.lexemes ++ []) = _
      rw [List.append_nil]
    rw [Query.tokens]
    simp only [List.cons_append, lexed_cons, lexed_append, hsource, List.append_assoc]
    rfl
  have hselect (ls : List Lexeme) : separated (.mark .comma) selected
      (lexed (Query.selectTokens d items) ++ ([.word "FROM"] ++ ls)) =
        some (items, [.word "FROM"] ++ ls) :=
    select_append d hq.select_ne_nil hq.select fun l hl => by cases hl; decide
  rw [hlexed, query]
  simp only [expect_append, hselect, table_append t (hjoins.head?_ne (by decide)),
    joins_append d hq.joins hcondition, condition_append d hq.condition horder,
    orderBy_lexed d hq.orderBy, Option.bind_eq_bind, Option.bind_some]
  rfl

end Reading

theorem read_sql (d : Dialect) {q : Query} (hq : q.IsReport) :
    Query.read d (q.sql d) = some q.visible := by
  rw [Query.read, lexemes_sql, Option.bind_some, Reading.query_lexed d hq]

end Reporting.Sql
