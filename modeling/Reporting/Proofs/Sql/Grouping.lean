import Reporting.Proofs.Sql.Canonical
import Reporting.Proofs.Sql.Precedence
import Reporting.Proofs.Sql.Reading

/-! Which expressions come back from their text. One whose canonical form fits the precedences does,
and no other, so among those that fit a text stands for one canonical form only. -/

namespace Reporting.Sql

namespace Reading

section

variable {α : Type} {step : α → Reading α} {a b : α} {ls rest : List Lexeme}

theorem follow_of_none (h : step a ls = none) : follow step a ls = (a, ls) := by
  rw [follow, h]

theorem follow_of_step (h : step a ls = some (b, rest)) (hlt : rest.length < ls.length) :
    follow step a ls = follow step b rest := by
  rw [follow, h]
  exact if_pos hlt

theorem follow_length (step : α → Reading α) (a : α) (ls : List Lexeme) :
    (follow step a ls).2.length ≤ ls.length := by
  fun_induction follow step a ls with
  | case1 a ls h => exact Nat.le_refl _
  | case2 a ls b rest h hlt ih => exact Nat.le_trans ih (Nat.le_of_lt hlt)
  | case3 a ls b rest h hlt => exact Nat.le_refl _

end

def closings : List Lexeme := [.word "AS", .mark .comma, .mark .rparen]

variable {d : Dialect} {inner : Reading Expr} {e : Expr} {ls : List Lexeme}

theorem nextZero_eq_none (h : ls.head? ≠ some (.mark .plus)) : nextZero d e ls = none := by
  unfold nextZero
  split_ifs
  · rw [expect_cons_of_ne h, Option.map_none]
  · rfl

theorem nextTest_eq_none (h : Follows (.word "AND" :: closings) ls) :
    nextTest d inner e ls = none := by
  cases ls with
  | nil => rfl
  | cons l ls =>
    have hl := h l rfl
    simp only [closings, List.mem_cons, List.not_mem_nil, or_false] at hl
    rcases hl with rfl | rfl | rfl | rfl <;> rfl

theorem nextConjunct_eq_none (h : Follows closings ls) : nextConjunct d inner e ls = none := by
  rw [nextConjunct, expect_cons_of_ne (h.head?_ne (by decide))]
  rfl

theorem follow_tests (h : Follows (.word "AND" :: closings) ls) :
    follow (nextTest d inner) e ls = (e, ls) := follow_of_none (nextTest_eq_none h)

theorem follow_zeros (h : ls.head? ≠ some (.mark .plus)) : follow (nextZero d) e ls = (e, ls) :=
  follow_of_none (nextZero_eq_none h)

/-- At each level the text of an expression is read whole, and reading goes on from it. -/
structure ReadsBack (d : Dialect) (depth : Nat) (e : Expr) : Prop where
  operand : e.isOperand d = true → ∀ ls : List Lexeme, ls.head? ≠ some (.mark .dot) →
    operand d (expr d depth) (lexed (e.tokens d) ++ ls) = some (follow (nextZero d) e ls)
  tests : e.isConj = false → ∀ ls : List Lexeme, ls.head? ≠ some (.mark .dot) →
    (e.isBinary = true → ls.head? ≠ some (.mark .plus)) →
      tests d (expr d depth) (lexed (e.tokens d) ++ ls) =
        some (follow (nextTest d (expr d depth)) (follow (nextZero d) e ls).1
          (follow (nextZero d) e ls).2)
  conjuncts : ∀ ls : List Lexeme, Follows (.word "AND" :: closings) ls →
    conjuncts d (expr d depth) (lexed (e.tokens d) ++ ls) =
      some (follow (nextConjunct d (expr d depth)) e ls)

namespace ReadsBack

variable {depth : Nat}

theorem tests_eq (h : ReadsBack d depth e) (he : e.isConj = false)
    (hls : Follows (.word "AND" :: closings) ls) :
    Reading.tests d (expr d depth) (lexed (e.tokens d) ++ ls) = some (e, ls) := by
  have hplus := hls.head?_ne (show Lexeme.mark .plus ∉ _ by decide)
  rw [h.tests he ls (hls.head?_ne (by decide)) fun _ => hplus, follow_zeros hplus,
    follow_tests hls]

theorem expr_eq (h : ReadsBack d depth e) (hls : Follows closings ls) :
    expr d (depth + 1) (lexed (e.tokens d) ++ ls) = some (e, ls) := by
  rw [expr, h.conjuncts ls fun l hl => List.mem_cons_of_mem _ (hls l hl),
    follow_of_none (nextConjunct_eq_none hls)]

theorem ofTests (hoperand : e.isOperand d = false)
    (h : ∀ ls : List Lexeme, ls.head? ≠ some (.mark .dot) →
      (e.isBinary = true → ls.head? ≠ some (.mark .plus)) →
        Reading.tests d (expr d depth) (lexed (e.tokens d) ++ ls) =
          some (follow (nextTest d (expr d depth)) (follow (nextZero d) e ls).1
            (follow (nextZero d) e ls).2)) : ReadsBack d depth e where
  operand hcontra := absurd hcontra (by rw [hoperand]; exact Bool.false_ne_true)
  tests _ := h
  conjuncts ls hls := by
    have hplus := hls.head?_ne (show Lexeme.mark .plus ∉ _ by decide)
    rw [Reading.conjuncts, h ls (hls.head?_ne (by decide)) fun _ => hplus, follow_zeros hplus,
      follow_tests hls, Option.map_some]

theorem ofOperand
    (h : ∀ ls : List Lexeme, ls.head? ≠ some (.mark .dot) →
      Reading.operand d (expr d depth) (lexed (e.tokens d) ++ ls) =
        some (follow (nextZero d) e ls)) : ReadsBack d depth e where
  operand _ := h
  tests _ ls hdot _ := by rw [Reading.tests, h ls hdot, Option.map_some]
  conjuncts ls hls := by
    have hplus := hls.head?_ne (show Lexeme.mark .plus ∉ _ by decide)
    rw [Reading.conjuncts, Reading.tests, h ls (hls.head?_ne (by decide)), Option.map_some,
      follow_zeros hplus, follow_tests hls, Option.map_some]

theorem ofPrimary
    (h : ∀ ls : List Lexeme, ls.head? ≠ some (.mark .dot) →
      primary d (expr d depth) (lexed (e.tokens d) ++ ls) = some (e, ls)) : ReadsBack d depth e :=
  ofOperand fun ls hdot => by rw [Reading.operand, h ls hdot, Option.map_some]

theorem column (table : Option String) (name : String) :
    ReadsBack d depth (.column table name) := by
  refine ofPrimary fun ls hdot => ?_
  cases table with
  | some table => rfl
  | none => exact column_append d ⟨none, name, rfl⟩ hdot

theorem int (n : Int) : ReadsBack d depth (.int n) := by
  refine ofPrimary fun ls _ => ?_
  show some (Expr.int (Text.toInt (Text.ofInt n).toList), ls) = _
  rw [Text.toInt_ofInt]

theorem string (s : String) : ReadsBack d depth (.string s) := ofPrimary fun _ _ => rfl

theorem star : ReadsBack d depth .star := ofPrimary fun _ _ => rfl

variable {left right : Expr}

theorem conj (hleft : ReadsBack d depth left) (hright : ReadsBack d depth right)
    (hnext : right.isConj = false) : ReadsBack d depth (.binary .conj left right) where
  operand := nofun
  tests := nofun
  conjuncts ls hls := by
    have hlexed : lexed ((Expr.binary .conj left right).tokens d) ++ ls =
        lexed (left.tokens d) ++ ([.word "AND"] ++ (lexed (right.tokens d) ++ ls)) := by
      rw [Expr.tokens, lexed_append, lexed_append, List.append_assoc, List.append_assoc]
      rfl
    have hstep : nextConjunct d (expr d depth) left
        ([.word "AND"] ++ (lexed (right.tokens d) ++ ls)) =
          some (.binary .conj left right, ls) := by
      rw [nextConjunct, expect_append]
      simp only [Option.bind_eq_bind, Option.bind_some, hright.tests_eq hnext hls]
    have hfollows : Follows (.word "AND" :: closings)
        ([.word "AND"] ++ (lexed (right.tokens d) ++ ls)) := fun l hl => by
      cases hl
      exact List.mem_cons_self
    rw [hlexed, hleft.conjuncts _ hfollows, follow_of_step hstep]
    simp only [List.length_append, List.length_singleton]
    omega

theorem compare {op : Operator} (hop : op ≠ .conj) (hleft : ReadsBack d depth left)
    (hright : ReadsBack d depth right) (hchain : left.isConj = false)
    (hnext : right.isOperand d = true) : ReadsBack d depth (.binary op left right) := by
  refine ofTests rfl fun ls hdot hplus => ?_
  obtain ⟨m, hm, hread⟩ := exists_mark hop
  have hlexed : lexed ((Expr.binary op left right).tokens d) ++ ls =
      lexed (left.tokens d) ++ (.mark m :: (lexed (right.tokens d) ++ ls)) := by
    rw [Expr.tokens, lexed_append, lexed_append, hm, List.append_assoc, List.append_assoc]
    rfl
  have hstep : nextTest d (expr d depth) left (.mark m :: (lexed (right.tokens d) ++ ls)) =
      some (.binary op left right, ls) := by
    rw [nextTest, hread, Option.bind_eq_bind, Option.bind_some, hright.operand hnext ls hdot,
      follow_zeros (hplus rfl)]
    rfl
  have hmark (m' : Mark) (hm' : operator? m' = none) :
      (Lexeme.mark m :: (lexed (right.tokens d) ++ ls)).head? ≠ some (.mark m') := by
    rintro ⟨⟩
    rw [hread] at hm'
    cases hm'
  -- the left side ends before the mark, and no zero is added to the test behind it
  rw [hlexed, hleft.tests hchain _ (hmark .dot rfl) fun _ => hmark .plus rfl,
    follow_zeros (hmark .plus rfl), follow_zeros (hplus rfl), follow_of_step hstep]
  simp only [List.length_cons, List.length_append]
  omega

theorem follows_tailTokens (d : Dialect) (values : List Expr) (ls : List Lexeme) :
    Follows closings (lexed (Expr.tailTokens d values) ++ ([.mark .rparen] ++ ls)) := by
  intro l hl
  cases values with
  | nil =>
    cases hl
    decide
  | cons v values =>
    cases hl
    decide

theorem follow_values {values : List Expr}
    (h : ∀ v ∈ values, ReadsBack d depth v) (before : List Expr) (ls : List Lexeme) :
    follow (nextValue (expr d (depth + 1))) before
        (lexed (Expr.tailTokens d values) ++ ([.mark .rparen] ++ ls)) =
      (before ++ values, [.mark .rparen] ++ ls) := by
  induction values generalizing before with
  | nil =>
    rw [List.append_nil]
    exact follow_of_none rfl
  | cons v values ih =>
    have hlexed : lexed (Expr.tailTokens d (v :: values)) ++ ([.mark .rparen] ++ ls) =
        [.mark .comma] ++ (lexed (v.tokens d) ++
          (lexed (Expr.tailTokens d values) ++ ([.mark .rparen] ++ ls))) := by
      rw [Expr.tailTokens, lexed_append, lexed_append, List.append_assoc, List.append_assoc]
      rfl
    have hstep : nextValue (expr d (depth + 1)) before
        ([.mark .comma] ++ (lexed (v.tokens d) ++
          (lexed (Expr.tailTokens d values) ++ ([.mark .rparen] ++ ls)))) =
            some (before ++ [v], lexed (Expr.tailTokens d values) ++ ([.mark .rparen] ++ ls)) := by
      rw [nextValue, expect_append]
      simp only [Option.bind_eq_bind, Option.bind_some,
        (h v List.mem_cons_self).expr_eq (follows_tailTokens d values ls)]
    rw [hlexed, follow_of_step hstep, ih fun u hu => h u (List.mem_cons_of_mem _ hu),
      List.append_assoc, List.singleton_append]
    simp only [List.length_append, List.length_singleton]
    omega

theorem member {v : Expr} {values : List Expr} (he : ReadsBack d (depth + 1) e)
    (hvalues : ∀ u ∈ v :: values, ReadsBack d depth u) (hchain : e.isConj = false) :
    ReadsBack d (depth + 1) (.member e (v :: values)) := by
  refine ofTests rfl fun ls hdot _ => ?_
  have hlexed : lexed ((Expr.member e (v :: values)).tokens d) ++ ls =
      lexed (e.tokens d) ++ (.word "IN" :: .mark .lparen :: (lexed (v.tokens d) ++
        (lexed (Expr.tailTokens d values) ++ ([.mark .rparen] ++ ls)))) := by
    rw [Expr.tokens]
    simp only [lexed_append, List.append_assoc]
    rfl
  have hstep : nextTest d (expr d (depth + 1)) e (.word "IN" :: .mark .lparen ::
      (lexed (v.tokens d) ++ (lexed (Expr.tailTokens d values) ++ ([.mark .rparen] ++ ls)))) =
        some (follow (nextZero d) (.member e (v :: values)) ls) := by
    rw [nextTest, (hvalues v List.mem_cons_self).expr_eq (follows_tailTokens d values ls)]
    simp only [Option.bind_eq_bind, Option.bind_some, expect_append,
      follow_values (fun u hu => hvalues u (List.mem_cons_of_mem _ hu))]
    rfl
  have hword : (Lexeme.word "IN" :: .mark .lparen :: (lexed (v.tokens d) ++
      (lexed (Expr.tailTokens d values) ++ ([.mark .rparen] ++ ls)))).head? ≠ some (.mark .plus) :=
    head_cons_ne (by decide) _
  rw [hlexed, he.tests hchain _ (head_cons_ne (by decide) _) fun _ => hword, follow_zeros hword,
    follow_of_step hstep]
  have hlength := follow_length (nextZero d) (.member e (v :: values)) ls
  simp only [List.length_cons, List.length_append]
  omega

theorem nextZero_zero (hd : d.coercion = .plusZero) (e : Expr) (ls : List Lexeme) :
    nextZero d e ([.mark .plus, .number "0"] ++ ls) = some (.numeric e, ls) := by
  rw [nextZero, if_pos hd, expect_append, Option.map_some]

theorem plusZero (hd : d.coercion = .plusZero) (he : ReadsBack d depth e)
    (hplus : e.isBinary = false) : ReadsBack d depth (.numeric e) := by
  have hlexed (ls : List Lexeme) : lexed ((Expr.numeric e).tokens d) ++ ls =
      lexed (e.tokens d) ++ ([.mark .plus, .number "0"] ++ ls) := by
    rw [Expr.tokens, coerce, hd]
    exact lexed_plusZero _ _
  have hfollow (ls : List Lexeme) : follow (nextZero d) e ([.mark .plus, .number "0"] ++ ls) =
      follow (nextZero d) (.numeric e) ls :=
    follow_of_step (nextZero_zero hd e ls) (show ls.length < ls.length + 2 by omega)
  have hdot (ls : List Lexeme) :
      ([Lexeme.mark .plus, .number "0"] ++ ls).head? ≠ some (.mark .dot) :=
    head_cons_ne (by decide) _
  -- a zero is added while an operand is read, or else right behind the list of a membership
  cases hoperand : e.isOperand d with
  | true =>
    refine ofOperand fun ls _ => ?_
    rw [hlexed, he.operand hoperand _ (hdot ls), hfollow]
  | false =>
    have hsame : (Expr.numeric e).isOperand d = false := by
      rw [Expr.isOperand, hd]
      exact hoperand
    refine ofTests hsame fun ls _ _ => ?_
    rw [hlexed, he.tests (Expr.isConj_of_isBinary hplus) _ (hdot ls), hfollow]
    exact fun hbinary => absurd (hplus.symm.trans hbinary) Bool.false_ne_true

theorem castTo_append (he : ReadsBack d depth e) (word : String) (kind : NumericType)
    (ls : List Lexeme) :
    castTo (expr d (depth + 1)) word kind ([.word word, .mark .lparen] ++ (lexed (e.tokens d) ++
      ([.word "AS", .word kind.text, .mark .rparen] ++ ls))) = some (.numeric e, ls) := by
  have hfollows : Follows closings ([.word "AS", .word kind.text, .mark .rparen] ++ ls) :=
    fun l hl => by
      cases hl
      decide
  rw [castTo, expect_append]
  simp only [Option.bind_eq_bind, Option.bind_some, he.expr_eq hfollows, expect_append]

theorem cast (hd : d.coercion ≠ .plusZero) (he : ReadsBack d depth e) :
    ReadsBack d (depth + 1) (.numeric e) := by
  refine ofPrimary fun ls _ => ?_
  have hcoerced (word : String) (rest : List Lexeme) :
      primary d (expr d (depth + 1)) (.word word :: rest) =
        coerced d (expr d (depth + 1)) (.word word :: rest) := rfl
  rw [Expr.tokens, coerce]
  cases hkind : d.coercion with
  | plusZero => exact absurd hkind hd
  | cast kind =>
    simp only [lexed_cast .cast rfl]
    rw [List.cons_append, hcoerced, coerced, hkind]
    exact he.castTo_append _ kind ls
  | tryCast kind =>
    simp only [lexed_cast .tryCast rfl]
    rw [List.cons_append, hcoerced, coerced, hkind]
    exact he.castTo_append _ kind ls

end ReadsBack

theorem length_lexed_value (d : Dialect) {v : Expr} {values : List Expr} (hv : v ∈ values) :
    (lexed (v.tokens d)).length ≤ (lexed (Expr.tailTokens d values)).length := by
  induction values with
  | nil => cases hv
  | cons u values ih =>
    rw [Expr.tailTokens, lexed_append, lexed_append, List.length_append, List.length_append]
    rcases List.mem_cons.mp hv with rfl | hv
    · omega
    · have := ih hv
      omega

theorem readsBack {d : Dialect} {e : Expr} (h : e.Fits d) {depth : Nat}
    (hdepth : (lexed (e.tokens d)).length ≤ depth) : ReadsBack d depth e := by
  induction h generalizing depth with
  | column table name => exact .column table name
  | int n => exact .int n
  | string s => exact .string s
  | star => exact .star
  | conj hleft hright hnext ihleft ihright =>
    rw [Expr.tokens, lexed_append, lexed_append, List.length_append, List.length_append] at hdepth
    exact .conj (ihleft (by omega)) (ihright (by omega)) hnext
  | compare hop hleft hright hchain hnext ihleft ihright =>
    rw [Expr.tokens, lexed_append, lexed_append, List.length_append, List.length_append] at hdepth
    exact .compare hop (ihleft (by omega)) (ihright (by omega)) hchain hnext
  | @member e values he hvalues hchain hne ihe ihvalues =>
    obtain ⟨v, values, rfl⟩ := List.exists_cons_of_ne_nil hne
    -- the tested expression stays at this depth, the values are one level down
    have hlist : (lexed [.mark .space, .keyword .member, .mark .space, .mark .lparen]).length = 2 :=
      rfl
    rw [Expr.tokens, lexed_append, lexed_append, lexed_append, lexed_append, List.length_append,
      List.length_append, List.length_append, List.length_append, hlist] at hdepth
    obtain ⟨depth, rfl⟩ : ∃ k, depth = k + 1 := ⟨depth - 1, by omega⟩
    refine .member (ihe (by omega)) (fun u hu => ihvalues u hu ?_) hchain
    rcases List.mem_cons.mp hu with rfl | hu
    · omega
    · have := length_lexed_value d hu
      omega
  | @numeric e he hplus ih =>
    by_cases hd : d.coercion = .plusZero
    · rw [Expr.tokens, coerce, hd, lexed_append, List.length_append] at hdepth
      exact .plusZero hd (ih (by omega)) (hplus hd)
    · have hcast : (lexed (e.tokens d)).length + 1 ≤ (lexed ((Expr.numeric e).tokens d)).length := by
        rw [Expr.tokens, coerce]
        cases hkind : d.coercion with
        | plusZero => exact absurd hkind hd
        | cast kind | tryCast kind =>
          simp only [lexed_append, lexed_cons, List.length_append, Token.lexemes, Keyword.words,
            List.map_cons, List.map_nil, List.length_cons, List.length_nil]
          omega
      obtain ⟨depth, rfl⟩ : ∃ k, depth = k + 1 := ⟨depth - 1, by omega⟩
      exact .cast hd (ih (by omega))

end Reading

theorem read_of_fits {d : Dialect} {e : Expr} (h : e.Fits d) : Expr.read d (e.sql d) = some e := by
  have hlexemes : lexemes d (e.sql d).toList = some (lexed (e.tokens d)) :=
    lexemes_write d (e.spaced_tokens d)
  have hread : Reading.expr d _ (lexed (e.tokens d) ++ []) = some (e, []) :=
    (Reading.readsBack h (Nat.le_refl _)).expr_eq nofun
  rw [List.append_nil] at hread
  rw [Expr.read, hlexemes, Option.bind_some, hread]

/-! A conjunction of tests fits, apart from the tests for membership in nothing. -/

theorem Expr.IsTest.isConj_canonical {e : Expr} (h : e.IsTest) : e.canonical.isConj = false := by
  cases h with
  | @compare op e s hop he =>
    cases op with
    | conj => exact absurd rfl hop
    | _ => rfl
  | member values he => cases values <;> rfl

theorem Expr.IsTest.fits_canonical {e : Expr} (h : e.IsTest) (d : Dialect) :
    e.canonical.Fits d := by
  cases h with
  | @compare op e s hop he =>
    obtain ⟨table, name, rfl⟩ := he
    have hfits : (binary op (column table name) (string s)).Fits d :=
      .compare hop (.column table name) (.string s) rfl rfl
    cases op with
    | conj => exact absurd rfl hop
    | _ => exact hfits
  | member values he =>
    obtain ⟨table, name, rfl⟩ := he
    cases values with
    | nil => exact .compare (by decide) (.int 1) (.int 0) rfl rfl
    | cons v vs =>
      have hvalues : (string v).canonical :: canonicalTail (vs.map string) = (v :: vs).map string := by
        rw [canonicalTail_eq_map, List.map_map]
        rfl
      refine .member (.column table name) (fun u hu => ?_) rfl (List.cons_ne_nil _ _)
      rw [hvalues] at hu
      obtain ⟨s, -, rfl⟩ := List.mem_map.mp hu
      exact .string s

theorem Expr.fits_canonical_conjuncts {d : Dialect} {e : Expr} (he : e.canonical.Fits d)
    {ts : List Expr} (h : ∀ t ∈ ts, t.IsTest) :
    (ts.foldl (binary .conj) e).canonical.Fits d := by
  induction ts generalizing e with
  | nil => exact he
  | cons t ts ih =>
    obtain ⟨ht, hts⟩ := List.forall_mem_cons.mp h
    refine ih ?_ hts
    have hconj := ht.isConj_canonical
    rw [canonical, conjoin]
    · exact .conj he (ht.fits_canonical d) hconj
    · intro left right hleft
      rw [hleft] at hconj
      cases hconj

theorem Expr.IsConjunction.fits_canonical {e : Expr} (h : e.IsConjunction) (d : Dialect) :
    e.canonical.Fits d := by
  obtain ⟨t, ts, htests⟩ := h
  obtain ⟨ht, hts⟩ := List.forall_mem_cons.mp htests
  exact fits_canonical_conjuncts (ht.fits_canonical d) hts

/-- An expression comes back from its text exactly if its canonical form fits the precedences, and
those that come back have equal texts for equal canonical forms only. -/
theorem read_sql_iff_and_sql_eq_iff (d : Dialect) :
    (∀ e : Expr, Expr.read d (e.sql d) = some e.canonical ↔ e.canonical.Fits d) ∧
      ∀ e f : Expr, e.canonical.Fits d → f.canonical.Fits d →
        (e.sql d = f.sql d ↔ e.canonical = f.canonical) := by
  have hread (e : Expr) (h : e.canonical.Fits d) : Expr.read d (e.sql d) = some e.canonical := by
    rw [← Expr.sql_canonical]
    exact read_of_fits h
  refine ⟨fun e => ⟨fits_of_read, hread e⟩, fun e f he hf => ⟨fun h => ?_, fun h => ?_⟩⟩
  · have hsame := hread e he
    rw [h, hread f hf] at hsame
    exact (Option.some.inj hsame).symm
  · rw [← Expr.sql_canonical, h, Expr.sql_canonical]

theorem sql_eq_associated :
    let cheap := Expr.binary .lt (.numeric (.column none "Price")) (.int 20)
    let old := Expr.binary .lt (.column (some "Author") "Born") (.string "1800")
    let kept := Expr.member (.column none "Shelf") [.string "A", .string "B"]
    let e := Expr.binary .conj cheap (.binary .conj old kept)
    let f := Expr.binary .conj (.binary .conj cheap old) kept
    e.canonical.Fits .mySql ∧ f.canonical.Fits .mySql ∧
      (e.sql .mySql = f.sql .mySql ↔ e.canonical = f.canonical) := by
  intro cheap old kept e f
  have hcheap : cheap.Fits .mySql :=
    .compare (by decide) (.numeric (.column _ _) fun _ => rfl) (.int _) rfl rfl
  have hold : old.Fits .mySql := .compare (by decide) (.column _ _) (.string _) rfl rfl
  have hkept : kept.Fits .mySql := by
    refine .member (.column _ _) (fun v hv => ?_) rfl (List.cons_ne_nil _ _)
    rcases List.mem_pair.mp hv with rfl | rfl
    · exact .string "A"
    · exact .string "B"
  have hf : f.Fits .mySql := .conj (.conj hcheap hold rfl) hkept rfl
  exact ⟨hf, hf, (read_sql_iff_and_sql_eq_iff .mySql).2 e f hf hf⟩

/-- No parentheses tell whether a conjunction is compared or joined to a comparison. -/
theorem exists_sql_eq_of_canonical_ne :
    ¬ ∀ (d : Dialect) (e f : Expr), e.sql d = f.sql d → e.canonical = f.canonical := by
  intro h
  let a := Expr.column none "a"
  let b := Expr.column none "b"
  let c := Expr.column none "c"
  have hsame := h .duckDb (.binary .eq (.binary .conj a b) c) (.binary .conj a (.binary .eq b c)) rfl
  exact absurd hsame nofun

end Reporting.Sql
