import Reporting.Proofs.Sql.Reader
import Reporting.Proofs.Text.Decimal

/-! Expressions read by the usual precedences: adding zero before comparison and membership, these
before conjunction, each from left to right. No text has parentheses but those of a cast and of the
list of a membership, so only some expressions can be what is read. -/

namespace Reporting.Sql

namespace Expr

def isConj : Expr → Bool
  | binary .conj _ _ => true
  | _ => false

def isBinary : Expr → Bool
  | binary _ _ _ => true
  | _ => false

/-- What can stand on either side of a comparison. Adding zero does not make it of anything else. -/
def isOperand (d : Dialect) : Expr → Bool
  | binary _ _ _ => false
  | member _ _ => false
  | numeric e => d.coercion != .plusZero || isOperand d e
  | _ => true

/-- Each part stands where the precedences keep it together without parentheses around it. -/
inductive Fits (d : Dialect) : Expr → Prop
  | column (table : Option String) (name : String) : Fits d (column table name)
  | int (n : Int) : Fits d (int n)
  | string (s : String) : Fits d (string s)
  | star : Fits d star
  | conj {left right : Expr} (hleft : Fits d left) (hright : Fits d right)
      (hnext : right.isConj = false) : Fits d (binary .conj left right)
  | compare {op : Operator} {left right : Expr} (hop : op ≠ .conj) (hleft : Fits d left)
      (hright : Fits d right) (hchain : left.isConj = false) (hnext : right.isOperand d = true) :
      Fits d (binary op left right)
  | member {e : Expr} {values : List Expr} (he : Fits d e) (hvalues : ∀ v ∈ values, Fits d v)
      (hchain : e.isConj = false) (hne : values ≠ []) : Fits d (member e values)
  | numeric {e : Expr} (he : Fits d e)
      (hplus : d.coercion = .plusZero → e.isBinary = false) : Fits d (numeric e)

theorem isBinary_of_isOperand {d : Dialect} {e : Expr} (h : e.isOperand d = true) :
    e.isBinary = false := by
  cases e with
  | binary op left right => cases h
  | _ => rfl

theorem isConj_of_isBinary {e : Expr} (h : e.isBinary = false) : e.isConj = false := by
  cases e with
  | binary op left right => cases h
  | _ => rfl

theorem isConj_compare {op : Operator} (hop : op ≠ .conj) (left right : Expr) :
    (binary op left right).isConj = false := by
  cases op <;> first | rfl | exact absurd rfl hop

end Expr

namespace Reading

variable {α : Type}

def follow (step : α → Reading α) (a : α) (ls : List Lexeme) : α × List Lexeme :=
  match step a ls with
  | none => (a, ls)
  | some (b, rest) => if rest.length < ls.length then follow step b rest else (a, ls)
termination_by ls.length

def castTo (inner : Reading Expr) (word : String) (kind : NumericType) : Reading Expr :=
  fun ls => do
    let ls ← expect [.word word, .mark .lparen] ls
    let (e, ls) ← inner ls
    let ls ← expect [.word "AS", .word kind.text, .mark .rparen] ls
    some (.numeric e, ls)

def coerced (d : Dialect) (inner : Reading Expr) : Reading Expr :=
  match d.coercion with
  | .plusZero => fun _ => none
  | .cast kind => castTo inner "CAST" kind
  | .tryCast kind => castTo inner "TRY_CAST" kind

def primary (d : Dialect) (inner : Reading Expr) : Reading Expr
  | .number s :: ls => some (.int (Text.toInt s.toList), ls)
  | .string s :: ls => some (.string s, ls)
  | .mark .star :: ls => some (.star, ls)
  | .word w :: ls => coerced d inner (.word w :: ls)
  | ls => column ls

def nextZero (d : Dialect) (e : Expr) : Reading Expr := fun ls =>
  if d.coercion = .plusZero then (expect [.mark .plus, .number "0"] ls).map (.numeric e, ·)
  else none

def operand (d : Dialect) (inner : Reading Expr) : Reading Expr := fun ls =>
  (primary d inner ls).map fun p => follow (nextZero d) p.1 p.2

def nextValue (inner : Reading Expr) (values : List Expr) : Reading (List Expr) := fun ls => do
  let ls ← expect [.mark .comma] ls
  let (v, ls) ← inner ls
  some (values ++ [v], ls)

def nextTest (d : Dialect) (inner : Reading Expr) (e : Expr) : Reading Expr
  -- A zero behind the list can only be added to the membership, since the list itself is no
  -- operand.
  | .word "IN" :: .mark .lparen :: ls => do
    let (v, ls) ← inner ls
    let (values, ls) := follow (nextValue inner) [v] ls
    let ls ← expect [.mark .rparen] ls
    some (follow (nextZero d) (.member e values) ls)
  | .mark m :: ls => do
    let op ← operator? m
    let (right, ls) ← operand d inner ls
    some (.binary op e right, ls)
  | _ => none

def tests (d : Dialect) (inner : Reading Expr) : Reading Expr := fun ls =>
  (operand d inner ls).map fun p => follow (nextTest d inner) p.1 p.2

def nextConjunct (d : Dialect) (inner : Reading Expr) (e : Expr) : Reading Expr := fun ls => do
  let ls ← expect [.word "AND"] ls
  let (right, ls) ← tests d inner ls
  some (.binary .conj e right, ls)

def conjuncts (d : Dialect) (inner : Reading Expr) : Reading Expr := fun ls =>
  (tests d inner ls).map fun p => follow (nextConjunct d inner) p.1 p.2

/-- An expression in which others stand between parentheses to some depth at most. -/
def expr (d : Dialect) : Nat → Reading Expr
  | 0 => fun _ => none
  | depth + 1 => conjuncts d (expr d depth)

/-! Whatever is read fits. -/

theorem follow_induction {p : α → Prop} {step : α → Reading α}
    (hstep : ∀ {a ls b rest}, p a → step a ls = some (b, rest) → p b) {a : α} (ha : p a)
    (ls : List Lexeme) : p (follow step a ls).1 := by
  fun_induction follow step a ls with
  | case1 a ls h => exact ha
  | case2 a ls b rest h hlt ih => exact ih (hstep ha h)
  | case3 a ls b rest h hlt => exact ha

def Fitting (d : Dialect) (read : Reading Expr) : Prop :=
  ∀ ls e rest, read ls = some (e, rest) → e.Fits d

theorem column_fits {d : Dialect} {ls rest : List Lexeme} {e : Expr}
    (h : column ls = some (e, rest)) : e.Fits d ∧ e.isOperand d = true := by
  unfold column at h
  split at h
  · cases h
    exact ⟨.column _ _, rfl⟩
  · cases h
    exact ⟨.column _ _, rfl⟩
  · cases h

variable {d : Dialect} {inner : Reading Expr}

theorem castTo_fits (hinner : Fitting d inner) (hd : d.coercion ≠ .plusZero) {word : String}
    {kind : NumericType} {ls rest : List Lexeme} {e : Expr}
    (h : castTo inner word kind ls = some (e, rest)) : e.Fits d ∧ e.isOperand d = true := by
  simp only [castTo, Option.bind_eq_bind, Option.bind_eq_some_iff] at h
  obtain ⟨ls, -, ⟨f, ls'⟩, hf, rest', -, h⟩ := h
  cases h
  refine ⟨.numeric (hinner _ _ _ hf) fun hplus => absurd hplus hd, ?_⟩
  rw [Expr.isOperand, bne_iff_ne.mpr hd, Bool.true_or]

theorem coerced_fits (hinner : Fitting d inner) {ls rest : List Lexeme} {e : Expr}
    (h : coerced d inner ls = some (e, rest)) : e.Fits d ∧ e.isOperand d = true := by
  rw [coerced] at h
  cases hd : d.coercion with
  | plusZero =>
    rw [hd] at h
    cases h
  | cast kind =>
    rw [hd] at h
    exact castTo_fits hinner (by rw [hd]; exact nofun) h
  | tryCast kind =>
    rw [hd] at h
    exact castTo_fits hinner (by rw [hd]; exact nofun) h

theorem primary_fits (hinner : Fitting d inner) {ls rest : List Lexeme} {e : Expr}
    (h : primary d inner ls = some (e, rest)) : e.Fits d ∧ e.isOperand d = true := by
  unfold primary at h
  split at h
  · cases h
    exact ⟨.int _, rfl⟩
  · cases h
    exact ⟨.string _, rfl⟩
  · cases h
    exact ⟨.star, rfl⟩
  · exact coerced_fits hinner h
  · exact column_fits h

theorem zeros_fits {e : Expr} (he : e.Fits d) (hplus : e.isBinary = false) (ls : List Lexeme) :
    let f := (follow (nextZero d) e ls).1
    f.Fits d ∧ f.isBinary = false ∧ f.isOperand d = e.isOperand d := by
  refine follow_induction (p := fun f : Expr =>
    f.Fits d ∧ f.isBinary = false ∧ f.isOperand d = e.isOperand d) ?_ ⟨he, hplus, rfl⟩ ls
  rintro f ls g rest ⟨hf, hplus, hsame⟩ hstep
  unfold nextZero at hstep
  split_ifs at hstep with hd
  obtain ⟨rest', -, hstep⟩ := Option.map_eq_some_iff.mp hstep
  cases hstep
  refine ⟨.numeric hf fun _ => hplus, rfl, ?_⟩
  rw [Expr.isOperand, hd, ← hsame]
  rfl

theorem operand_fits (hinner : Fitting d inner) {ls rest : List Lexeme} {e : Expr}
    (h : operand d inner ls = some (e, rest)) : e.Fits d ∧ e.isOperand d = true := by
  obtain ⟨⟨f, ls'⟩, hf, h⟩ := Option.map_eq_some_iff.mp h
  obtain rfl : _ = e := congrArg Prod.fst h
  obtain ⟨hfits, hoperand⟩ := primary_fits hinner hf
  obtain ⟨hzeros, -, hsame⟩ := zeros_fits hfits (Expr.isBinary_of_isOperand hoperand) ls'
  exact ⟨hzeros, hsame.trans hoperand⟩

theorem values_fits (hinner : Fitting d inner) {v : Expr} (hv : v.Fits d) (ls : List Lexeme) :
    let values := (follow (nextValue inner) [v] ls).1
    (∀ u ∈ values, u.Fits d) ∧ values ≠ [] := by
  refine follow_induction (p := fun values : List Expr => (∀ u ∈ values, u.Fits d) ∧ values ≠ [])
    ?_ ⟨List.forall_mem_singleton.mpr hv, List.cons_ne_nil _ _⟩ ls
  rintro values ls values' rest ⟨hvalues, -⟩ hstep
  simp only [nextValue, Option.bind_eq_bind, Option.bind_eq_some_iff] at hstep
  obtain ⟨ls', -, ⟨u, rest'⟩, hu, hstep⟩ := hstep
  cases hstep
  exact ⟨List.forall_mem_append.mpr ⟨hvalues, List.forall_mem_singleton.mpr (hinner _ _ _ hu)⟩,
    List.append_ne_nil_of_right_ne_nil _ (List.cons_ne_nil _ _)⟩

theorem operator?_ne_conj {m : Mark} {op : Operator} (h : operator? m = some op) : op ≠ .conj := by
  rintro rfl
  cases m <;> cases h

theorem nextTest_fits (hinner : Fitting d inner) {ls rest : List Lexeme} {e f : Expr}
    (he : e.Fits d ∧ e.isConj = false) (h : nextTest d inner e ls = some (f, rest)) :
    f.Fits d ∧ f.isConj = false := by
  unfold nextTest at h
  split at h
  · simp only [Option.bind_eq_bind, Option.bind_eq_some_iff] at h
    obtain ⟨⟨v, ls⟩, hv, ls', -, h⟩ := h
    -- zeros behind the list are added to the membership, which no longer is an operand
    obtain ⟨hvalues, hne⟩ := values_fits hinner (hinner _ _ _ hv) ls
    obtain ⟨hfits, hplus, -⟩ := zeros_fits (.member he.1 hvalues he.2 hne) rfl ls'
    obtain rfl : _ = f := congrArg Prod.fst (Option.some.inj h)
    exact ⟨hfits, Expr.isConj_of_isBinary hplus⟩
  · simp only [Option.bind_eq_bind, Option.bind_eq_some_iff] at h
    obtain ⟨op, hop, ⟨right, ls⟩, hright, h⟩ := h
    cases h
    obtain ⟨hfits, hoperand⟩ := operand_fits hinner hright
    have hne := operator?_ne_conj hop
    exact ⟨.compare hne he.1 hfits he.2 hoperand, Expr.isConj_compare hne _ _⟩
  · cases h

theorem tests_fits (hinner : Fitting d inner) {ls rest : List Lexeme} {e : Expr}
    (h : tests d inner ls = some (e, rest)) : e.Fits d ∧ e.isConj = false := by
  obtain ⟨⟨f, ls'⟩, hf, h⟩ := Option.map_eq_some_iff.mp h
  obtain ⟨hfits, hoperand⟩ := operand_fits hinner hf
  obtain rfl : _ = e := congrArg Prod.fst h
  exact follow_induction (nextTest_fits hinner)
    ⟨hfits, Expr.isConj_of_isBinary (Expr.isBinary_of_isOperand hoperand)⟩ ls'

theorem conjuncts_fits (hinner : Fitting d inner) : Fitting d (conjuncts d inner) := by
  intro ls e rest h
  obtain ⟨⟨f, ls'⟩, hf, h⟩ := Option.map_eq_some_iff.mp h
  obtain rfl : _ = e := congrArg Prod.fst h
  refine follow_induction (p := Expr.Fits d) ?_ (tests_fits hinner hf).1 ls'
  intro a ls b rest ha hb
  simp only [nextConjunct, Option.bind_eq_bind, Option.bind_eq_some_iff] at hb
  obtain ⟨ls', -, ⟨right, rest'⟩, hright, hb⟩ := hb
  cases hb
  obtain ⟨hfits, hnext⟩ := tests_fits hinner hright
  exact .conj ha hfits hnext

theorem expr_fits (d : Dialect) (depth : Nat) : Fitting d (expr d depth) := by
  induction depth with
  | zero => exact nofun
  | succ depth ih => exact conjuncts_fits ih

end Reading

def Expr.read (d : Dialect) (text : String) : Option Expr :=
  match (lexemes d text.toList).bind fun ls => Reading.expr d (ls.length + 1) ls with
  | some (e, []) => some e
  | _ => none

theorem fits_of_read {d : Dialect} {text : String} {e : Expr} (h : Expr.read d text = some e) :
    e.Fits d := by
  unfold Expr.read at h
  split at h
  · rename_i f hread
    cases h
    obtain ⟨ls, -, hread⟩ := Option.bind_eq_some_iff.mp hread
    exact Reading.expr_fits d _ _ _ _ hread
  · cases h

end Reporting.Sql
