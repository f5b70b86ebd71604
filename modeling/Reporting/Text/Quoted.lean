import Reporting.Text.Split

/-!
Quoted texts: some characters are written twice between an opening and a closing mark, so that the
closing mark ends the text exactly where it stands alone.
-/

namespace Reporting.Text

/-- How a text is quoted: what opens it, what closes it, and which further character is doubled. -/
structure Quotes where
  opening : List Char
  closing : Char
  escape : Option Char
  deriving DecidableEq, Repr

namespace Quotes

def doubled (c : Char) (cs : List Char) : List Char := replaceFrom [c] [c, c] 0 cs

theorem doubled_cons (c d : Char) (cs : List Char) :
    doubled c (d :: cs) = (if d = c then [c, c] else [d]) ++ doubled c cs := by
  rw [doubled, doubled, replaceFrom_singleton, replaceFrom_singleton, List.flatMap_cons]

def body (q : Quotes) (cs : List Char) : List Char :=
  doubled q.closing <|
    match q.escape with
    | some c => doubled c cs
    | none => cs

def write (q : Quotes) (s : String) : String :=
  .ofList (q.opening ++ q.body s.toList ++ [q.closing])

theorem body_nil (q : Quotes) : q.body [] = [] := by
  unfold body
  cases q.escape <;> rfl

theorem body_cons {q : Quotes} (hq : q.escape ≠ some q.closing) (c : Char) (cs : List Char) :
    q.body (c :: cs) =
      (if c = q.closing ∨ q.escape = some c then [c, c] else [c]) ++ q.body cs := by
  unfold body
  cases he : q.escape with
  | none =>
    dsimp only
    rw [doubled_cons]
    by_cases hc : c = q.closing <;> simp [hc]
  | some e =>
    have hne : e ≠ q.closing := fun h => hq (he.trans (congrArg some h))
    dsimp only
    rw [doubled_cons]
    by_cases hce : c = e
    · subst hce
      simp [doubled_cons, hne]
    · rw [if_neg hce, List.singleton_append, doubled_cons]
      by_cases hc : c = q.closing <;> simp [hc, Ne.symm hce]

def double : Quotes := ⟨['\x22'], '\x22', none⟩

def backtick : Quotes := ⟨['\x60'], '\x60', none⟩

def bracket : Quotes := ⟨['['], ']', none⟩

def single : Quotes := ⟨['\x27'], '\x27', none⟩

def backslash : Quotes := ⟨['\x27'], '\x27', some '\\'⟩

def national : Quotes := ⟨['N', '\x27'], '\x27', none⟩

end Quotes

end Reporting.Text
