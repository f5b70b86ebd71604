import Reporting.Data.Json.Reader
import Reporting.Proofs.Data.Json.Tokens

/-! Reading a tree that was written as JSON text gives the tree back, as long as it has no
fractions: the tokens of the text are those of the tree, and the reader takes from them just what
was written. -/

namespace Reporting.Json

mutual

def IsPlain : Node → Prop
  | .null => True
  | .bool _ => True
  | .int n => IsWord n
  | .string _ => True
  | .list ns ending => ending = .closed ∧ ArePlain ns
  | .table es ending => ending = .closed ∧ ArePlainEntries es
  | _ => False

def ArePlain : List Node → Prop
  | [] => True
  | n :: ns => IsPlain n ∧ ArePlain ns

def ArePlainEntries : List (String × Node) → Prop
  | [] => True
  | (_, n) :: es => IsPlain n ∧ ArePlainEntries es

end

mutual

def tokensOf : Node → List Token
  | .bool b => [.bool b]
  | .int n => [.int n]
  | .string s => [.string s]
  | .list [] _ => [.beginList, .endList]
  | .list (n :: ns) _ => .beginList :: (tokensOf n ++ (tokensOfItems ns ++ [.endList]))
  | .table [] _ => [.beginTable, .endTable]
  | .table ((key, n) :: es) _ =>
    .beginTable :: .string key :: .colon :: (tokensOf n ++ (tokensOfEntries es ++ [.endTable]))
  | _ => [.null]

def tokensOfItems : List Node → List Token
  | [] => []
  | n :: ns => .comma :: (tokensOf n ++ tokensOfItems ns)

def tokensOfEntries : List (String × Node) → List Token
  | [] => []
  | (key, n) :: es => .comma :: .string key :: .colon :: (tokensOf n ++ tokensOfEntries es)

end

/-- Scanning takes `ts` from the characters before `rest`, with fuel left for what follows. -/
def Scans (cs : List Char) (ts : List Token) (rest : List Char) : Prop :=
  ∀ fuel, (cs ++ rest).length ≤ fuel →
    ∃ fuel', rest.length ≤ fuel' ∧ tokensFrom fuel (cs ++ rest) = ts ++ tokensFrom fuel' rest

namespace Scans

theorem nil (rest : List Char) : Scans [] [] rest := fun fuel h => ⟨fuel, h, rfl⟩

theorem append {cs cs' rest : List Char} {ts ts' : List Token} (h : Scans cs ts (cs' ++ rest))
    (h' : Scans cs' ts' rest) : Scans (cs ++ cs') (ts ++ ts') rest := by
  intro fuel hfuel
  rw [List.append_assoc] at hfuel ⊢
  obtain ⟨fuel₁, hfuel₁, htokens⟩ := h fuel hfuel
  obtain ⟨fuel₂, hfuel₂, htokens'⟩ := h' fuel₁ hfuel₁
  exact ⟨fuel₂, hfuel₂, by rw [htokens, htokens', List.append_assoc]⟩

theorem token {c : Char} {cs rest : List Char} {t : Token} (hc : isSpace c = false)
    (h : next? (c :: cs ++ rest) = some (t, rest)) : Scans (c :: cs) [t] rest := by
  rintro (_ | fuel) hfuel
  · simp at hfuel
  · refine ⟨fuel, ?_, ?_⟩
    · simp only [List.cons_append, List.length_cons, List.length_append] at hfuel
      omega
    · rw [tokensFrom, List.cons_append, List.dropWhile_cons_of_neg (by simp [hc])]
      rw [List.cons_append] at h
      simp [h]

theorem cons {c : Char} {cs rest : List Char} {t : Token} {ts : List Token}
    (hc : isSpace c = false) (hnext : ∀ cs, next? (c :: cs) = some (t, cs))
    (h : Scans cs ts rest) : Scans (c :: cs) (t :: ts) rest := by
  have hsign : Scans [c] [t] (cs ++ rest) := token hc (hnext (cs ++ rest))
  exact hsign.append h

theorem quoted (s : String) (rest : List Char) : Scans (quoted s) [.string s] rest :=
  token (by decide) (next?_quoted s rest)

theorem ofInt {n : Int} (hn : IsWord n) {rest : List Char} (h : Ends rest) :
    Scans (Text.ofInt n).toList [.int n] rest := by
  obtain ⟨c, cs, hc, hhead⟩ := ofInt_eq_cons n
  have hnext := next?_ofInt hn h
  rw [hc] at hnext ⊢
  refine token ?_ hnext
  rcases hhead with hdigit | rfl
  · simp only [isSpace, Bool.or_eq_false_iff, decide_eq_false_iff_not]
    refine ⟨⟨⟨?_, ?_⟩, ?_⟩, ?_⟩ <;> rintro rfl <;> exact absurd hdigit (by decide)
  · rfl

theorem key (s : String) {cs rest : List Char} {ts : List Token} (h : Scans cs ts rest) :
    Scans (Json.quoted s ++ ':' :: cs) (.string s :: .colon :: ts) rest :=
  (quoted s _).append (cons (by decide) (fun _ => rfl) h)

end Scans

theorem ends_cons {c : Char} (cs : List Char)
    (h : c.isDigit = false ∧ c ≠ '.' ∧ c ≠ 'e' ∧ c ≠ 'E') : Ends (c :: cs) := by
  intro d hd
  rw [← Option.some.inj hd]
  exact h

theorem ends_writeItems (ns : List Node) {rest : List Char} (h : Ends rest) :
    Ends (writeItems ns ++ rest) := by
  cases ns with
  | nil => exact h
  | cons n ns => exact ends_cons _ (by decide)

theorem ends_writeEntries (es : List (String × Node)) {rest : List Char} (h : Ends rest) :
    Ends (writeEntries es ++ rest) := by
  rcases es with _ | ⟨⟨key, n⟩, es⟩
  · exact h
  · exact ends_cons _ (by decide)

mutual

theorem scans_write (n : Node) (h : IsPlain n) {rest : List Char} (hrest : Ends rest) :
    Scans (write n) (tokensOf n) rest := by
  match n, h with
  | .null, _ => exact .token (by decide) rfl
  | .bool true, _ => exact .token (by decide) rfl
  | .bool false, _ => exact .token (by decide) rfl
  | .int n, h => exact .ofInt h hrest
  | .float x, h => exact h.elim
  | .string s, _ => exact .quoted s rest
  | .list [] _, _ =>
    have hend : Scans [']'] [.endList] rest := .token (by decide) rfl
    exact hend.cons (c := '[') (by decide) fun _ => rfl
  | .list (n :: ns) _, h =>
    have hend : Scans [']'] [.endList] rest := .token (by decide) rfl
    have hbracket : Ends ([']'] ++ rest) := ends_cons rest (by decide)
    have hitems := (scans_writeItems ns h.2.2 hbracket).append hend
    have hitem := scans_write n h.2.1 (ends_writeItems ns hbracket)
    rw [write, tokensOf, List.cons_append, List.cons_append, List.append_assoc]
    rw [← List.append_assoc] at hitem
    exact (hitem.append hitems).cons (by decide) fun _ => rfl
  | .table [] _, _ =>
    have hend : Scans ['\x7d'] [.endTable] rest := .token (by decide) rfl
    exact hend.cons (c := '\x7b') (by decide) fun _ => rfl
  | .table ((key, n) :: es) _, h =>
    have hend : Scans ['\x7d'] [.endTable] rest := .token (by decide) rfl
    have hbrace : Ends (['\x7d'] ++ rest) := ends_cons rest (by decide)
    have hentries := (scans_writeEntries es h.2.2 hbrace).append hend
    have hentry := scans_write n h.2.1 (ends_writeEntries es hbrace)
    rw [← List.append_assoc] at hentry
    have hkey := (hentry.append hentries).key key
    rw [write, tokensOf]
    simpa using hkey.cons (c := '\x7b') (by decide) fun _ => rfl

theorem scans_writeItems (ns : List Node) (h : ArePlain ns) {rest : List Char}
    (hrest : Ends rest) : Scans (writeItems ns) (tokensOfItems ns) rest := by
  match ns, h with
  | [], _ => exact .nil rest
  | n :: ns, h =>
    have hitem := scans_write n h.1 (ends_writeItems ns hrest)
    rw [writeItems, tokensOfItems, List.cons_append]
    exact (hitem.append (scans_writeItems ns h.2 hrest)).cons (by decide) fun _ => rfl

theorem scans_writeEntries (es : List (String × Node)) (h : ArePlainEntries es)
    {rest : List Char} (hrest : Ends rest) :
    Scans (writeEntries es) (tokensOfEntries es) rest := by
  match es, h with
  | [], _ => exact .nil rest
  | (key, n) :: es, h =>
    have hentry := scans_write n h.1 (ends_writeEntries es hrest)
    have hkey := (hentry.append (scans_writeEntries es h.2 hrest)).key key
    rw [writeEntries, tokensOfEntries]
    simpa using hkey.cons (c := ',') (by decide) fun _ => rfl

end

theorem tokens_text {n : Node} (h : IsPlain n) : tokens (text n) = tokensOf n := by
  have hends : Ends [] := fun c hc => absurd hc (by simp)
  obtain ⟨fuel, -, htokens⟩ := scans_write n h hends (write n).length (by simp)
  have hnothing : tokensFrom fuel [] = [] := by cases fuel <;> rfl
  rw [tokens, text, String.toList_ofList, String.length_ofList]
  rwa [List.append_nil, hnothing, List.append_nil] at htokens

def Reads (n : Node) : Prop :=
  ∀ (fuel : Nat) (rest : List Token), (tokensOf n).length ≤ fuel →
    value fuel (tokensOf n ++ rest) = (n, some rest)

theorem items_eq {n : Node} {ns : List Node} (h : ∀ m ∈ n :: ns, Reads m) {fuel : Nat}
    (hfuel : (tokensOf n ++ tokensOfItems ns).length < fuel) (rest : List Token) :
    items fuel (tokensOf n ++ (tokensOfItems ns ++ .endList :: rest)) =
      (n :: ns, .closed, some rest) := by
  -- an item takes one unit of fuel and has at least one token, so the fuel never runs out first
  induction ns generalizing n fuel with
  | nil =>
    obtain _ | fuel := fuel
    · exact absurd hfuel (Nat.not_lt_zero _)
    have hvalue := h n List.mem_cons_self fuel (.endList :: rest) (by simp at hfuel; omega)
    rw [items, tokensOfItems, List.nil_append, hvalue]
  | cons m ms ih =>
    obtain _ | fuel := fuel
    · exact absurd hfuel (Nat.not_lt_zero _)
    simp only [tokensOfItems, List.length_append, List.length_cons] at hfuel
    have hvalue := h n List.mem_cons_self fuel
      (.comma :: (tokensOf m ++ (tokensOfItems ms ++ .endList :: rest))) (by omega)
    have hless : (tokensOf m ++ tokensOfItems ms).length < fuel := by
      rw [List.length_append]
      omega
    have hitems := ih (fun k hk => h k (List.mem_cons_of_mem n hk)) hless
    rw [items, tokensOfItems, List.cons_append, List.append_assoc, hvalue]
    simp only [hitems]

theorem entryAndRest_eq {n : Node} {es : List (String × Node)} (hn : Reads n)
    (h : ∀ e ∈ es, Reads e.2) {fuel : Nat}
    (hfuel : (tokensOf n ++ tokensOfEntries es).length < fuel) (rest : List Token) :
    entryAndRest fuel (tokensOf n ++ (tokensOfEntries es ++ .endTable :: rest)) =
      (n, es, .closed, some rest) := by
  induction es generalizing n fuel with
  | nil =>
    obtain _ | fuel := fuel
    · exact absurd hfuel (Nat.not_lt_zero _)
    have hvalue := hn fuel (.endTable :: rest) (by simp at hfuel; omega)
    rw [entryAndRest, tokensOfEntries, List.nil_append, hvalue]
  | cons e es ih =>
    obtain ⟨key, m⟩ := e
    obtain _ | _ | fuel := fuel
    · exact absurd hfuel (Nat.not_lt_zero _)
    · simp [tokensOfEntries] at hfuel
    simp only [tokensOfEntries, List.length_append, List.length_cons] at hfuel
    have hvalue := hn (fuel + 1)
      (.comma :: .string key :: .colon :: (tokensOf m ++ (tokensOfEntries es ++ .endTable :: rest)))
      (by omega)
    have hless : (tokensOf m ++ tokensOfEntries es).length < fuel := by
      rw [List.length_append]
      omega
    have hm : Reads m := h (key, m) List.mem_cons_self
    have hentries := ih hm (fun e he => h e (List.mem_cons_of_mem _ he)) hless
    rw [entryAndRest, tokensOfEntries, List.cons_append, List.cons_append, List.cons_append,
      List.append_assoc, hvalue]
    simp only [entries, hentries]

theorem tokensOf_ne_nil (n : Node) : tokensOf n ≠ [] := by
  rcases n with _ | _ | _ | _ | _ | ⟨_ | _, _⟩ | ⟨_ | ⟨⟨_, _⟩, _⟩, _⟩ | _ | _ | _ | _ <;>
    simp [tokensOf]

theorem tokensOf_ne_endList (n : Node) (ts : List Token) (rest : List Token) :
    tokensOf n ++ rest ≠ .endList :: ts := by
  rcases n with _ | _ | _ | _ | _ | ⟨_ | _, _⟩ | ⟨_ | ⟨⟨_, _⟩, _⟩, _⟩ | _ | _ | _ | _ <;>
    simp [tokensOf]

mutual

theorem reads (n : Node) (h : IsPlain n) : Reads n := by
  rintro (_ | fuel) rest hfuel
  · exact absurd (List.eq_nil_of_length_eq_zero (Nat.le_zero.mp hfuel)) (tokensOf_ne_nil n)
  match n, h with
  | .null, _ => rfl
  | .bool _, _ => rfl
  | .int _, _ => rfl
  | .float _, h => exact h.elim
  | .string _, _ => rfl
  | .list [] _, ⟨rfl, _⟩ => rfl
  | .list (n :: ns) _, ⟨rfl, hn, hns⟩ =>
    have hreads : ∀ m ∈ n :: ns, Reads m :=
      List.forall_mem_cons.mpr ⟨reads n hn, reads_items ns hns⟩
    simp only [tokensOf, List.length_cons, List.length_append, List.length_nil] at hfuel
    have hless : (tokensOf n ++ tokensOfItems ns).length < fuel := by
      rw [List.length_append]
      omega
    have hitems := items_eq hreads hless rest
    rw [tokensOf, List.cons_append, List.append_assoc, List.append_assoc, List.singleton_append,
      value]
    · rw [hitems]
    · exact fun ts => tokensOf_ne_endList n ts _
  | .table [] _, ⟨rfl, _⟩ => rfl
  | .table ((key, n) :: es) _, ⟨rfl, hn, hes⟩ =>
    simp only [tokensOf, List.length_cons, List.length_append, List.length_nil] at hfuel
    obtain _ | fuel := fuel
    · omega
    have hless : (tokensOf n ++ tokensOfEntries es).length < fuel := by
      rw [List.length_append]
      omega
    have hentries := entryAndRest_eq (reads n hn) (reads_entries es hes) hless rest
    simp only [tokensOf, List.cons_append, List.append_assoc, List.nil_append, value, entries,
      hentries]

theorem reads_items (ns : List Node) (h : ArePlain ns) : ∀ n ∈ ns, Reads n := by
  match ns, h with
  | [], _ => simp
  | n :: ns, ⟨hn, hns⟩ => exact List.forall_mem_cons.mpr ⟨reads n hn, reads_items ns hns⟩

theorem reads_entries (es : List (String × Node)) (h : ArePlainEntries es) :
    ∀ e ∈ es, Reads e.2 := by
  match es, h with
  | [], _ => simp
  | (key, n) :: es, ⟨hn, hes⟩ =>
    exact List.forall_mem_cons.mpr ⟨reads n hn, reads_entries es hes⟩

end

theorem read_text {n : Node} (h : IsPlain n) : read (text n) = (n, true) := by
  have hvalue := reads n h (2 * (tokensOf n).length + 1) [] (by omega)
  rw [List.append_nil] at hvalue
  rw [read, tokens_text h]
  simp [hvalue]

end Reporting.Json
