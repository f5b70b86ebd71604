import Mathlib.Data.List.Nodup
import Reporting.Data.Decode

/-! What a record takes from a table, entry by entry. A key counts only for the field that goes by
it, a second entry of a field ends the reading, and a field without an entry stays as it started. -/

namespace Reporting.Decode

variable {α β : Type}

theorem map_eq_ok_iff {x : Decoded α} {f : α → β} {b : β} :
    x.map f = .ok b ↔ ∃ a, x = .ok a ∧ f a = b := by
  cases x <;> simp [Except.map]

namespace Field

def names (f : Field α) : List String := f.name :: f.legacy.toList

theorem goesBy_iff {f : Field α} {key : String} : f.goesBy key = true ↔ key ∈ f.names := by
  rw [goesBy, Bool.or_eq_true, beq_iff_eq, beq_iff_eq, names, List.mem_cons, Option.mem_toList,
    eq_comm (a := f.name)]

theorem goesBy_name (f : Field α) : f.goesBy f.name = true := goesBy_iff.mpr List.mem_cons_self

/-- What is read for the field shows under its name, the same on every record, and nowhere else. -/
structure IsShown (f : Field α) (look : α → String → Option Node) : Prop where
  reads {o : Origin} {a b : α} {n : Node} (h : f.read o a n = .ok b) (a' : α) :
    ∃ b', f.read o a' n = .ok b' ∧ look b' f.name = look b f.name
  frame {o : Origin} {a b : α} {n : Node} (h : f.read o a n = .ok b) {name : String}
    (hname : name ≠ f.name) : look b name = look a name

theorem isShown_of {look : α → String → Option Node} {name : String}
    (read : Origin → Node → Decoded β) {set : α → β → α} (legacy : String)
    (hset : ∀ a b v, look (set a v) name = look (set b v) name)
    (hframe : ∀ a v other, other ≠ name → look (set a v) other = look a other) :
    ((Field.of name read set).formerly legacy).IsShown look where
  reads {o} {a} {b} {n} h a' := by
    obtain ⟨v, hread, rfl⟩ := map_eq_ok_iff.mp h
    exact ⟨set a' v, map_eq_ok_iff.mpr ⟨v, hread, rfl⟩, hset a' a v⟩
  frame {o} {a} {b} {n} h other hother := by
    obtain ⟨v, -, rfl⟩ := map_eq_ok_iff.mp h
    exact hframe a v other hother

end Field

namespace Shape

variable {s : Shape α} {o : Origin}

def Unambiguous (s : Shape α) : Prop := (s.fields.flatMap Field.names).Nodup

instance (s : Shape α) : Decidable s.Unambiguous :=
  inferInstanceAs (Decidable (s.fields.flatMap Field.names).Nodup)

theorem find?_goesBy (h : s.Unambiguous) {f : Field α} (hf : f ∈ s.fields) {key : String}
    (hkey : f.goesBy key = true) : (s.fields.find? fun f => f.goesBy key) = some f := by
  unfold Unambiguous at h
  generalize s.fields = fs at h hf ⊢
  induction fs with
  | nil => cases hf
  | cons g gs ih =>
    rw [List.flatMap_cons, List.nodup_append] at h
    obtain ⟨-, htail, hdisjoint⟩ := h
    rcases List.mem_cons.mp hf with rfl | hf
    · exact List.find?_cons_of_pos hkey
    · have hnames : key ∈ gs.flatMap Field.names :=
        List.mem_flatMap.mpr ⟨f, hf, Field.goesBy_iff.mp hkey⟩
      have hother : ¬g.goesBy key = true := fun hg =>
        hdisjoint key (Field.goesBy_iff.mp hg) key hnames rfl
      exact (List.find?_cons_of_neg (p := fun f : Field α => f.goesBy key) hother).trans
        (ih htail hf)

theorem eq_of_name_eq (h : s.Unambiguous) {f g : Field α} (hf : f ∈ s.fields) (hg : g ∈ s.fields)
    (hname : f.name = g.name) : f = g := by
  have hfind := find?_goesBy h hf f.goesBy_name
  rw [hname, find?_goesBy h hg g.goesBy_name] at hfind
  exact (Option.some.inj hfind).symm

theorem find?_goesBy_eq_none {key : String} (h : ∀ f ∈ s.fields, f.goesBy key = false) :
    (s.fields.find? fun f => f.goesBy key) = none :=
  List.find?_eq_none.mpr fun f hf => by simp [h f hf]

theorem entries_field (h : s.Unambiguous) {f : Field α} (hf : f ∈ s.fields) {key : String}
    (hkey : f.goesBy key = true) {seen : List String} (hseen : f.name ∉ seen) (a : α) (n : Node)
    (es : List (String × Node)) :
    s.entries o a seen ((key, n) :: es) =
      (f.read o a n).bind fun a => s.entries o a (f.name :: seen) es := by
  rw [entries, find?_goesBy h hf hkey]
  simp only [List.contains_iff_mem, hseen, if_false]
  cases f.read o a n <;> rfl

theorem entries_again (h : s.Unambiguous) {f : Field α} (hf : f ∈ s.fields) {key : String}
    (hkey : f.goesBy key = true) {seen : List String} (hseen : f.name ∈ seen) (a : α) (n : Node)
    (es : List (String × Node)) :
    s.entries o a seen ((key, n) :: es) = fail (.duplicateField f.name) := by
  rw [entries, find?_goesBy h hf hkey]
  simp only [List.contains_iff_mem, hseen, if_true]

theorem entries_unknown {key : String} (h : ∀ f ∈ s.fields, f.goesBy key = false) {n : Node}
    (hn : n.isMalformed = false) (a : α) (seen : List String) (es : List (String × Node)) :
    s.entries o a seen ((key, n) :: es) = s.entries o a seen es := by
  rw [entries, find?_goesBy_eq_none h]
  simp [hn]

theorem entries_append (a : α) (seen : List String) (es es' : List (String × Node)) :
    s.entries o a seen (es ++ es') =
      (s.entries o a seen es).bind fun p => s.entries o p.1 p.2 es' := by
  induction es generalizing a seen with
  | nil => rfl
  | cons e es ih =>
    obtain ⟨key, n⟩ := e
    rw [List.cons_append, entries, entries]
    split
    · split
      · rfl
      · exact ih a seen
    · split
      · rfl
      · split
        · exact ih _ _
        · rfl

/-- What the entries of a table give: each is unknown, or gives a field for the first time. -/
inductive Run (s : Shape α) (o : Origin) :
    α → List String → List (String × Node) → α × List String → Prop
  | nil (a : α) (seen : List String) : Run s o a seen [] (a, seen)
  | unknown {a : α} {seen : List String} {key : String} {n : Node} {es : List (String × Node)}
      {p : α × List String} (hkey : ∀ f ∈ s.fields, f.goesBy key = false)
      (hn : n.isMalformed = false) (h : Run s o a seen es p) : Run s o a seen ((key, n) :: es) p
  | field {a b : α} {seen : List String} {key : String} {n : Node} {es : List (String × Node)}
      {p : α × List String} {f : Field α} (hf : f ∈ s.fields) (hkey : f.goesBy key = true)
      (hseen : f.name ∉ seen) (hread : f.read o a n = .ok b)
      (h : Run s o b (f.name :: seen) es p) : Run s o a seen ((key, n) :: es) p

theorem run_of_entries {a : α} {seen : List String} {es : List (String × Node)}
    {p : α × List String} (h : s.entries o a seen es = .ok p) : Run s o a seen es p := by
  induction es generalizing a seen with
  | nil =>
    rw [← Except.ok.inj h]
    exact .nil a seen
  | cons e es ih =>
    obtain ⟨key, n⟩ := e
    rw [entries] at h
    split at h
    · rename_i hnone
      split at h
      · cases h
      · rename_i hn
        refine .unknown ?_ (Bool.eq_false_iff.mpr hn) (ih h)
        simpa using List.find?_eq_none.mp hnone
    · rename_i f hsome
      split at h
      · cases h
      · rename_i hseen
        split at h
        · rename_i b hread
          have hkey := List.find?_some (p := fun f : Field α => f.goesBy key) hsome
          have hnew : f.name ∉ seen := by simpa using hseen
          exact .field (List.mem_of_find?_eq_some hsome) hkey hnew hread (ih h)
        · cases h

theorem entries_of_run (hs : s.Unambiguous) {a : α} {seen : List String}
    {es : List (String × Node)} {p : α × List String} (h : Run s o a seen es p) :
    s.entries o a seen es = .ok p := by
  induction h with
  | nil a seen => rfl
  | unknown hkey hn _ ih => rw [entries_unknown hkey hn, ih]
  | field hf hkey hseen hread _ ih => rw [entries_field hs hf hkey hseen, hread, Except.bind, ih]

/-- Entries that give the same fields the same values, up to entries nobody asks for. -/
inductive Restates (s : Shape α) : List (String × Node) → List (String × Node) → Prop
  | nil : Restates s [] []
  | field {f : Field α} (hf : f ∈ s.fields) {key key' : String} (h : f.goesBy key = true)
      (h' : f.goesBy key' = true) (n : Node) {es es' : List (String × Node)}
      (hrest : Restates s es es') : Restates s ((key, n) :: es) ((key', n) :: es')
  | left {key : String} (hkey : ∀ f ∈ s.fields, f.goesBy key = false) {n : Node}
      (hn : n.isMalformed = false) {es es' : List (String × Node)} (hrest : Restates s es es') :
      Restates s ((key, n) :: es) es'
  | right {key : String} (hkey : ∀ f ∈ s.fields, f.goesBy key = false) {n : Node}
      (hn : n.isMalformed = false) {es es' : List (String × Node)} (hrest : Restates s es es') :
      Restates s es ((key, n) :: es')

theorem entries_restates (hs : s.Unambiguous) {es es' : List (String × Node)}
    (h : Restates s es es') (a : α) (seen : List String) :
    s.entries o a seen es = s.entries o a seen es' := by
  induction h generalizing a seen with
  | nil => rfl
  | @field f hf _ _ h h' n _ _ _ ih =>
    by_cases hseen : f.name ∈ seen
    · rw [entries_again hs hf h hseen, entries_again hs hf h' hseen]
    · rw [entries_field hs hf h hseen, entries_field hs hf h' hseen]
      exact congrArg _ (funext fun b => ih b (f.name :: seen))
  | left hkey hn _ ih => rw [entries_unknown hkey hn, ih]
  | right hkey hn _ ih => rw [entries_unknown hkey hn, ih]

theorem table_restates (hs : s.Unambiguous) {es es' : List (String × Node)}
    (h : Restates s es es') (ending : Ending) : s.table o es ending = s.table o es' ending := by
  rw [table, table, entries_restates hs h]

theorem mem_of_run (hs : s.Unambiguous) {a : α} {seen : List String} {es : List (String × Node)}
    {p : α × List String} (h : Run s o a seen es p) {f : Field α} (hf : f ∈ s.fields)
    (hmem : f.name ∈ seen ∨ ∃ e ∈ es, f.goesBy e.1 = true) : f.name ∈ p.2 := by
  induction h with
  | nil a seen => simpa using hmem
  | unknown hkey hn _ ih =>
    apply ih
    simpa [hkey f hf] using hmem
  | @field _ _ _ key _ _ _ g hg hkey _ _ _ ih =>
    apply ih
    rcases hmem with hmem | ⟨e, he, hfe⟩
    · exact .inl (List.mem_cons_of_mem _ hmem)
    · rcases List.mem_cons.mp he with rfl | he
      · have hfg := find?_goesBy hs hf hfe
        rw [find?_goesBy hs hg hkey] at hfg
        rw [Option.some.inj hfg]
        exact .inl List.mem_cons_self
      · exact .inr ⟨e, he, hfe⟩

/-- A way to look at records field by field, which tells apart any two of them. -/
structure Shows (s : Shape α) (look : α → String → Option Node) : Prop where
  ext {a b : α} (h : ∀ f ∈ s.fields, look a f.name = look b f.name) : a = b
  fields : ∀ f ∈ s.fields, f.IsShown look

variable {look : α → String → Option Node}

theorem look_missing (hs : s.Unambiguous) (hlook : s.Shows look) {a : α} {seen : List String}
    {es : List (String × Node)} {p : α × List String} (h : Run s o a seen es p) {f : Field α}
    (hf : f ∈ s.fields) (hmissing : ∀ e ∈ es, f.goesBy e.1 = false) :
    look p.1 f.name = look a f.name := by
  induction h with
  | nil a seen => rfl
  | unknown _ _ _ ih => exact ih fun e he => hmissing e (List.mem_cons_of_mem _ he)
  | @field _ _ _ key n _ _ g hg hkey _ hread _ ih =>
    rw [ih fun e he => hmissing e (List.mem_cons_of_mem _ he)]
    refine (hlook.fields g hg).frame hread fun hname => ?_
    have hnot := hmissing (key, n) List.mem_cons_self
    rw [eq_of_name_eq hs hf hg hname, hkey] at hnot
    cases hnot

theorem run_filter (hs : s.Unambiguous) (hlook : s.Shows look) {a : α} {seen : List String}
    {es : List (String × Node)} {p : α × List String} (h : Run s o a seen es p)
    {keep : String × Node → Bool}
    (hkeep : ∀ e ∈ es, keep e = false → ∀ f ∈ s.fields, f.goesBy e.1 = true →
      look p.1 f.name = look s.start f.name)
    {a' : α} {seen' : List String} (hseen' : seen' ⊆ seen)
    (hsame : ∀ f ∈ s.fields, look a' f.name = look a f.name ∨ look a' f.name = look p.1 f.name)
    (hstart : ∀ f ∈ s.fields, f.name ∉ seen' → look a' f.name = look s.start f.name) :
    ∃ t, Run s o a' seen' (es.filter keep) (p.1, t) := by
  -- a field of `a'` is as the whole run has it by now, or already as it will be in the end
  induction h generalizing a' seen' with
  | nil a seen =>
    have ha : a' = a := hlook.ext fun f hf => (hsame f hf).elim id id
    exact ⟨seen', ha ▸ .nil a' seen'⟩
  | @unknown _ _ key n _ _ hkey hn _ ih =>
    obtain ⟨t, ht⟩ := ih (fun e he => hkeep e (List.mem_cons_of_mem _ he)) hseen' hsame hstart
    refine ⟨t, ?_⟩
    rw [List.filter_cons]
    split
    · exact .unknown hkey hn ht
    · exact ht
  | @field a b seen key n es p f hf hkey hnew hread hrest ih =>
    have htail := fun e he => hkeep e (List.mem_cons_of_mem (key, n) he)
    have hnew' : f.name ∉ seen' := fun hmem => hnew (hseen' hmem)
    have hother (g : Field α) (hne : g.name ≠ f.name) :
        look b g.name = look a g.name := (hlook.fields f hf).frame hread hne
    rw [List.filter_cons]
    split
    · obtain ⟨b', hread', hb'⟩ := (hlook.fields f hf).reads hread a'
      have hother' (g : Field α) (hne : g.name ≠ f.name) :
          look b' g.name = look a' g.name := (hlook.fields f hf).frame hread' hne
      have hsame' : ∀ g ∈ s.fields,
          look b' g.name = look b g.name ∨ look b' g.name = look p.1 g.name := by
        intro g hg
        by_cases hne : g.name = f.name
        · exact .inl (by rw [eq_of_name_eq hs hg hf hne, hb'])
        · rw [hother g hne, hother' g hne]
          exact hsame g hg
      have hstart' : ∀ g ∈ s.fields, g.name ∉ f.name :: seen' →
          look b' g.name = look s.start g.name := by
        intro g hg hmem
        rw [List.mem_cons, not_or] at hmem
        rw [hother' g hmem.1]
        exact hstart g hg hmem.2
      obtain ⟨t, ht⟩ := ih htail (List.cons_subset_cons f.name hseen') hsame' hstart'
      exact ⟨t, .field hf hkey hnew' hread' ht⟩
    · rename_i hdrop
      have hseen := List.Subset.trans hseen' (List.subset_cons_self f.name seen)
      refine ih htail hseen (fun g hg => ?_) hstart
      by_cases hne : g.name = f.name
      · have hdefault := hkeep (key, n) List.mem_cons_self (Bool.eq_false_iff.mpr hdrop) f hf hkey
        rw [eq_of_name_eq hs hg hf hne, hdefault]
        exact .inr (hstart f hf hnew')
      · rw [hother g hne]
        exact hsame g hg

theorem nodup_map_name (hs : s.Unambiguous) : (s.fields.map Field.name).Nodup := by
  refine hs.sublist ?_
  generalize s.fields = fs
  induction fs with
  | nil => exact List.Sublist.slnil
  | cons f fs ih =>
    rw [List.map_cons, List.flatMap_cons, Field.names, List.cons_append]
    exact (ih.trans (List.sublist_append_right _ _)).cons_cons f.name

theorem entries_named (hs : s.Unambiguous) {fs : List (Field α)} (hfs : fs ⊆ s.fields)
    (hnodup : (fs.map Field.name).Nodup) {seen : List String} (hseen : ∀ f ∈ fs, f.name ∉ seen)
    {es : List (String × Node)} (hes : es.map Prod.fst = fs.map Field.name) (i : Nat) (a : α) :
    s.entries o a seen es =
        (s.positions o .closed i a fs (es.map Prod.snd)).map (fun p =>
          (p.1, (fs.map Field.name).reverse ++ seen)) ∧
      ∀ p, s.positions o .closed i a fs (es.map Prod.snd) = .ok p → p.2 = [] := by
  induction fs generalizing i a seen es with
  | nil =>
    rw [List.map_eq_nil_iff.mp hes]
    exact ⟨rfl, by rintro p ⟨⟩; rfl⟩
  | cons f fs ih =>
    obtain _ | ⟨⟨key, n⟩, es⟩ := es
    · cases hes
    obtain ⟨rfl, hnames⟩ := List.cons.inj hes
    have hf := hfs List.mem_cons_self
    have hnodup' := List.nodup_cons.mp hnodup
    have hseen' : ∀ g ∈ fs, g.name ∉ f.name :: seen := by
      intro g hg hmem
      rcases List.mem_cons.mp hmem with hname | hmem
      · exact hnodup'.1 (hname ▸ List.mem_map_of_mem hg)
      · exact hseen g (List.mem_cons_of_mem f hg) hmem
    have hrest (b : α) := ih (List.subset_of_cons_subset hfs) hnodup'.2 hseen' hnames (i + 1) b
    rw [entries_field hs hf f.goesBy_name (hseen f List.mem_cons_self)]
    simp only [List.map_cons, positions, List.reverse_cons, List.append_assoc]
    cases f.read o a n with
    | error e => exact ⟨rfl, fun p hp => by cases hp⟩
    | ok b => exact hrest b

theorem table_eq_map {es : List (String × Node)}
    (h : ∀ p, s.entries o s.start [] es = .ok p → ∀ f ∈ s.fields, f.required = true → f.name ∈ p.2) :
    s.table o es .closed = (s.entries o s.start [] es).map Prod.fst := by
  rw [table]
  cases hread : s.entries o s.start [] es with
  | error e => rfl
  | ok p =>
    have hgiven : (s.fields.find? fun f => f.required && !p.2.contains f.name) = none := by
      refine List.find?_eq_none.mpr fun f hf => ?_
      have hf := h p hread f hf
      simpa using hf
    simp only [bind, Except.bind, closed, hgiven]
    rfl

theorem table_named (hs : s.Unambiguous) {es : List (String × Node)}
    (hes : es.map Prod.fst = s.fields.map Field.name) (surplus : Surplus) :
    s.table o es .closed = s.sequence o surplus (es.map Prod.snd) .closed := by
  obtain ⟨hentries, hrest⟩ := entries_named (o := o) hs (List.Subset.refl s.fields)
    (nodup_map_name hs) (fun f _ => List.not_mem_nil) hes 0 s.start
  rw [table_eq_map, hentries, sequence]
  · cases hread : s.positions o .closed 0 s.start s.fields (es.map Prod.snd) with
    | error e => rfl
    | ok p =>
      obtain ⟨a, rest⟩ := p
      obtain rfl : rest = [] := hrest _ hread
      rfl
  · intro p hp f hf _
    rw [hentries] at hp
    obtain ⟨_, -, rfl⟩ := map_eq_ok_iff.mp hp
    exact List.mem_append_left [] (List.mem_reverse.mpr (List.mem_map_of_mem hf))

section AllMayBeMissing

variable (hfree : ∀ f ∈ s.fields, f.required = false)
include hfree

theorem table_of_free (es : List (String × Node)) :
    s.table o es .closed = (s.entries o s.start [] es).map Prod.fst :=
  table_eq_map fun _ _ f hf hrequired => absurd hrequired (by simp [hfree f hf])

theorem run_of_table {es : List (String × Node)} {a : α} (h : s.table o es .closed = .ok a) :
    ∃ t, Run s o s.start [] es (a, t) := by
  rw [table_of_free hfree] at h
  cases hread : s.entries o s.start [] es with
  | error e =>
    rw [hread] at h
    cases h
  | ok p =>
    rw [hread] at h
    exact ⟨p.2, Except.ok.inj h ▸ run_of_entries hread⟩

theorem table_twice (hs : s.Unambiguous) {f : Field α} (hf : f ∈ s.fields) {key : String}
    (hkey : f.goesBy key = true) {es : List (String × Node)} (h : ∃ e ∈ es, f.goesBy e.1 = true)
    (n : Node) (es' : List (String × Node)) (ending : Ending) :
    s.table o (es ++ (key, n) :: es') ending =
      (s.table o es .closed).bind fun _ => fail (.duplicateField f.name) := by
  rw [table_of_free hfree, table, entries_append]
  cases hread : s.entries o s.start [] es with
  | error e => rfl
  | ok p =>
    have hseen := mem_of_run hs (run_of_entries hread) hf (.inr h)
    simp only [Except.bind, Except.map, entries_again hs hf hkey hseen]
    rfl

theorem look_of_missing (hs : s.Unambiguous) (hlook : s.Shows look) {es : List (String × Node)}
    {a : α} (h : s.table o es .closed = .ok a) {f : Field α} (hf : f ∈ s.fields)
    (hmissing : ∀ e ∈ es, f.goesBy e.1 = false) : look a f.name = look s.start f.name := by
  obtain ⟨t, hrun⟩ := run_of_table hfree h
  exact look_missing hs hlook hrun hf hmissing

theorem table_filter (hs : s.Unambiguous) (hlook : s.Shows look) {es : List (String × Node)}
    {a : α} (h : s.table o es .closed = .ok a) {keep : String × Node → Bool}
    (hkeep : ∀ e ∈ es, keep e = false → ∀ f ∈ s.fields, f.goesBy e.1 = true →
      look a f.name = look s.start f.name) :
    s.table o (es.filter keep) .closed = .ok a := by
  obtain ⟨t, hrun⟩ := run_of_table hfree h
  obtain ⟨t', hrun'⟩ := run_filter hs hlook hrun hkeep (List.Subset.refl [])
    (fun f _ => .inl rfl) (fun f _ _ => rfl)
  rw [table_of_free hfree, entries_of_run hs hrun']
  rfl

end AllMayBeMissing

end Shape

end Reporting.Decode
