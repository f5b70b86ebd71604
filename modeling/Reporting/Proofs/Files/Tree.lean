import Reporting.Proofs.Files.Path

/-! What operations on files leave as it was. None of them takes a directory away, so a path that led
somewhere goes on to lead there; a file is written or removed at one place, and directories are made
only where nothing stood. -/

namespace Reporting.Tree

open Reporting.Path (place placeFrom)

variable {t t' t'' : Tree} {path : String}

def KeepsDirectories (t t' : Tree) : Prop :=
  ∀ l, t.entryAt l = some .directory → t'.entryAt l = some .directory

theorem KeepsDirectories.refl (t : Tree) : t.KeepsDirectories t := fun _ h => h

theorem KeepsDirectories.trans (h : t.KeepsDirectories t') (h' : t'.KeepsDirectories t'') :
    t.KeepsDirectories t'' := fun l hl => h' l (h l hl)

def Grows (t t' : Tree) : Prop := ∀ l x, t.entryAt l = some x → t'.entryAt l = some x

theorem Grows.refl (t : Tree) : t.Grows t := fun _ _ h => h

theorem Grows.trans (h : t.Grows t') (h' : t'.Grows t'') : t.Grows t'' :=
  fun l x hl => h' l x (h l x hl)

theorem Grows.keepsDirectories (h : t.Grows t') : t.KeepsDirectories t' := fun l => h l .directory

/-! ### Ways -/

theorem eq_placeFrom_of_follow {here l : Location} {names : List String}
    (h : t.follow here names = .ok l) : l = placeFrom here names := by
  induction names generalizing here with
  | nil => exact (Except.ok.inj h).symm
  | cons name names ih =>
    unfold follow at h
    unfold placeFrom
    cases hx : t.entryAt here with
    | none =>
      rw [hx] at h
      cases h
    | some x =>
      rw [hx] at h
      cases x with
      | file content => cases h
      | directory =>
        dsimp only at h
        split_ifs at h ⊢
        · exact ih h
        · exact ih h
        · exact ih h

theorem KeepsDirectories.follow (hdir : t.KeepsDirectories t') {here l : Location}
    {names : List String} (h : t.follow here names = .ok l) : t'.follow here names = .ok l := by
  induction names generalizing here with
  | nil => exact h
  | cons name names ih =>
    unfold Tree.follow at h ⊢
    cases hx : t.entryAt here with
    | none =>
      rw [hx] at h
      cases h
    | some x =>
      rw [hx] at h
      cases x with
      | file content => cases h
      | directory =>
        rw [hdir here hx]
        dsimp only at h ⊢
        split_ifs at h ⊢
        · exact ih h
        · exact ih h
        · exact ih h

theorem locate_eq_ok_iff {l : Location} : t.locate path = .ok l ↔
    (¬path.isEmpty ∧ '\x00' ∉ path.toList ∧ ¬Path.isTooLong path) ∧
      t.follow [] (Path.names path) = .ok l := by
  unfold locate
  split_ifs <;> simp_all

theorem eq_place_of_locate {l : Location} (h : t.locate path = .ok l) : l = place path :=
  eq_placeFrom_of_follow (locate_eq_ok_iff.mp h).2

theorem KeepsDirectories.locate (hdir : t.KeepsDirectories t') {l : Location}
    (h : t.locate path = .ok l) : t'.locate path = .ok l :=
  locate_eq_ok_iff.mpr ((locate_eq_ok_iff.mp h).imp_right hdir.follow)

theorem read_eq_ok_iff {content : ByteArray} : t.read path = .ok content ↔
    t.locate path = .ok (place path) ∧ t.entryAt (place path) = some (.file content) := by
  unfold read lookup
  cases hl : t.locate path with
  | error e => simp
  | ok l =>
    rw [eq_place_of_locate hl]
    dsimp only
    cases hx : t.entryAt (place path) with
    | none => simp
    | some x => cases x <;> simp

theorem KeepsDirectories.read (hdir : t.KeepsDirectories t')
    (hsame : ∀ x, t.entryAt (place path) = some x → t'.entryAt (place path) = some x)
    {content : ByteArray} (h : t.read path = .ok content) : t'.read path = .ok content := by
  obtain ⟨hl, hx⟩ := read_eq_ok_iff.mp h
  exact read_eq_ok_iff.mpr ⟨hdir.locate hl, hsame _ hx⟩

theorem Grows.read (h : t.Grows t') {content : ByteArray} (hread : t.read path = .ok content) :
    t'.read path = .ok content :=
  h.keepsDirectories.read (fun x hx => h _ x hx) hread

/-! ### Single operations -/

structure Writes (t : Tree) (path : String) (content : ByteArray) (t' : Tree) : Prop where
  leads : t.locate path = .ok (place path)
  notDirectory : t.entryAt (place path) ≠ some .directory
  holds : t'.entryAt (place path) = some (.file content)
  rest : ∀ l, l ≠ place path → t'.entryAt l = t.entryAt l

theorem writes_of_write {content : ByteArray} (h : t.write path content = .ok t') :
    t.Writes path content t' := by
  unfold write at h
  cases hl : t.locate path with
  | error e =>
    rw [hl] at h
    cases h
  | ok l =>
    have hplace := eq_place_of_locate hl
    subst hplace
    rw [hl] at h
    have hfile : t.entryAt (place path) ≠ some .directory := by
      intro hx
      simp only [hx] at h
      cases h
    have hput : t' = t.put (place path) (.file content) := by
      dsimp only at h
      split at h
      · cases h
      · exact (Except.ok.inj h).symm
    have hroot : place path ≠ [] := fun hroot => hfile (by rw [hroot, entryAt_root])
    refine ⟨hl, hfile, ?_, ?_⟩
    · rw [hput, entryAt_put_self t _ hroot]
    · intro l hne
      rw [hput, entryAt_put_of_ne t _ hne]

theorem Writes.keepsDirectories {content : ByteArray} (h : t.Writes path content t') :
    t.KeepsDirectories t' := by
  intro l hl
  rw [h.rest l fun hplace => h.notDirectory (hplace ▸ hl)]
  exact hl

theorem Writes.read {content : ByteArray} (h : t.Writes path content t') :
    t'.read path = .ok content :=
  read_eq_ok_iff.mpr ⟨h.keepsDirectories.locate h.leads, h.holds⟩

theorem writes_of_read {content : ByteArray} (h : t.read path = .ok content) :
    t.Writes path content t := by
  obtain ⟨hl, hx⟩ := read_eq_ok_iff.mp h
  exact ⟨hl, by rw [hx]; nofun, hx, fun _ _ => rfl⟩

theorem writes_of_copy {source target : String} {size : Nat}
    (h : t.copy source target = .ok (size, t')) :
    ∃ content, t.read source = .ok content ∧ size = content.size ∧ t.Writes target content t' := by
  unfold copy at h
  cases hread : t.read source with
  | error e =>
    rw [hread] at h
    cases h
  | ok content =>
    rw [hread] at h
    dsimp only at h
    cases hwrite : t.write target content with
    | error e =>
      rw [hwrite] at h
      cases h
    | ok t₁ =>
      rw [hwrite] at h
      obtain ⟨rfl, rfl⟩ := Prod.mk.inj (Except.ok.inj h)
      exact ⟨content, rfl, rfl, writes_of_write hwrite⟩

theorem entryAt_erase_self (t : Tree) {l : Location} (h : l ≠ []) :
    (⟨t.entries.erase l⟩ : Tree).entryAt l = none := by
  rw [entryAt, if_neg (by simpa using h), Entries.get?_erase_self]

theorem entryAt_erase_of_ne (t : Tree) {l m : Location} (h : m ≠ l) :
    (⟨t.entries.erase l⟩ : Tree).entryAt m = t.entryAt m := by
  unfold entryAt
  rw [Entries.get?_erase_of_ne _ h]

theorem remove_of_file {content : ByteArray} (hl : t.locate path = .ok (place path))
    (hx : t.entryAt (place path) = some (.file content)) :
    t.remove path = ⟨t.entries.erase (place path)⟩ := by
  unfold remove
  rw [hl]
  dsimp only
  rw [hx]

theorem entryAt_remove_self {content : ByteArray} (hl : t.locate path = .ok (place path))
    (hx : t.entryAt (place path) = some (.file content)) :
    (t.remove path).entryAt (place path) = none := by
  have hroot : place path ≠ [] := by
    intro hroot
    rw [hroot, entryAt_root] at hx
    cases hx
  rw [remove_of_file hl hx, entryAt_erase_self t hroot]

theorem entryAt_remove (t : Tree) (path : String) (l : Location) :
    (t.remove path).entryAt l = t.entryAt l ∨
      l = place path ∧ ∃ content, t.entryAt l = some (.file content) := by
  unfold remove
  cases hl : t.locate path with
  | error e => exact .inl rfl
  | ok m =>
    rw [eq_place_of_locate hl]
    dsimp only
    split
    · rename_i content hx
      by_cases hm : l = place path
      · exact .inr ⟨hm, content, hm ▸ hx⟩
      · exact .inl (entryAt_erase_of_ne t hm)
    · exact .inl rfl

theorem entryAt_remove_of_ne (t : Tree) {path : String} {l : Location} (h : l ≠ place path) :
    (t.remove path).entryAt l = t.entryAt l :=
  (entryAt_remove t path l).resolve_right fun hl => h hl.1

theorem entryAt_remove_eq_none (hl : t.locate path = .ok (place path))
    (hx : t.entryAt (place path) ≠ some .directory) : (t.remove path).entryAt (place path) = none := by
  cases hentry : t.entryAt (place path) with
  | none =>
    rcases entryAt_remove t path (place path) with hsame | ⟨-, content, hfile⟩
    · rw [hsame, hentry]
    · rw [hentry] at hfile
      cases hfile
  | some x =>
    cases x with
    | directory => exact absurd hentry hx
    | file content => exact entryAt_remove_self hl hentry

theorem remove_of_directory (hx : t.entryAt (place path) = some .directory) : t.remove path = t := by
  unfold remove
  cases hl : t.locate path with
  | error e => rfl
  | ok l =>
    rw [eq_place_of_locate hl]
    dsimp only
    rw [hx]

theorem keepsDirectories_remove (t : Tree) (path : String) :
    t.KeepsDirectories (t.remove path) := by
  intro l hl
  rcases entryAt_remove t path l with hsame | ⟨-, content, hx⟩
  · rw [hsame]
    exact hl
  · rw [hl] at hx
    cases hx

theorem entryAt_makeAlong (t : Tree) (here : Location) (names : List String) (l : Location) :
    (t.makeAlong here names).2.entryAt l = t.entryAt l ∨
      t.entryAt l = none ∧ (t.makeAlong here names).2.entryAt l = some .directory ∧
        ∃ ns, ns <+: names ∧ l = placeFrom here ns := by
  induction names generalizing t here with
  | nil => exact .inl rfl
  | cons name names ih =>
    have hlonger {next : Location} (hnext : ∀ ns, placeFrom here (name :: ns) = placeFrom next ns) :
        (∃ ns, ns <+: names ∧ l = placeFrom next ns) →
          ∃ ns, ns <+: name :: names ∧ l = placeFrom here ns := by
      rintro ⟨ns, hns, hl⟩
      exact ⟨name :: ns, List.cons_prefix_cons.mpr ⟨rfl, hns⟩, hl.trans (hnext ns).symm⟩
    unfold makeAlong
    split_ifs with hidle hup hlong
    · exact (ih t here).imp_right fun h => ⟨h.1, h.2.1, hlonger (fun ns => by
        rw [placeFrom, if_pos hidle]) h.2.2⟩
    · exact (ih t here.dropLast).imp_right fun h => ⟨h.1, h.2.1, hlonger (fun ns => by
        rw [placeFrom, if_neg hidle, if_pos hup]) h.2.2⟩
    · exact .inl rfl
    · have hdown (ns : List String) :
          placeFrom here (name :: ns) = placeFrom (here ++ [name]) ns := by
        rw [placeFrom, if_neg hidle, if_neg hup]
      cases hx : t.entryAt (here ++ [name]) with
      | some x =>
        cases x with
        | file content => exact .inl rfl
        | directory =>
          exact (ih t (here ++ [name])).imp_right fun h => ⟨h.1, h.2.1, hlonger hdown h.2.2⟩
      | none =>
        dsimp only
        have hne : here ++ [name] ≠ [] := List.append_ne_nil_of_right_ne_nil _ (List.cons_ne_nil _ _)
        have hmade := ih (t.put (here ++ [name]) .directory) (here ++ [name])
        by_cases hl : l = here ++ [name]
        · -- the directory made first stays
          rw [hl, entryAt_put_self t _ hne] at hmade
          have hself : placeFrom here [name] = here ++ [name] := hdown []
          refine .inr ⟨hl ▸ hx, ?_, [name], ⟨names, rfl⟩, hl.trans hself.symm⟩
          rw [hl]
          exact hmade.elim id fun h => absurd h.1 (Option.some_ne_none _)
        · rw [entryAt_put_of_ne t _ hl] at hmade
          exact hmade.imp_right fun h => ⟨h.1, h.2.1, hlonger hdown h.2.2⟩

theorem entryAt_makeDirectories (t : Tree) (path : String) (l : Location) :
    (t.makeDirectories path).2.entryAt l = t.entryAt l ∨
      t.entryAt l = none ∧ (t.makeDirectories path).2.entryAt l = some .directory ∧
        ∃ ns, ns <+: Path.names path ∧ l = placeFrom [] ns := by
  unfold makeDirectories
  split_ifs
  · exact .inl rfl
  · exact .inl rfl
  · exact entryAt_makeAlong t [] (Path.names path) l

theorem grows_makeDirectories (t : Tree) (path : String) :
    t.Grows (t.makeDirectories path).2 := by
  intro l x hx
  rcases entryAt_makeDirectories t path l with hsame | ⟨hnone, -, -⟩
  · rw [hsame]
    exact hx
  · rw [hx] at hnone
    cases hnone

end Reporting.Tree
