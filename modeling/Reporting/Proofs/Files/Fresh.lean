import Mathlib.Algebra.Order.BigOperators.Group.List
import Mathlib.Algebra.Order.Group.Nat
import Reporting.Proofs.Files.Tree
import Reporting.Proofs.Text.Decimal
import Reporting.Proofs.Text.Replacing

/-! Names of temporary files. The serial number in such a name is part of no name that is there, so
a new file never takes the place of anything, and all else stays as it was. -/

namespace Reporting

namespace Tree

open Reporting.Path (place)

variable {t t' : Tree} {start ending : String}

theorem isDigit_serial (n : Nat) : ∀ c ∈ (serial n).toList, c.isDigit = true := by
  intro c hc
  rw [serial, String.toList_ofList] at hc
  rcases List.mem_append.mp hc with hc | hc
  · rw [List.eq_of_mem_replicate hc]
    decide
  · exact Text.isDigit_digits n c hc

theorem exists_mem_serial (n : Nat) : ∃ c, c ∈ (serial n).toList := by
  obtain ⟨c, hc⟩ := List.exists_mem_of_ne_nil _ (Text.digits_ne_nil n)
  exact ⟨c, by rw [serial, String.toList_ofList]; exact List.mem_append_right _ hc⟩

def Numbered (n : Nat) (name : String) : Prop := (serial n).toList <:+: name.toList

theorem Numbered.isPlain {n : Nat} {name : String} (h : Numbered n name)
    (hslash : '/' ∉ name.toList) : Path.IsPlain name := by
  obtain ⟨c, hc⟩ := exists_mem_serial n
  refine .ofMem (c := c) (h.subset hc) ?_ hslash
  rintro rfl
  exact absurd (isDigit_serial n _ hc) (by decide)

def Unused (t : Tree) (n : Nat) : Prop := ∀ name ∈ t.names, ¬Numbered n name

theorem unused_of_freshSerial? {n : Nat} (h : t.freshSerial? = some n) : t.Unused n := by
  intro name hname hnumbered
  have hfree := (List.find?_eq_some_iff_append.mp h).1
  have hpart := List.all_eq_true.mp hfree name hname
  rw [Text.occursIn_iff.mpr hnumbered] at hpart
  cases hpart

theorem unused_tenTo (t : Tree) : t.Unused (tenTo t.nameSize) := by
  intro name hname hnumbered
  have hlength := hnumbered.length_le
  have hshort : name.length ≤ t.nameSize := List.le_sum_of_mem (List.mem_map_of_mem hname)
  have hlong := Text.lt_tenTo_length_digits (tenTo t.nameSize)
  have hless := (Nat.pow_lt_pow_iff_right (by decide)).mp hlong
  rw [serial, String.toList_ofList, List.length_append] at hlength
  rw [← String.length_toList] at hshort
  omega

theorem freshPath_spec (t : Tree) (directory start ending : String) :
    ∃ n, t.freshPath directory start ending = Path.join directory (start ++ serial n ++ ending) ∧
      t.Unused n := by
  unfold freshPath
  dsimp only
  cases h : t.freshSerial? with
  | some n => exact ⟨n, rfl, unused_of_freshSerial? h⟩
  | none => exact ⟨_, rfl, unused_tenTo t⟩

theorem mem_keys_of_entryAt {l : Location} {x : FileEntry} (hroot : l ≠ [])
    (hx : t.entryAt l = some x) : l ∈ t.entries.keys := by
  rw [entryAt, if_neg (by simpa using hroot)] at hx
  exact Entries.mem_keys_of_get? hx

theorem Unused.entryAt {n : Nat} (hn : t.Unused n) {l : Location} {name : String}
    (hname : name ∈ l) (h : Numbered n name) : t.entryAt l = none := by
  cases hx : t.entryAt l with
  | none => rfl
  | some x =>
    have hl := mem_keys_of_entryAt (List.ne_nil_of_mem hname) hx
    exact absurd h (hn name (List.mem_flatten.mpr ⟨l, hl, hname⟩))

theorem follow_append {here l : Location} {as bs : List String}
    (h : t.follow here (as ++ bs) = .ok l) : ∃ m, t.follow m bs = .ok l := by
  induction as generalizing here with
  | nil => exact ⟨here, h⟩
  | cons a as ih =>
    rw [List.cons_append] at h
    unfold follow at h
    cases hx : t.entryAt here with
    | none =>
      rw [hx] at h
      cases h
    | some x =>
      rw [hx] at h
      cases x with
      | file content => cases h
      | directory =>
        dsimp only at h
        split_ifs at h
        · exact ih h
        · exact ih h
        · exact ih h

theorem Unused.locate_ne_ok {n : Nat} (hn : t.Unused n) {path : String} {as bs : List String}
    {name : String} (hnames : Path.names path = as ++ name :: bs) (hbs : bs ≠ [])
    (h : Numbered n name) (l : Location) : t.locate path ≠ .ok l := by
  intro hl
  have hfollow := (locate_eq_ok_iff.mp hl).2
  have hslash : '/' ∉ name.toList :=
    Path.not_mem_of_mem_names (hnames ▸ List.mem_append_right as List.mem_cons_self)
  have hplain := h.isPlain hslash
  rw [hnames] at hfollow
  obtain ⟨m, hm⟩ := follow_append hfollow
  obtain ⟨b, bs, rfl⟩ := List.exists_cons_of_ne_nil hbs
  have hnone : t.entryAt (m ++ [name]) = none :=
    hn.entryAt (List.mem_append_right m List.mem_cons_self) h
  unfold follow at hm
  split at hm
  · cases hm
  · cases hm
  · rw [if_neg (by rw [hplain.notIdle]; exact Bool.false_ne_true), if_neg hplain.notUp] at hm
    split_ifs at hm
    rw [follow, hnone] at hm
    cases hm

theorem numbered_append (start ending : String) (n : Nat) :
    Numbered n (start ++ serial n ++ ending) := by
  refine ⟨start.toList, ending.toList, ?_⟩
  rw [String.toList_append, String.toList_append]

theorem exists_names_join (directory path : String) :
    ∃ as, Path.names (Path.join directory path) = as ++ Path.names path := by
  cases habsolute : Path.isAbsolute path with
  | false => exact ⟨_, Path.names_join directory habsolute⟩
  | true =>
    refine ⟨[], ?_⟩
    rw [Path.join, habsolute, Bool.true_or, if_pos rfl, List.nil_append]

theorem names_numbered {n : Nat} (hslash : '/' ∈ ending.toList) (start directory : String) :
    ∃ as name bs, Path.names (Path.join directory (start ++ serial n ++ ending)) =
      as ++ name :: bs ∧ bs ≠ [] ∧ Numbered n name := by
  obtain ⟨before, after, hending, hbefore⟩ := List.eq_append_cons_of_mem hslash
  obtain ⟨as, hjoin⟩ := exists_names_join directory (start ++ serial n ++ ending)
  have hdigits : '/' ∉ (serial n).toList ++ before := by
    rw [List.mem_append, not_or]
    exact ⟨fun hdigit => absurd (isDigit_serial n _ hdigit) (by decide), hbefore⟩
  obtain ⟨ps, p, hsplit⟩ := Text.exists_splitOn_append hdigits start.toList
  have hpath : start ++ serial n ++ ending =
      .ofList (start.toList ++ ((serial n).toList ++ before)) ++ "/" ++ .ofList after := by
    rw [← String.toList_inj]
    simp [hending]
  have hbehind : Path.names (.ofList after) ≠ [] := by
    rw [Path.names, ne_eq, List.map_eq_nil_iff]
    exact Text.splitOn_ne_nil _ _
  refine ⟨as ++ ps.map .ofList, .ofList (p ++ ((serial n).toList ++ before)), _, ?_, hbehind, ?_⟩
  · rw [hjoin, hpath, Path.names_append_slash, Path.names, String.toList_ofList, hsplit,
      List.map_append, List.map_singleton]
    simp only [List.append_assoc, List.singleton_append]
  · refine ⟨p, before, ?_⟩
    rw [String.toList_ofList, List.append_assoc]

/-- A new file stands in a directory, at a place where nothing stood, and that is all. -/
structure Adds (t : Tree) (directory path : String) (content : ByteArray) (t' : Tree) : Prop where
  inside : ∃ name, place path = place directory ++ [name]
  leads : t'.locate path = .ok (place path)
  fresh : t.entryAt (place path) = none
  holds : t'.entryAt (place path) = some (.file content)
  rest : ∀ l, l ≠ place path → t'.entryAt l = t.entryAt l

theorem adds_of_writeFresh {directory path : String} {content : ByteArray}
    (hslash : '/' ∈ start.toList → '/' ∈ ending.toList)
    (h : t.writeFresh directory start ending content = .ok (path, t')) :
    t.Adds directory path content t' := by
  obtain ⟨n, hpath, hn⟩ := freshPath_spec t directory start ending
  unfold writeFresh at h
  dsimp only at h
  cases hwrite : t.write (t.freshPath directory start ending) content with
  | error e =>
    rw [hwrite] at h
    cases h
  | ok t₁ =>
    rw [hwrite] at h
    obtain ⟨rfl, rfl⟩ := Prod.mk.inj (Except.ok.inj h)
    have hwrites := writes_of_write hwrite
    have hnumbered := numbered_append start ending n
    rw [hpath] at hwrites ⊢
    by_cases hending : '/' ∈ ending.toList
    -- then the number names a directory on the way, which is not there
    · obtain ⟨as, name, bs, hnames, hbs, hname⟩ := names_numbered hending start directory
      exact absurd hwrites.leads (hn.locate_ne_ok hnames hbs hname _)
    · have hplain : Path.IsPlain (start ++ serial n ++ ending) := by
        refine hnumbered.isPlain ?_
        simp only [String.toList_append, List.mem_append, not_or]
        refine ⟨⟨fun hstart => hending (hslash hstart), fun hdigit => ?_⟩, hending⟩
        exact absurd (isDigit_serial _ _ hdigit) (by decide)
      have hplace := hplain.place_join directory
      refine ⟨⟨_, hplace⟩, hwrites.keepsDirectories.locate hwrites.leads, ?_, hwrites.holds,
        hwrites.rest⟩
      rw [hplace]
      exact hn.entryAt (List.mem_append_right _ List.mem_cons_self) hnumbered

theorem Adds.ne_of_entryAt {directory path : String} {content : ByteArray}
    (h : t.Adds directory path content t') {l : Location} {x : FileEntry}
    (hx : t.entryAt l = some x) : l ≠ place path := by
  rintro rfl
  rw [h.fresh] at hx
  cases hx

theorem Adds.grows {directory path : String} {content : ByteArray}
    (h : t.Adds directory path content t') : t.Grows t' := by
  intro l x hx
  rw [h.rest l (h.ne_of_entryAt hx)]
  exact hx

theorem Adds.read {directory path : String} {content : ByteArray}
    (h : t.Adds directory path content t') : t'.read path = .ok content :=
  read_eq_ok_iff.mpr ⟨h.leads, h.holds⟩

theorem Adds.keepsDirectories {directory path : String} {content : ByteArray}
    (h : t.Adds directory path content t') {u : Tree}
    (hrest : ∀ l, l ≠ place path → u.entryAt l = t'.entryAt l) : t'.KeepsDirectories u := by
  intro l hl
  rw [hrest l fun hplace => by rw [hplace, h.holds] at hl; cases hl]
  exact hl

theorem Adds.entryAt_remove {directory path : String} {content content' : ByteArray}
    (h : t.Adds directory path content t') {u : Tree}
    (hx : u.entryAt (place path) = some (.file content'))
    (hrest : ∀ l, l ≠ place path → u.entryAt l = t'.entryAt l) :
    (u.remove path).entryAt = t.entryAt := by
  funext l
  by_cases hl : l = place path
  · rw [hl, entryAt_remove_self ((h.keepsDirectories hrest).locate h.leads) hx, h.fresh]
  · rw [entryAt_remove_of_ne u hl, hrest l hl, h.rest l hl]

end Tree

end Reporting
