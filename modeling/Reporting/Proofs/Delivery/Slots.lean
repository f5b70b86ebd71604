import Mathlib.Logic.Relation
import Reporting.Proofs.Delivery.Stored

/-! Runs of calls for records that share one storage. No two records and formats share a file, so
whatever fails and whatever is edited, a slot goes on to name the file that holds what was rendered
for it last. -/

namespace Reporting

open Reporting.Path (place)

/-- Records and what surrounds them. What the last successful call rendered for each slot is history
that no call reads. -/
structure Ledger (ι : Type*) where
  records : ι → Record
  outside : Surroundings
  rendered : ι → OutputFormat → Option ByteArray

namespace Ledger

variable {ι : Type*}

def slot (σ : Ledger ι) (i : ι) (format : OutputFormat) : Option String :=
  (σ.records i).file format

def owner (σ : Ledger ι) (i : ι) : Option Nat × Nat := ((σ.records i).reportId, (σ.records i).id)

/-- What a call may rely on: converter and storage may fail as long as they spoil nothing. -/
structure Admits (root : String) (σ : Ledger ι) (p : Pipeline) (archive : Archive) (i : ι)
    (format : OutputFormat) : Prop where
  tidy : p.HasTidyConverter
  faulty : archive.FaultyIn root
  apart : p.WritesApart root (σ.records i) format σ.outside

/-- A slot that is set names a file of its own record and format, with what was rendered for it. -/
structure Sound (root : String) (σ : Ledger ι) : Prop where
  owners : Function.Injective σ.owner
  slots : ∀ i f path, σ.slot i f = some path →
    ∃ title content, path = Archive.storedPath (σ.owner i).1 (σ.owner i).2 title f ∧
      σ.rendered i f = some content ∧ σ.outside.files.read (Path.join root path) = .ok content

variable {root : String} {σ σ' : Ledger ι} {p : Pipeline} {archive : Archive} {i : ι}
  {format : OutputFormat}

theorem Sound.ofSame (h : σ.Sound root) (howner : σ'.owner = σ.owner) (hslot : σ'.slot = σ.slot)
    (hrendered : σ'.rendered = σ.rendered) (hread : ∀ reportId owner title format content,
      σ.outside.files.read (Path.join root (Archive.storedPath reportId owner title format)) =
          .ok content →
        σ'.outside.files.read (Path.join root (Archive.storedPath reportId owner title format)) =
          .ok content) : σ'.Sound root := by
  refine ⟨howner ▸ h.owners, fun i f path hpath => ?_⟩
  rw [hslot] at hpath
  obtain ⟨title, content, hstored, hcontent, hfound⟩ := h.slots i f path hpath
  rw [hstored] at hfound ⊢
  rw [howner, hrendered]
  exact ⟨title, content, rfl, hcontent, hread _ _ _ _ _ hfound⟩

theorem Sound.place_ne (h : σ.Sound root) {j : ι} {g : OutputFormat} {path : String}
    (hslot : σ.slot j g = some path) (hne : (j, g) ≠ (i, format)) (title : String) :
    place (Path.join root path) ≠
      place (Path.join root (Archive.storedPath (σ.owner i).1 (σ.owner i).2 title format)) := by
  obtain ⟨title', content, hstored, -, -⟩ := h.slots j g path hslot
  rw [hstored]
  intro hplace
  obtain ⟨hreport, howner, hformat⟩ := Archive.eq_of_place_stored_eq hplace
  have hj : j = i := h.owners (Prod.ext hreport howner)
  exact hne (by rw [hj, hformat])

variable [DecidableEq ι]

def generate (σ : Ledger ι) (p : Pipeline) (archive : Archive) (i : ι) (format : OutputFormat) :
    Except ReportError StoredFile × Ledger ι :=
  let r := σ.records i
  let (result, r', s) := p.generate archive r format σ.outside
  let rendered :=
    match result with
    | .error _ => σ.rendered
    | .ok _ => Function.update σ.rendered i
        (Function.update (σ.rendered i) format (p.rendering r.definition format.name σ.outside))
  (result, ⟨Function.update σ.records i r', s, rendered⟩)

def after (σ : Ledger ι) (p : Pipeline) (archive : Archive) (i : ι) (format : OutputFormat) :
    Ledger ι :=
  (σ.generate p archive i format).2

def edit (σ : Ledger ι) (i : ι) (d : Definition) : Ledger ι :=
  { σ with records := Function.update σ.records i { σ.records i with definition := d } }

inductive Step (root : String) : Ledger ι → Ledger ι → Prop
  | edit (σ : Ledger ι) (i : ι) (d : Definition) : Step root σ (σ.edit i d)
  /-- Time goes by, and files change, but not those where reports are stored. -/
  | elapse (σ : Ledger ι) (s : Surroundings) (kept : ∀ reportId owner title format content,
      σ.outside.files.read (Path.join root (Archive.storedPath reportId owner title format)) =
          .ok content →
        s.files.read (Path.join root (Archive.storedPath reportId owner title format)) =
          .ok content) :
      Step root σ { σ with outside := s }
  | generate (σ : Ledger ι) (p : Pipeline) (archive : Archive) (i : ι) (format : OutputFormat)
      (admitted : σ.Admits root p archive i format) :
      Step root σ (σ.after p archive i format)

/-! ### One call -/

theorem generate_error (h : σ.Admits root p archive i format) {e : ReportError}
    (hgenerate : σ.generate p archive i format = (.error e, σ')) :
    σ'.records = σ.records ∧ σ'.rendered = σ.rendered ∧
      σ.outside.files.Grows σ'.outside.files := by
  unfold generate at hgenerate
  dsimp only at hgenerate
  rcases hcall : p.generate archive (σ.records i) format σ.outside with ⟨result, r', s⟩
  rw [hcall] at hgenerate
  cases hgenerate
  obtain ⟨rfl, hgrows⟩ := Pipeline.generate_error h.tidy h.faulty hcall
  exact ⟨Function.update_eq_self i σ.records, rfl, hgrows⟩

theorem generate_ok (h : σ.Admits root p archive i format) {stored : StoredFile}
    (hgenerate : σ.generate p archive i format = (.ok stored, σ')) :
    (∃ title, stored.path = Archive.storedPath (σ.owner i).1 (σ.owner i).2 title format) ∧
      σ'.records = Function.update σ.records i ((σ.records i).setFile format stored.path) ∧
      ∃ content, σ'.rendered = Function.update σ.rendered i
          (Function.update (σ.rendered i) format (some content)) ∧
        σ.outside.files.Stores (Path.join root stored.path) content σ'.outside.files := by
  unfold generate at hgenerate
  dsimp only at hgenerate
  rcases hcall : p.generate archive (σ.records i) format σ.outside with ⟨result, r', s⟩
  rw [hcall] at hgenerate
  cases hgenerate
  obtain ⟨hpath, rfl, content, hrendered, hstores⟩ :=
    Pipeline.generate_ok h.tidy h.faulty h.apart hcall
  rw [hrendered]
  exact ⟨⟨_, hpath⟩, rfl, content, rfl, hstores⟩

theorem owner_of_update {r : Record} (hrecords : σ'.records = Function.update σ.records i r) :
    σ'.owner = Function.update σ.owner i (r.reportId, r.id) := by
  funext j
  unfold owner
  rw [hrecords]
  by_cases hj : j = i
  · rw [hj, Function.update_self, Function.update_self]
  · rw [Function.update_of_ne hj, Function.update_of_ne hj]

theorem slot_of_update {r : Record} (hrecords : σ'.records = Function.update σ.records i r) :
    σ'.slot = Function.update σ.slot i r.file := by
  funext j
  unfold slot
  rw [hrecords]
  by_cases hj : j = i
  · rw [hj, Function.update_self, Function.update_self]
  · rw [Function.update_of_ne hj, Function.update_of_ne hj]

theorem slot_of_error (h : σ.Admits root p archive i format) {e : ReportError}
    (hgenerate : σ.generate p archive i format = (.error e, σ')) : σ'.slot = σ.slot := by
  unfold slot
  rw [(generate_error h hgenerate).1]

theorem slot_of_ok (h : σ.Admits root p archive i format) {stored : StoredFile}
    (hgenerate : σ.generate p archive i format = (.ok stored, σ')) :
    σ'.slot i format = some stored.path ∧
      ∀ j g, (j, g) ≠ (i, format) → σ'.slot j g = σ.slot j g := by
  obtain ⟨-, hrecords, -⟩ := generate_ok h hgenerate
  rw [slot_of_update hrecords]
  refine ⟨by rw [Function.update_self, Record.file_setFile_self], fun j g hne => ?_⟩
  by_cases hj : j = i
  · subst hj
    rw [Function.update_self, Record.file_setFile_of_ne _ _ fun hg => hne (by rw [hg])]
    rfl
  · rw [Function.update_of_ne hj]

/-! ### Runs -/

theorem Sound.ofEdit (h : σ.Sound root) (i : ι) (d : Definition) : (σ.edit i d).Sound root := by
  have hrecords : (σ.edit i d).records =
      Function.update σ.records i { σ.records i with definition := d } := rfl
  have howner : (σ.edit i d).owner = σ.owner :=
    (owner_of_update hrecords).trans (Function.update_eq_self i σ.owner)
  have hslot : (σ.edit i d).slot = σ.slot := by
    have hfile : ({ σ.records i with definition := d } : Record).file = σ.slot i := by
      funext f
      cases f <;> rfl
    rw [slot_of_update hrecords, hfile, Function.update_eq_self]
  exact h.ofSame howner hslot rfl fun _ _ _ _ _ hread => hread

theorem Sound.ofError (h : σ.Sound root) (hadmits : σ.Admits root p archive i format)
    {e : ReportError} (hgenerate : σ.generate p archive i format = (.error e, σ')) :
    σ'.Sound root := by
  obtain ⟨hrecords, hrendered, hgrows⟩ := generate_error hadmits hgenerate
  have howner : σ'.owner = σ.owner := by
    unfold owner
    rw [hrecords]
  exact h.ofSame howner (slot_of_error hadmits hgenerate) hrendered
    fun _ _ _ _ _ hread => hgrows.read hread

theorem Sound.ofOk (h : σ.Sound root) (hadmits : σ.Admits root p archive i format)
    {stored : StoredFile} (hgenerate : σ.generate p archive i format = (.ok stored, σ')) :
    σ'.Sound root := by
  obtain ⟨⟨title, htitle⟩, hrecords, content, hrendered, hstores⟩ := generate_ok hadmits hgenerate
  obtain ⟨hown, hothers⟩ := slot_of_ok hadmits hgenerate
  have howner : σ'.owner = σ.owner := by
    rw [owner_of_update hrecords, Record.reportId_setFile, Record.id_setFile]
    exact Function.update_eq_self i σ.owner
  refine ⟨howner ▸ h.owners, fun j g path hslot => ?_⟩
  rw [howner, hrendered]
  by_cases hjg : (j, g) = (i, format)
  · -- the slot of the call: what is rendered now has just been stored
    obtain ⟨rfl, rfl⟩ := Prod.mk.inj hjg
    rw [hown] at hslot
    cases hslot
    rw [Function.update_self, Function.update_self]
    exact ⟨title, content, htitle, rfl, hstores.reads⟩
  · -- any other slot names another place, where nothing has changed
    rw [hothers j g hjg] at hslot
    have hne := h.place_ne hslot hjg title
    rw [← htitle] at hne
    obtain ⟨title', found, hpath, hfound, hread⟩ := h.slots j g path hslot
    refine ⟨title', found, hpath, ?_, hstores.read_of_ne hne hread⟩
    by_cases hj : j = i
    · subst hj
      rw [Function.update_self, Function.update_of_ne fun hg => hjg (by rw [hg]), hfound]
    · rw [Function.update_of_ne hj, hfound]

theorem Sound.ofStep (h : σ.Sound root) (hstep : Step root σ σ') : σ'.Sound root := by
  cases hstep with
  | edit i d => exact h.ofEdit i d
  | elapse s kept => exact h.ofSame rfl rfl rfl kept
  | generate p archive i format admitted =>
    unfold after
    rcases hgenerate : σ.generate p archive i format with ⟨result, σ'⟩
    cases result with
    | error e => exact h.ofError admitted hgenerate
    | ok stored => exact h.ofOk admitted hgenerate

theorem sound_of_run {σ₀ : Ledger ι} (howners : Function.Injective σ₀.owner)
    (hunset : ∀ i f, σ₀.slot i f = none) (hrun : Relation.ReflTransGen (Step root) σ₀ σ) :
    σ.Sound root := by
  induction hrun with
  | refl =>
    refine ⟨howners, fun i f path hslot => ?_⟩
    rw [hunset] at hslot
    cases hslot
  | tail hrun hstep ih => exact ih.ofStep hstep

/-- After any run of calls and edits, each slot that is set names a file that holds what was rendered
last for its record and format. A further call that fails changes no slot; one that succeeds changes
its own slot only. It writes to no file that another slot names. -/
theorem slots_of_run {σ₀ : Ledger ι} (howners : Function.Injective σ₀.owner)
    (hunset : ∀ i f, σ₀.slot i f = none) (hrun : Relation.ReflTransGen (Step root) σ₀ σ) :
    (∀ i f path, σ.slot i f = some path → ∃ content, σ.rendered i f = some content ∧
        σ.outside.files.read (Path.join root path) = .ok content) ∧
      ∀ p archive i format result σ', σ.Admits root p archive i format →
        σ.generate p archive i format = (result, σ') →
          (∀ e, result = .error e → σ'.slot = σ.slot) ∧
          (∀ stored, result = .ok stored → σ'.slot i format = some stored.path ∧
            ∀ j g, (j, g) ≠ (i, format) → σ'.slot j g = σ.slot j g) ∧
          ∀ j g path, (j, g) ≠ (i, format) → σ.slot j g = some path →
            σ'.outside.files.read (Path.join root path) =
                σ.outside.files.read (Path.join root path) ∧
              ∀ stored, result = .ok stored →
                place (Path.join root path) ≠ place (Path.join root stored.path) := by
  have hsound := sound_of_run howners hunset hrun
  refine ⟨fun i f path hslot => ?_, fun p archive i format result σ' hadmits hgenerate => ?_⟩
  · obtain ⟨title, content, -, hcontent, hread⟩ := hsound.slots i f path hslot
    exact ⟨content, hcontent, hread⟩
  · refine ⟨?_, ?_, fun j g path hne hslot => ?_⟩
    · rintro e rfl
      exact slot_of_error hadmits hgenerate
    · rintro stored rfl
      exact slot_of_ok hadmits hgenerate
    · obtain ⟨title', found, -, -, hread⟩ := hsound.slots j g path hslot
      rw [hread]
      cases result with
      | error e => exact ⟨(generate_error hadmits hgenerate).2.2.read hread, nofun⟩
      | ok stored =>
        obtain ⟨⟨title, htitle⟩, -, content, -, hstores⟩ := generate_ok hadmits hgenerate
        have hplace := hsound.place_ne hslot hne title
        rw [← htitle] at hplace
        refine ⟨hstores.read_of_ne hplace hread, ?_⟩
        rintro stored' h
        cases h
        exact hplace

def twins : Ledger Bool where
  records second := { id := if second then 2 else 1, definition := { title := "Books" } }
  outside := { files := ⟨.ofList [(["tmp"], .directory)]⟩, client := .new, now := ⟨2024, 2, 29, 12, 0⟩ }
  rendered _ _ := none

def twinsMade : Ledger Bool :=
  (twins.after .copying (.inDirectory "/assets") false .csv).after .copying
    (.inDirectory "/assets") true .csv

theorem admits_copying {κ : Type*} (σ : Ledger κ) (i : κ) (format : OutputFormat) :
    σ.Admits "/assets" .copying (.inDirectory "/assets") i format :=
  ⟨Pipeline.hasTidyConverter_copying, Archive.faultyIn_inDirectory "/assets",
    Pipeline.writesApart_of_tempDir Pipeline.hasTidyConverter_copying (by decide)⟩

theorem slots_twinsMade :
    ∃ path content, twinsMade.slot false .csv = some path ∧
      twinsMade.rendered false .csv = some content ∧
      twinsMade.outside.files.read (Path.join "/assets" path) = .ok content := by
  have howners : Function.Injective twins.owner := by
    intro i j h
    cases i <;> cases j <;> first | rfl | exact absurd h (by decide)
  have hunset (i : Bool) (f : OutputFormat) : twins.slot i f = none := by cases f <;> rfl
  have hrun : Relation.ReflTransGen (Step "/assets") twins twinsMade :=
    .tail (.single (.generate _ _ _ _ _ (admits_copying _ _ _)))
      (.generate _ _ _ _ _ (admits_copying _ _ _))
  have hset : (twinsMade.slot false .csv).isSome := by decide +kernel
  obtain ⟨path, hpath⟩ := Option.isSome_iff_exists.mp hset
  obtain ⟨content, hcontent, hread⟩ :=
    (slots_of_run howners hunset hrun).1 false .csv path hpath
  exact ⟨path, content, hpath, hcontent, hread⟩

end Ledger

end Reporting
