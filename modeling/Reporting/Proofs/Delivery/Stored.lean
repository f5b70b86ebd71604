import Reporting.Proofs.Archive.Directory
import Reporting.Proofs.Delivery.Outcome

/-! What one call does to stored reports. If it fails, the record is as it was and nothing is gone; if
not, one file holds what was rendered, and all that stood elsewhere still stands. -/

namespace Reporting

open Reporting.Path (place)

namespace Tree

variable {t t' : Tree} {path : String} {content : ByteArray}

structure Stores (t : Tree) (path : String) (content : ByteArray) (t' : Tree) : Prop where
  directories : t.KeepsDirectories t'
  reads : t'.read path = .ok content
  rest : ∀ l, l ≠ place path → ∀ x, t.entryAt l = some x → t'.entryAt l = some x

theorem Writes.stores (h : t.Writes path content t') : t.Stores path content t' :=
  ⟨h.keepsDirectories, h.read, fun l hl _ hx => (h.rest l hl).trans hx⟩

theorem Stores.afterGrows {t₀ : Tree} (hgrows : t₀.Grows t) (h : t.Stores path content t') :
    t₀.Stores path content t' :=
  ⟨hgrows.keepsDirectories.trans h.directories, h.reads,
    fun l hl x hx => h.rest l hl x (hgrows l x hx)⟩

theorem Stores.read_of_ne (h : t.Stores path content t') {other : String} {found : ByteArray}
    (hne : place other ≠ place path) (hread : t.read other = .ok found) :
    t'.read other = .ok found :=
  h.directories.read (h.rest _ hne) hread

theorem Adds.grows_remove {directory temp : String} {found : ByteArray} {t₁ t₂ : Tree}
    (hadds : t.Adds directory temp found t₁) (hgrows : t₁.Grows t₂) : t.Grows (t₂.remove temp) := by
  intro l x hx
  rw [entryAt_remove_of_ne t₂ (hadds.ne_of_entryAt hx)]
  exact hgrows l x (hadds.grows l x hx)

theorem Adds.stores_remove {directory temp : String} {found : ByteArray} {t₁ t₂ : Tree}
    (hadds : t.Adds directory temp found t₁) (hstores : t₁.Stores path content t₂)
    (hne : place temp ≠ place path) : t.Stores path content (t₂.remove temp) := by
  have hremoved := keepsDirectories_remove t₂ temp
  refine ⟨?_, ?_, ?_⟩
  · exact hadds.grows.keepsDirectories.trans (hstores.directories.trans hremoved)
  · refine hremoved.read (fun x hx => ?_) hstores.reads
    rw [entryAt_remove_of_ne t₂ hne.symm]
    exact hx
  · intro l hl x hx
    rw [entryAt_remove_of_ne t₂ (hadds.ne_of_entryAt hx)]
    exact hstores.rest l hl x (hadds.grows l x hx)

end Tree

namespace Archive

variable {root : String} {a : Archive} {t t' : Tree}

/-- Storage in a directory where any operation may fail instead, as long as nothing is gone then. -/
structure FaultyIn (root : String) (a : Archive) : Prop where
  folder : ∀ reportId owner t, a.folder reportId owner t = makeFolder root reportId owner t ∨
    ∃ e t', a.folder reportId owner t = (.error e, t') ∧ t.Grows t'
  store : ∀ folder name source t, a.store folder name source t = storeFile root folder name source t ∨
    ∃ e t', a.store folder name source t = (.error e, t') ∧ t.Grows t'

theorem faultyIn_inDirectory (root : String) : (inDirectory root).FaultyIn root :=
  ⟨fun _ _ _ => .inl (by rw [inDirectory_folder]), fun _ _ _ _ => .inl (by rw [inDirectory_store])⟩

theorem FaultyIn.grows_folder (h : a.FaultyIn root) {reportId : Option Nat} {owner : Nat}
    {result : Except StorageError String} (hfolder : a.folder reportId owner t = (result, t')) :
    t.Grows t' := by
  rcases h.folder reportId owner t with hmade | ⟨e, t₁, hfailed, hgrows⟩
  · exact grows_makeFolder (hmade.symm.trans hfolder)
  · rw [hfailed] at hfolder
    cases hfolder
    exact hgrows

theorem FaultyIn.folder_eq (h : a.FaultyIn root) {reportId : Option Nat} {owner : Nat}
    {folder : String} (hfolder : a.folder reportId owner t = (.ok folder, t')) :
    folder = folderPath reportId owner := by
  rcases h.folder reportId owner t with hmade | ⟨e, t₁, hfailed, -⟩
  · exact folder_eq_of_makeFolder (hmade.symm.trans hfolder)
  · rw [hfailed] at hfolder
    cases hfolder

theorem FaultyIn.grows_store (h : a.FaultyIn root) {folder name source : String} {e : StorageError}
    (hstore : a.store folder name source t = (.error e, t')) : t.Grows t' := by
  rcases h.store folder name source t with hmade | ⟨e', t₁, hfailed, hgrows⟩
  · exact grows_storeFile (hmade.symm.trans hstore)
  · rw [hfailed] at hstore
    cases hstore
    exact hgrows

theorem FaultyIn.stores (h : a.FaultyIn root) {folder name source : String} {content : ByteArray}
    {stored : StoredFile} (hsource : t.read source = .ok content)
    (hstore : a.store folder name source t = (.ok stored, t')) :
    stored.path = Path.join folder name ∧
      t.Stores (Path.join root (Path.join folder name)) content t' := by
  rcases h.store folder name source t with hmade | ⟨e, t₁, hfailed, -⟩
  · have hway := grows_wayTo root folder name t
    rcases storeFile_cases (hmade.symm.trans hstore) with
      ⟨⟨e, he⟩, -⟩ | ⟨found, hread, hok, hwrites⟩
    · cases he
    · rw [hway.read hsource] at hread
      cases hread
      cases hok
      exact ⟨rfl, hwrites.stores.afterGrows hway⟩
  · rw [hfailed] at hstore
    cases hstore

end Archive

namespace Pipeline

variable {p : Pipeline} {archive : Archive} {root : String} {r r' : Record} {format : OutputFormat}
  {s s' : Surroundings}

/-- The temporary file of a call is not the very file that the report is to be stored in. -/
def WritesApart (p : Pipeline) (root : String) (r : Record) (format : OutputFormat)
    (s : Surroundings) : Prop :=
  ∀ path s₁, p.create r.definition format.name .store s = (.ok (.file path), s₁) →
    place path ≠
      place (Path.join root (Archive.storedPath r.reportId r.id r.definition.title format))

theorem writesApart_of_tempDir (hp : p.HasTidyConverter) (h : ¬place root <+: place p.tempDir) :
    p.WritesApart root r format s := by
  intro path s₁ hcreate hplace
  rcases create_store hp hcreate with ⟨path', content, hpath, hwritten⟩ | ⟨hne, -⟩
  · cases hpath
    obtain ⟨name, hname⟩ := hwritten.adds.inside
    -- the directory of both would be the folder of the record, which is below the root
    rw [Archive.place_stored, hname] at hplace
    have hparent := congrArg List.dropLast hplace
    rw [List.dropLast_concat, List.dropLast_append_of_ne_nil (List.cons_ne_nil _ _)] at hparent
    exact h ⟨_, hparent.symm⟩
  · exact hne path rfl

theorem generate_error (hp : p.HasTidyConverter) (harchive : archive.FaultyIn root)
    {e : ReportError} (h : p.generate archive r format s = (.error e, r', s')) :
    r' = r ∧ s.files.Grows s'.files := by
  have hending := ending_generate hp archive r format s
  rw [h] at hending
  cases hending with
  | unwritten created same => exact ⟨rfl, fun l x hx => (congrFun same l).trans hx⟩
  | stranded written made =>
    exact ⟨rfl, written.adds.grows.trans (harchive.grows_folder made)⟩
  | refused written made copied =>
    have hgrows := (harchive.grows_folder made).trans (harchive.grows_store copied)
    exact ⟨rfl, written.adds.grows_remove hgrows⟩

theorem generate_ok (hp : p.HasTidyConverter) (harchive : archive.FaultyIn root)
    (hapart : p.WritesApart root r format s) {stored : StoredFile}
    (h : p.generate archive r format s = (.ok stored, r', s')) :
    stored.path = Archive.storedPath r.reportId r.id r.definition.title format ∧
      r' = r.setFile format stored.path ∧
      ∃ content, p.rendering r.definition format.name s = some content ∧
        s.files.Stores (Path.join root stored.path) content s'.files := by
  have hending := ending_generate hp archive r format s
  rw [h] at hending
  cases hending with
  | @kept path content s₁ folder t₁ stored t₂ written made copied =>
    -- the temporary file is still there to be copied when the folder has been made
    have hgrows := harchive.grows_folder made
    have hsource := hgrows.read written.adds.read
    obtain ⟨hpath, hstores⟩ := harchive.stores hsource copied
    rw [harchive.folder_eq made] at hpath hstores
    refine ⟨hpath, rfl, content, written.rendered, ?_⟩
    rw [hpath]
    exact written.adds.stores_remove (hstores.afterGrows hgrows) (hapart path s₁ written.created)

end Pipeline

end Reporting
