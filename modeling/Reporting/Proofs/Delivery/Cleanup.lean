import Reporting.Proofs.Archive.Directory
import Reporting.Proofs.Delivery.Outcome

/-! What a call leaves in the directory for temporary files. The report written there goes again once
it has been copied or could not be, but it stays if there is no folder to copy it to. -/

namespace Reporting

open Reporting.Path (place)

namespace Tree

def listing (t : Tree) (directory name : String) : Option FileEntry :=
  t.entryAt (place directory ++ [name])

structure Spared (directory : String) (t t' : Tree) : Prop where
  directories : t.KeepsDirectories t'
  listing : t'.listing directory = t.listing directory

theorem Spared.trans {directory : String} {t t' t'' : Tree} (h : Spared directory t t')
    (h' : Spared directory t' t'') : Spared directory t t'' :=
  ⟨h.directories.trans h'.directories, h'.listing.trans h.listing⟩

theorem spared_makeDirectories {directory path : String} (t : Tree)
    (h : ∀ name, ¬Path.Passes path (place directory ++ [name])) :
    Spared directory t (t.makeDirectories path).2 := by
  refine ⟨(grows_makeDirectories t path).keepsDirectories, ?_⟩
  funext name
  rcases entryAt_makeDirectories t path (place directory ++ [name]) with hsame | ⟨-, -, hpasses⟩
  · exact hsame
  · exact absurd hpasses (h name)

theorem Writes.spared {directory path : String} {content : ByteArray} {t t' : Tree}
    (hwrites : t.Writes path content t') (h : ∀ name, place path ≠ place directory ++ [name]) :
    Spared directory t t' :=
  ⟨hwrites.keepsDirectories, funext fun name => hwrites.rest _ (h name).symm⟩

theorem listing_remove {directory path : String} {content : ByteArray} {t t₁ t₂ : Tree}
    (hadds : t.Adds directory path content t₁) (hspared : Spared directory t₁ t₂) :
    (t₂.remove path).listing directory = t.listing directory := by
  obtain ⟨own, hown⟩ := hadds.inside
  -- nobody has touched the file meanwhile, so it is a file that is removed
  have hleads := hspared.directories.locate hadds.leads
  have hholds : t₂.entryAt (place path) = some (.file content) := by
    rw [hown]
    refine (congrFun hspared.listing own).trans ?_
    rw [Tree.listing, ← hown, hadds.holds]
  funext name
  show (t₂.remove path).entryAt _ = t.entryAt _
  by_cases hname : place directory ++ [name] = place path
  · rw [hname, entryAt_remove_self hleads hholds, hadds.fresh]
  · rw [entryAt_remove_of_ne t₂ hname, ← hadds.rest _ hname]
    exact congrFun hspared.listing name

theorem listing_of_adds {path : String} {content : ByteArray} {t t₁ t₂ : Tree} {directory : String}
    (hadds : t.Adds directory path content t₁) (hspared : Spared directory t₁ t₂) :
    ∃ name, t.listing directory name = none ∧
      t₂.listing directory = Function.update (t.listing directory) name (some (.file content)) := by
  obtain ⟨name, hname⟩ := hadds.inside
  refine ⟨name, ?_, hspared.listing.trans ?_⟩
  · rw [listing, ← hname, hadds.fresh]
  · funext other
    by_cases hother : other = name
    · rw [hother, Function.update_self, listing, ← hname, hadds.holds]
    · rw [Function.update_of_ne hother]
      refine hadds.rest _ fun hplace => hother ?_
      exact List.singleton_inj.mp (List.append_cancel_left (hplace.trans hname))

end Tree

namespace Archive

/-- Making the folder of a record and storing its reports there leaves a directory alone. -/
structure Spares (a : Archive) (directory : String) : Prop where
  folder : ∀ {reportId owner t result t'}, a.folder reportId owner t = (result, t') →
    Tree.Spared directory t t'
  store : ∀ {reportId owner t folder t₁}, a.folder reportId owner t = (.ok folder, t₁) →
    ∀ {title format source result t₂},
      a.store folder (StoredName.ofTitle title format) source t₁ = (result, t₂) →
        Tree.Spared directory t₁ t₂

theorem spares_inDirectory {root directory : String}
    (h : ∀ reportId owner title format name,
      ¬Path.Passes (Path.join root (storedPath reportId owner title format))
        (place directory ++ [name])) :
    (inDirectory root).Spares directory := by
  constructor
  · intro reportId owner t result t' hfolder
    rw [inDirectory_folder] at hfolder
    rw [(makeFolder_cases hfolder).1]
    exact Tree.spared_makeDirectories t fun name hpasses =>
      h reportId owner "" .html name (passes_of_folder hpasses "" .html)
  · intro reportId owner t folder t₁ hfolder title format source result t₂ hstore
    rw [inDirectory_folder] at hfolder
    rw [inDirectory_store, folder_eq_of_makeFolder hfolder] at hstore
    -- the folder is made once more before the copy, along the same way
    have hway : Tree.Spared directory t₁
        (wayTo root (folderPath reportId owner) (StoredName.ofTitle title format) t₁) := by
      refine Tree.spared_makeDirectories t₁ fun name hpasses => h reportId owner title format name ?_
      obtain ⟨ns, hns, hl⟩ := hpasses
      have hnames := names_parent_storedPath root reportId owner title format
      rw [storedPath] at hnames
      rw [hnames] at hns
      exact passes_of_folder ⟨ns, hns, hl⟩ title format
    rcases storeFile_cases hstore with ⟨-, hsame⟩ | ⟨content, -, -, hwrites⟩
    · rcases hsame with hsame | hsame
      · rw [hsame]
        exact ⟨.refl t₁, rfl⟩
      · rw [hsame]
        exact hway
    · refine hway.trans (hwrites.spared fun name hplace => h reportId owner title format name ?_)
      rw [← hplace]
      exact Path.passes_place _

theorem spares_of_apart {root directory : String} (hup : ".." ∉ Path.names root)
    (hbelow : ¬place directory <+: place root) (habove : ¬place root <+: place directory) :
    (inDirectory root).Spares directory := by
  refine spares_inDirectory fun reportId owner title format name hpasses => ?_
  have hway := hpasses.isPrefix (up_not_mem_names_stored hup _ _ _ _)
  rw [place_stored] at hway
  rcases List.prefix_or_prefix_of_prefix ((List.prefix_append _ _).trans hway)
    (List.prefix_append (place root) _) with h | h
  · exact hbelow h
  · exact habove h

end Archive

namespace Pipeline

def Strands (p : Pipeline) (archive : Archive) (r : Record) (format : OutputFormat)
    (s : Surroundings) : Prop :=
  ∃ path s₁ e t, p.create r.definition format.name .store s = (.ok (.file path), s₁) ∧
    archive.folder r.reportId r.id s₁.files = (.error e, t)

variable {p : Pipeline} {archive : Archive} {r : Record} {format : OutputFormat} {s : Surroundings}

theorem not_strands_of_made {path folder : String} {content : ByteArray} {s₁ : Surroundings}
    {t₁ : Tree} (hwritten : p.Written r.definition format s path content s₁)
    (hmade : archive.folder r.reportId r.id s₁.files = (.ok folder, t₁)) :
    ¬p.Strands archive r format s := by
  rintro ⟨path', s₂, e, t, hcreate, hfolder⟩
  have hsame : s₂ = s₁ := (Prod.mk.inj (hcreate.symm.trans hwritten.created)).2
  rw [hsame, hmade] at hfolder
  cases hfolder

theorem listing_of_ending (harchive : archive.Spares p.tempDir)
    {out : Except ReportError StoredFile × Record × Surroundings}
    (h : p.Ending archive r format s out) :
    out.2.2.files.listing p.tempDir = s.files.listing p.tempDir ∧ ¬p.Strands archive r format s ∨
      p.Strands archive r format s ∧ ∃ name content, s.files.listing p.tempDir name = none ∧
        p.rendering r.definition format.name s = some content ∧
        out.2.2.files.listing p.tempDir =
          Function.update (s.files.listing p.tempDir) name (some (.file content)) := by
  cases h with
  | unwritten created same =>
    refine .inl ⟨funext fun name => congrFun same _, ?_⟩
    rintro ⟨path, s₁, -, -, hcreate, -⟩
    exact created path s₁ hcreate
  | @stranded path content s₁ e t written made =>
    obtain ⟨name, hnone, hlisting⟩ := Tree.listing_of_adds written.adds (harchive.folder made)
    exact .inr ⟨⟨path, s₁, e, t, written.created, made⟩, name, content, hnone, written.rendered,
      hlisting⟩
  | refused written made copied =>
    have hspared := (harchive.folder made).trans (harchive.store made copied)
    exact .inl ⟨Tree.listing_remove written.adds hspared, not_strands_of_made written made⟩
  | kept written made copied =>
    have hspared := (harchive.folder made).trans (harchive.store made copied)
    exact .inl ⟨Tree.listing_remove written.adds hspared, not_strands_of_made written made⟩

theorem listing_of_strands (hp : p.HasTidyConverter) (harchive : archive.Spares p.tempDir)
    (h : p.Strands archive r format s) :
    ∃ name content, s.files.listing p.tempDir name = none ∧
      p.rendering r.definition format.name s = some content ∧
      (p.generate archive r format s).2.2.files.listing p.tempDir =
        Function.update (s.files.listing p.tempDir) name (some (.file content)) := by
  have hending := listing_of_ending harchive (ending_generate hp archive r format s)
  exact (hending.resolve_left fun hleft => hleft.2 h).2

theorem listing_ne_of_strands (hp : p.HasTidyConverter) (harchive : archive.Spares p.tempDir)
    (h : p.Strands archive r format s) :
    (p.generate archive r format s).2.2.files.listing p.tempDir ≠ s.files.listing p.tempDir := by
  intro hsame
  obtain ⟨name, content, hnone, -, hlisting⟩ := listing_of_strands hp harchive h
  have hname := congrFun (hlisting.symm.trans hsame) name
  rw [Function.update_self, hnone] at hname
  cases hname

def blocked : Surroundings :=
  { files := ⟨.ofList [(["tmp"], .directory), (["assets"], .file .empty)]⟩
    client := .new
    now := ⟨2024, 2, 29, 12, 0⟩ }

theorem spares_assets : (Archive.inDirectory "/assets").Spares copying.tempDir :=
  Archive.spares_of_apart (by decide) (by decide) (by decide)

theorem makeFolder_blocked {t : Tree} {content : ByteArray}
    (h : t.entryAt ["assets"] = some (.file content)) :
    Archive.makeFolder "/assets" none 1 t =
      (.error (.createFolder "/assets/advanced-reports/preview/1" .notDirectory), t) := by
  have hfull : Path.join "/assets" (Archive.folderPath none 1) =
      "/assets/advanced-reports/preview/1" := by decide +kernel
  have hnames : Path.names "/assets/advanced-reports/preview/1" =
      ["", "assets", "advanced-reports", "preview", "1"] := by decide
  have hmade : t.makeDirectories "/assets/advanced-reports/preview/1" =
      (.error .notDirectory, t) := by
    rw [Tree.makeDirectories, if_neg (by decide), if_neg (by decide), hnames, Tree.makeAlong,
      if_pos (by decide), Tree.makeAlong, if_neg (by decide), if_neg (by decide),
      if_neg (by decide), List.nil_append, h]
  unfold Archive.makeFolder
  dsimp only
  rw [hfull, hmade]

theorem create_blocked (d : Definition) :
    ∃ content, copying.create d OutputFormat.csv.name .store blocked =
      (.ok (.file "/tmp/csv000000.csv"),
        { blocked with files := blocked.files.put ["tmp", "csv000000.csv"] (.file content) }) := by
  have hpath : blocked.files.freshPath "/tmp" "csv" ".csv" = "/tmp/csv000000.csv" := by
    decide +kernel
  have hleads : blocked.files.locate "/tmp/csv000000.csv" = .ok ["tmp", "csv000000.csv"] := by decide
  have hfree : blocked.files.entryAt ["tmp", "csv000000.csv"] = none := rfl
  have hfresh (content : ByteArray) : blocked.files.writeFresh "/tmp" "csv" ".csv" content =
      .ok ("/tmp/csv000000.csv", blocked.files.put ["tmp", "csv000000.csv"] (.file content)) := by
    simp only [Tree.writeFresh, hpath, Tree.write, hleads, hfree]
  have hdelivered (text : String) : copying.deliver text "csv" .store blocked =
      (.ok (.file "/tmp/csv000000.csv"), { blocked with
        files := blocked.files.put ["tmp", "csv000000.csv"] (.file text.toUTF8) }) := by
    have hending : "." ++ "csv" = ".csv" := rfl
    simp only [deliver, hending, copying, hfresh]
  have hrenderer : copying.renderers.get? (renderFormat "csv").1 = some .csv := rfl
  have hconverted : (renderFormat "csv").2 = false := by decide
  cases hsheet : copying.prepare d "csv" blocked.now with
  | error e => cases hsheet
  | ok sheet =>
    refine ⟨(Csv.render sheet).toUTF8, ?_⟩
    simp only [create, hsheet, OutputFormat.name, hrenderer, hconverted, Bool.false_eq_true,
      if_false, hdelivered, Renderer.csv]

theorem strands_blocked (d : Definition) :
    copying.Strands (.inDirectory "/assets") { id := 1, definition := d } .csv blocked := by
  obtain ⟨content, hcreate⟩ := create_blocked d
  have hassets : (blocked.files.put ["tmp", "csv000000.csv"] (.file content)).entryAt ["assets"] =
      some (.file .empty) := by
    rw [Tree.entryAt_put_of_ne _ _ (by decide)]
    rfl
  have hmade := makeFolder_blocked hassets
  rw [← Archive.inDirectory_folder] at hmade
  exact ⟨_, _, _, _, hcreate, hmade⟩

/-- A call leaves the directory for temporary files as it found it, unless the folder of the record
cannot be made for a report already written; then that report stays behind. -/
theorem listing_generate_iff (p : Pipeline) (hp : p.HasTidyConverter) (archive : Archive)
    (harchive : archive.Spares p.tempDir) (r : Record) (format : OutputFormat) (s : Surroundings) :
    ((p.generate archive r format s).2.2.files.listing p.tempDir = s.files.listing p.tempDir ↔
        ¬p.Strands archive r format s) ∧
      (p.Strands archive r format s → ∃ name content, s.files.listing p.tempDir name = none ∧
        p.rendering r.definition format.name s = some content ∧
        (p.generate archive r format s).2.2.files.listing p.tempDir =
          Function.update (s.files.listing p.tempDir) name (some (.file content))) := by
  refine ⟨⟨fun hsame hstrands => ?_, fun hnot => ?_⟩, listing_of_strands hp harchive⟩
  · exact listing_ne_of_strands hp harchive hstrands hsame
  · have hending := listing_of_ending harchive (ending_generate hp archive r format s)
    exact (hending.resolve_right fun h => hnot h.1).1

theorem exists_stranded_file :
    ∃ name content, blocked.files.listing "/tmp" name = none ∧
      copying.rendering {} "csv" blocked = some content ∧
      (copying.generate (.inDirectory "/assets") { id := 1, definition := {} } .csv
        blocked).2.2.files.listing "/tmp" =
          Function.update (blocked.files.listing "/tmp") name (some (.file content)) :=
  (listing_generate_iff copying hasTidyConverter_copying (.inDirectory "/assets") spares_assets
    { id := 1, definition := {} } .csv blocked).2 (strands_blocked {})

/-- A call that fails for want of a folder does not clean up. -/
theorem exists_listing_ne :
    ¬∀ (p : Pipeline) (archive : Archive) (r : Record) (format : OutputFormat) (s : Surroundings),
      p.HasTidyConverter → archive.Spares p.tempDir →
        (p.generate archive r format s).2.2.files.listing p.tempDir =
          s.files.listing p.tempDir := by
  intro h
  exact listing_ne_of_strands hasTidyConverter_copying spares_assets (strands_blocked {})
    (h copying _ _ _ _ hasTidyConverter_copying spares_assets)

end Pipeline

end Reporting
