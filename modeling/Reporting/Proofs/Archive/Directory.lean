import Reporting.Proofs.Archive.Places
import Reporting.Proofs.Files.Tree

/-! What storing in a directory does to the files. A report is copied to one place, the same whenever
it is stored again, and apart from that only directories on the way there are made. -/

namespace Reporting

open Reporting.Path (place placeFrom)

def Path.Passes (path : String) (l : Location) : Prop :=
  ∃ ns, ns <+: names path ∧ l = placeFrom [] ns

theorem Path.passes_place (path : String) : Passes path (place path) :=
  ⟨names path, List.prefix_rfl, rfl⟩

theorem Path.Passes.isPrefix {path : String} {l : Location} (h : Passes path l)
    (hup : ".." ∉ names path) : l <+: place path := by
  obtain ⟨ns, ⟨ms, hms⟩, rfl⟩ := h
  rw [place, ← hms, placeFrom_append]
  exact isPrefix_placeFrom (fun h => hup (hms ▸ List.mem_append_right ns h)) _

namespace Archive

variable {root folder name source : String} {t t' : Tree}

theorem inDirectory_folder (root : String) : (inDirectory root).folder = makeFolder root := by
  rw [inDirectory]

theorem inDirectory_store (root : String) : (inDirectory root).store = storeFile root := by
  rw [inDirectory]

theorem makeFolder_cases {reportId : Option Nat} {owner : Nat} {result : Except StorageError String}
    (h : makeFolder root reportId owner t = (result, t')) :
    t' = (t.makeDirectories (Path.join root (folderPath reportId owner))).2 ∧
      ((∃ e, result = .error e) ∨ result = .ok (folderPath reportId owner)) := by
  unfold makeFolder at h
  dsimp only at h
  split at h
  · rename_i hmade
    cases h
    exact ⟨by rw [hmade], .inr rfl⟩
  · rename_i hmade
    cases h
    exact ⟨by rw [hmade], .inl ⟨_, rfl⟩⟩

theorem folder_eq_of_makeFolder {reportId : Option Nat} {owner : Nat}
    (h : makeFolder root reportId owner t = (.ok folder, t')) :
    folder = folderPath reportId owner := by
  rcases (makeFolder_cases h).2 with ⟨e, he⟩ | hok
  · cases he
  · exact Except.ok.inj hok

def wayTo (root folder name : String) (t : Tree) : Tree :=
  (t.makeDirectories (Path.parent (Path.join root (Path.join folder name)))).2

theorem storeFile_cases {result : Except StorageError StoredFile}
    (h : storeFile root folder name source t = (result, t')) :
    ((∃ e, result = .error e) ∧ (t' = t ∨ t' = wayTo root folder name t)) ∨
      ∃ content, (wayTo root folder name t).read source = .ok content ∧
        result = .ok ⟨Path.join folder name, Path.join root (Path.join folder name), content.size⟩ ∧
        (wayTo root folder name t).Writes (Path.join root (Path.join folder name)) content t' := by
  unfold storeFile at h
  split_ifs at h with hsource
  · cases h
    exact .inl ⟨⟨_, rfl⟩, .inl rfl⟩
  · dsimp only at h
    unfold wayTo
    split at h
    · rename_i hmade
      cases h
      exact .inl ⟨⟨_, rfl⟩, .inr (by rw [hmade])⟩
    · rename_i hmade
      rw [hmade]
      split at h
      · cases h
        exact .inl ⟨⟨_, rfl⟩, .inr rfl⟩
      · rename_i hcopy
        cases h
        obtain ⟨content, hread, rfl, hwrites⟩ := Tree.writes_of_copy hcopy
        exact .inr ⟨content, hread, rfl, hwrites⟩

theorem grows_makeFolder {reportId : Option Nat} {owner : Nat} {result : Except StorageError String}
    (h : makeFolder root reportId owner t = (result, t')) : t.Grows t' := by
  rw [(makeFolder_cases h).1]
  exact Tree.grows_makeDirectories t _

theorem grows_wayTo (root folder name : String) (t : Tree) : t.Grows (wayTo root folder name t) :=
  Tree.grows_makeDirectories t _

theorem grows_storeFile {e : StorageError}
    (h : storeFile root folder name source t = (.error e, t')) : t.Grows t' := by
  rcases storeFile_cases h with ⟨-, hsame⟩ | ⟨content, -, hok, -⟩
  · rcases hsame with hsame | hsame
    · rw [hsame]
      exact .refl t
    · rw [hsame]
      exact grows_wayTo root folder name t
  · cases hok

theorem names_join_storedPath (root : String) (reportId : Option Nat) (owner : Nat) (title : String)
    (format : OutputFormat) :
    Path.names (Path.join root (storedPath reportId owner title format)) =
      Path.names (Path.join root (folderPath reportId owner)) ++
        [StoredName.ofTitle title format] := by
  rw [Path.names_join _ (isAbsolute_storedPath _ _ _ _), Path.names_join _ (isAbsolute_folderPath _ _),
    names_storedPath, names_folderPath, List.append_assoc]
  rfl

theorem passes_of_folder {reportId : Option Nat} {owner : Nat} {l : Location}
    (h : Path.Passes (Path.join root (folderPath reportId owner)) l) (title : String)
    (format : OutputFormat) :
    Path.Passes (Path.join root (storedPath reportId owner title format)) l := by
  obtain ⟨ns, hns, hl⟩ := h
  exact ⟨ns, names_join_storedPath root _ _ _ _ ▸ hns.trans (List.prefix_append _ _), hl⟩

theorem names_parent_storedPath (root : String) (reportId : Option Nat) (owner : Nat)
    (title : String) (format : OutputFormat) :
    Path.names (Path.parent (Path.join root (storedPath reportId owner title format))) =
      Path.names (Path.join root (folderPath reportId owner)) := by
  have hfolder : Path.names (Path.join root (folderPath reportId owner)) =
      (Path.base root ++ [reportsFolder, reportFolder reportId]) ++ [Text.ofNat owner] := by
    rw [Path.names_join _ (isAbsolute_folderPath _ _), names_folderPath, List.append_assoc]
    rfl
  rw [hfolder]
  refine Path.names_parent ?_ (isPlain_ofNat owner).notIdle
    (StoredName.isPlain_ofTitle title format).notIdle
  rw [names_join_storedPath, hfolder]

end Archive

end Reporting
