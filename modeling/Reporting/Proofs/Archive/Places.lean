import Reporting.Archive
import Reporting.Proofs.Files.Path
import Reporting.Proofs.Text.Decimal

/-! Where stored reports stand. Below the root the names are plain, and they tell the report, the
owner and the format, so no two of these share a place. -/

namespace Reporting

open Reporting.Path (IsPlain place placeFrom)

namespace StoredName

theorem isSafe_of_mem_stem {title : String} {c : Char} (hc : c ∈ stem title) : isSafe c = true := by
  unfold stem at hc
  split at hc
  · have hall : "report".toList.all isSafe = true := by decide
    exact List.all_eq_true.mp hall c hc
  · rename_i hkept
    exact (List.mem_filter.mp hc).2

theorem toList_ofTitle (title : String) (format : OutputFormat) :
    (ofTitle title format).toList = stem title ++ '.' :: format.name.toList :=
  String.toList_ofList

theorem isPlain_ofTitle (title : String) (format : OutputFormat) :
    IsPlain (ofTitle title format) := by
  have hname : '/' ∉ format.name.toList := by cases format <;> decide
  have hletter : ∃ c ∈ format.name.toList, c ≠ '.' := by
    cases format with
    | html => exact ⟨'h', by decide, by decide⟩
    | csv => exact ⟨'c', by decide, by decide⟩
    | pdf => exact ⟨'p', by decide, by decide⟩
  obtain ⟨c, hc, hdot⟩ := hletter
  refine .ofMem (c := c) ?_ hdot ?_
  · rw [toList_ofTitle]
    exact List.mem_append_right _ (List.mem_cons_of_mem _ hc)
  · rw [toList_ofTitle, List.mem_append, List.mem_cons, not_or, not_or]
    exact ⟨fun h => absurd (isSafe_of_mem_stem h) (by decide), by decide, hname⟩

theorem format_eq_of_ofTitle_eq {title title' : String} {format format' : OutputFormat}
    (h : ofTitle title format = ofTitle title' format') : format = format' := by
  have hlast (title : String) (format : OutputFormat) :
      (ofTitle title format).toList.getLast? = format.name.toList.getLast? := by
    rw [toList_ofTitle, List.getLast?_append]
    cases format <;> rfl
  have hends := (hlast title format).symm.trans ((congrArg (·.toList.getLast?) h).trans
    (hlast title' format'))
  cases format <;> cases format' <;> first | rfl | exact absurd hends (by decide)

end StoredName

namespace Archive

theorem isPlain_ofNat (n : Nat) : IsPlain (Text.ofNat n) := by
  have hdigits := Text.isDigit_digits n
  obtain ⟨c, hc⟩ := List.exists_mem_of_ne_nil _ (Text.digits_ne_nil n)
  refine .ofMem (c := c) ?_ ?_ ?_
  · rw [Text.ofNat, String.toList_ofList]
    exact hc
  · rintro rfl
    exact absurd (hdigits _ hc) (by decide)
  · rw [Text.ofNat, String.toList_ofList]
    exact fun h => absurd (hdigits _ h) (by decide)

def reportFolder : Option Nat → String
  | some id => Text.ofNat id
  | none => previewFolder

theorem isPlain_reportsFolder : IsPlain reportsFolder := ⟨by decide, by decide, by decide⟩

theorem isPlain_reportFolder (reportId : Option Nat) : IsPlain (reportFolder reportId) := by
  cases reportId with
  | none => exact ⟨by decide, by decide, by decide⟩
  | some id => exact isPlain_ofNat id

theorem reportFolder_injective : Function.Injective reportFolder := by
  have hpreview (id : Nat) : Text.ofNat id ≠ previewFolder := by
    intro h
    have hdigits : (Text.ofNat id).toList = Text.digits id := String.toList_ofList
    have hmem : 'p' ∈ Text.digits id := by
      rw [← hdigits, h]
      decide
    exact absurd (Text.isDigit_digits id 'p' hmem) (by decide)
  intro a b h
  cases a with
  | none =>
    cases b with
    | none => rfl
    | some id => exact absurd h.symm (hpreview id)
  | some id =>
    cases b with
    | none => exact absurd h (hpreview id)
    | some id' => exact congrArg some (Text.ofNat_injective h)

theorem folderPath_eq (reportId : Option Nat) (owner : Nat) :
    folderPath reportId owner =
      Path.join (Path.join reportsFolder (reportFolder reportId)) (Text.ofNat owner) := by
  cases reportId <;> rfl

def storedPath (reportId : Option Nat) (owner : Nat) (title : String) (format : OutputFormat) :
    String :=
  Path.join (folderPath reportId owner) (StoredName.ofTitle title format)

theorem names_folderPath (reportId : Option Nat) (owner : Nat) :
    Path.names (folderPath reportId owner) =
      [reportsFolder, reportFolder reportId, Text.ofNat owner] := by
  have hreports : Path.names reportsFolder = [] ++ [reportsFolder] := isPlain_reportsFolder.names
  rw [folderPath_eq]
  exact Path.names_join_plain
    (Path.names_join_plain hreports isPlain_reportsFolder (isPlain_reportFolder reportId))
    (isPlain_reportFolder reportId) (isPlain_ofNat owner)

theorem names_storedPath (reportId : Option Nat) (owner : Nat) (title : String)
    (format : OutputFormat) :
    Path.names (storedPath reportId owner title format) =
      [reportsFolder, reportFolder reportId, Text.ofNat owner, StoredName.ofTitle title format] := by
  have hfolder : Path.names (folderPath reportId owner) =
      [reportsFolder, reportFolder reportId] ++ [Text.ofNat owner] :=
    names_folderPath reportId owner
  exact Path.names_join_plain hfolder (isPlain_ofNat owner) (StoredName.isPlain_ofTitle title format)

theorem forall_isPlain_storedPath (reportId : Option Nat) (owner : Nat) (title : String)
    (format : OutputFormat) :
    ∀ n ∈ Path.names (storedPath reportId owner title format), IsPlain n := by
  rw [names_storedPath]
  simp only [List.forall_mem_cons, List.not_mem_nil, false_imp_iff, implies_true, and_true]
  exact ⟨isPlain_reportsFolder, isPlain_reportFolder reportId, isPlain_ofNat owner,
    StoredName.isPlain_ofTitle title format⟩

theorem isAbsolute_folderPath (reportId : Option Nat) (owner : Nat) :
    Path.isAbsolute (folderPath reportId owner) = false :=
  Path.isAbsolute_eq_false (names_folderPath reportId owner) isPlain_reportsFolder

theorem isAbsolute_storedPath (reportId : Option Nat) (owner : Nat) (title : String)
    (format : OutputFormat) : Path.isAbsolute (storedPath reportId owner title format) = false :=
  Path.isAbsolute_eq_false (names_storedPath reportId owner title format) isPlain_reportsFolder

theorem place_stored (root : String) (reportId : Option Nat) (owner : Nat) (title : String)
    (format : OutputFormat) :
    place (Path.join root (storedPath reportId owner title format)) = place root ++
      [reportsFolder, reportFolder reportId, Text.ofNat owner, StoredName.ofTitle title format] := by
  rw [Path.place_join _ (isAbsolute_storedPath _ _ _ _),
    Path.placeFrom_plain _ (forall_isPlain_storedPath _ _ _ _), names_storedPath]

theorem up_not_mem_names_stored {root : String} (hup : ".." ∉ Path.names root)
    (reportId : Option Nat) (owner : Nat) (title : String) (format : OutputFormat) :
    ".." ∉ Path.names (Path.join root (storedPath reportId owner title format)) := by
  rw [Path.names_join _ (isAbsolute_storedPath _ _ _ _), List.mem_append, not_or]
  refine ⟨fun h => hup ?_, fun h => (forall_isPlain_storedPath _ _ _ _ _ h).notUp rfl⟩
  rcases Path.names_eq_base root with hbase | hbase
  · exact hbase ▸ h
  · exact hbase ▸ List.mem_append_left _ h

theorem eq_of_place_stored_eq {root : String} {reportId reportId' : Option Nat} {owner owner' : Nat}
    {title title' : String} {format format' : OutputFormat}
    (h : place (Path.join root (storedPath reportId owner title format)) =
      place (Path.join root (storedPath reportId' owner' title' format'))) :
    reportId = reportId' ∧ owner = owner' ∧ format = format' := by
  rw [place_stored, place_stored] at h
  have hnames := List.append_cancel_left h
  simp only [List.cons.injEq, and_true, true_and] at hnames
  obtain ⟨hreport, howner, hname⟩ := hnames
  exact ⟨reportFolder_injective hreport, Text.ofNat_injective howner,
    StoredName.format_eq_of_ofTitle_eq hname⟩

end Archive

end Reporting
