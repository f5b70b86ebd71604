import Mathlib.Data.List.SplitBy
import Reporting.Proofs.Archive.Directory

/-! The names of stored reports, and the paths they stand at. A name is what can be kept of a title,
and a path says whose report it is and in which format. -/

namespace Reporting

open Reporting.Path (place)

namespace StoredName

def IsPortable (c : Char) : Prop :=
  'A' ≤ c ∧ c ≤ 'Z' ∨ 'a' ≤ c ∧ c ≤ 'z' ∨ '0' ≤ c ∧ c ≤ '9' ∨ c ∈ ['.', '+', '_', '-']

instance : DecidablePred IsPortable := fun _ => inferInstanceAs (Decidable (_ ∨ _))

theorem isSafe_iff (c : Char) : isSafe c = true ↔ IsPortable c := by
  have halphanum : c.isAlphanum = true ↔
      ('A' ≤ c ∧ c ≤ 'Z' ∨ 'a' ≤ c ∧ c ≤ 'z') ∨ '0' ≤ c ∧ c ≤ '9' := by
    show ((decide ('A' ≤ c ∧ c ≤ 'Z') || (decide ('a' ≤ c) && decide (c ≤ 'z'))) ||
      (decide ('0' ≤ c) && decide (c ≤ '9'))) = true ↔ _
    simp only [Bool.or_eq_true, Bool.and_eq_true, decide_eq_true_eq]
  simp only [isSafe, IsPortable, Bool.or_eq_true, decide_eq_true_eq, halphanum, List.mem_cons,
    List.not_mem_nil, or_false, or_assoc]

theorem IsPortable.not_isBlank {c : Char} (h : IsPortable c) : Text.isBlank c = false := by
  have hrange {a b : Char} (ha : 33 ≤ a.toNat) (hb : b.toNat ≤ 126) (h : a ≤ c ∧ c ≤ b) :
      Text.isBlank c = false := by
    have hfrom : a.toNat ≤ c.toNat := UInt32.le_iff_toNat_le.mp (Char.le_def.mp h.1)
    have hto : c.toNat ≤ b.toNat := UInt32.le_iff_toNat_le.mp (Char.le_def.mp h.2)
    refine Bool.eq_false_iff.mpr fun hblank => ?_
    simp only [Text.isBlank, Bool.or_eq_true, Bool.and_eq_true, decide_eq_true_eq,
      beq_iff_eq] at hblank
    omega
  rcases h with h | h | h | hmem
  · exact hrange (by decide) (by decide) h
  · exact hrange (by decide) (by decide) h
  · exact hrange (by decide) (by decide) h
  · have hmarks : ['.', '+', '_', '-'].all (fun c => !Text.isBlank c) = true := by decide
    simpa using List.all_eq_true.mp hmarks c hmem

/-! Runs of spaces, and of other characters. -/

def sameKind (a b : Char) : Bool := (a == ' ') == (b == ' ')

def runs (cs : List Char) : List (List Char) := cs.splitBy sameKind

theorem sameKind_iff {a b : Char} : sameKind a b = true ↔ (a = ' ' ↔ b = ' ') := by
  rw [sameKind, beq_iff_eq, Bool.eq_iff_iff, beq_iff_eq, beq_iff_eq]

theorem spaces_or_not_mem {run : List Char} (h : run.IsChain fun a b => sameKind a b = true) :
    (∀ c ∈ run, c = ' ') ∨ ' ' ∉ run := by
  induction h with
  | nil => exact .inr List.not_mem_nil
  | singleton a =>
    by_cases ha : a = ' '
    · exact .inl (List.forall_mem_singleton.mpr ha)
    · exact .inr fun hmem => ha (List.mem_singleton.mp hmem).symm
  | @cons_cons a b run hab _ ih =>
    have hkind := sameKind_iff.mp hab
    rcases ih with hspaces | hnone
    · exact .inl (List.forall_mem_cons.mpr ⟨hkind.mpr (hspaces b List.mem_cons_self), hspaces⟩)
    · have hb : b ≠ ' ' := fun hb => hnone (hb ▸ List.mem_cons_self)
      have ha : ' ' ≠ a := fun ha => hb (hkind.mp ha.symm)
      exact .inr (List.mem_cons.not.mpr (not_or.mpr ⟨ha, hnone⟩))

theorem dashed_true {cs : List Char} (h : cs.head? ≠ some ' ') :
    dashed true cs = dashed false cs := by
  cases cs with
  | nil => rfl
  | cons c cs =>
    have hc : c ≠ ' ' := fun hc => h (congrArg some hc)
    rw [dashed, dashed, if_neg hc, if_neg hc]

theorem dashed_spaces {run : List Char} (h : ∀ c ∈ run, c = ' ') (rest : List Char) :
    dashed true (run ++ rest) = dashed true rest := by
  induction run with
  | nil => rfl
  | cons c run ih =>
    obtain ⟨hc, hrun⟩ := List.forall_mem_cons.mp h
    rw [List.cons_append, dashed, if_pos hc, if_pos rfl, ih hrun]

theorem dashed_of_not_mem {run : List Char} (h : ' ' ∉ run) (rest : List Char) :
    dashed false (run ++ rest) = run ++ dashed false rest := by
  induction run with
  | nil => rfl
  | cons c run ih =>
    obtain ⟨hc, hrun⟩ := not_or.mp (List.mem_cons.not.mp h)
    rw [List.cons_append, dashed, if_neg fun heq => hc heq.symm, ih hrun]
    rfl

def dashedRun (run : List Char) : List Char := if ' ' ∈ run then ['-'] else run

theorem dashed_flatten {rs : List (List Char)} (hne : [] ∉ rs)
    (hkind : ∀ run ∈ rs, run.IsChain fun a b => sameKind a b = true)
    (hchange : rs.IsChain fun a b => ∃ ha hb, sameKind (a.getLast ha) (b.head hb) = false) :
    dashed false rs.flatten = rs.flatMap dashedRun := by
  induction rs with
  | nil => rfl
  | cons run rs ih =>
    obtain ⟨hrun, hrs⟩ := not_or.mp (List.mem_cons.not.mp hne)
    obtain ⟨hkindrun, hkindrs⟩ := List.forall_mem_cons.mp hkind
    have hrest := ih hrs hkindrs hchange.tail
    rw [List.flatten_cons, List.flatMap_cons, ← hrest]
    rcases spaces_or_not_mem hkindrun with hspaces | hnone
    · obtain ⟨c, run, rfl⟩ := List.exists_cons_of_ne_nil (Ne.symm hrun)
      obtain ⟨rfl, htail⟩ := List.forall_mem_cons.mp hspaces
      -- the next run has no space, so this one ends here
      have hnext : rs.flatten.head? ≠ some ' ' := by
        cases rs with
        | nil => exact Option.some_ne_none _ ∘ Eq.symm
        | cons next rs =>
          obtain ⟨ha, hb, hdiffer⟩ := (List.isChain_cons_cons.mp hchange).1
          intro heq
          rw [List.flatten_cons, List.head?_append_of_ne_nil _ hb, List.head?_eq_some_head hb] at heq
          rw [sameKind, hspaces _ (List.getLast_mem ha), Option.some.inj heq] at hdiffer
          exact absurd hdiffer (by decide)
      rw [dashedRun, if_pos List.mem_cons_self, List.cons_append, dashed, if_pos rfl]
      rw [if_neg Bool.false_ne_true, dashed_spaces htail, dashed_true hnext]
      rfl
    · rw [dashedRun, if_neg hnone, dashed_of_not_mem hnone]

theorem dashed_eq (cs : List Char) : dashed false cs = (runs cs).flatMap dashedRun := by
  have hdashed := dashed_flatten (List.nil_notMem_splitBy sameKind cs)
    (fun _ => List.isChain_of_mem_splitBy) (List.isChain_getLast_head_splitBy sameKind cs)
  rwa [List.flatten_splitBy] at hdashed

def keptRun (run : List Char) : List Char := if ' ' ∈ run then ['-'] else run.filter IsPortable

def kept (title : String) : List Char := (runs (Text.trim title.toList)).flatMap keptRun

theorem filter_isSafe (cs : List Char) : cs.filter isSafe = cs.filter IsPortable := by
  apply List.filter_congr
  intro c _
  rw [Bool.eq_iff_iff, isSafe_iff, decide_eq_true_iff]

theorem kept_eq (title : String) :
    kept title = (dashed false (Text.trim title.toList)).filter isSafe := by
  rw [kept, dashed_eq, List.filter_flatMap]
  apply List.flatMap_congr
  intro run _
  rw [keptRun, dashedRun]
  split_ifs
  · rfl
  · exact (filter_isSafe run).symm

theorem stem_eq (title : String) :
    stem title = if kept title = [] then "report".toList else kept title := by
  rw [stem, ← kept_eq]
  split
  · rename_i hnil
    rw [if_pos hnil]
  · rename_i hne
    rw [if_neg hne]

theorem stem_ne_nil (title : String) : stem title ≠ [] := by
  rw [stem_eq]
  split_ifs with hnil
  · decide
  · exact hnil

theorem isPortable_of_mem_stem {title : String} {c : Char} (h : c ∈ stem title) : IsPortable c :=
  (isSafe_iff c).mp (isSafe_of_mem_stem h)

theorem stem_ofList {cs : List Char} (hne : cs ≠ []) (h : ∀ c ∈ cs, IsPortable c) :
    stem (.ofList cs) = cs := by
  have htrim : Text.trim cs = cs := Text.trim_eq_self fun c hc => (h c hc).not_isBlank
  have hspace : ' ' ∉ cs := fun hmem => absurd (h ' ' hmem) (by decide)
  have hdashed : dashed false cs = cs := by
    have hall := dashed_of_not_mem hspace []
    rwa [List.append_nil, dashed, List.append_nil] at hall
  have hkept : kept (.ofList cs) = cs := by
    rw [kept_eq, String.toList_ofList, htrim, hdashed, List.filter_eq_self]
    exact fun c hc => (isSafe_iff c).mpr (h c hc)
  rw [stem_eq, hkept, if_neg hne]

theorem ofTitle_stem (title : String) (format : OutputFormat) :
    ofTitle (.ofList (stem title)) format = ofTitle title format := by
  have hstem := stem_ofList (stem_ne_nil title) fun _ => isPortable_of_mem_stem
  rw [ofTitle, hstem, ofTitle]

theorem isPortable_of_mem_ofTitle {title : String} {format : OutputFormat} {c : Char}
    (h : c ∈ (ofTitle title format).toList) : IsPortable c := by
  rw [toList_ofTitle] at h
  rcases List.mem_append.mp h with h | h
  · exact isPortable_of_mem_stem h
  · have hall : ('.' :: format.name.toList).all (fun c => IsPortable c) = true := by
      cases format <;> decide
    exact of_decide_eq_true (List.all_eq_true.mp hall c h)

structure IsNameOf (title : String) (format : OutputFormat) (name : String) : Prop where
  portable : ∀ c ∈ name.toList, IsPortable c
  component : Path.names name = [name] ∧ name ≠ "." ∧ name ≠ ".."
  stem : ∃ cs, cs ≠ [] ∧ name.toList = cs ++ '.' :: format.name.toList ∧
    cs = (if kept title = [] then "report".toList else kept title) ∧
    ofTitle (.ofList cs) format = name

theorem isNameOf_ofTitle (title : String) (format : OutputFormat) :
    IsNameOf title format (ofTitle title format) := by
  have hplain := isPlain_ofTitle title format
  refine ⟨fun _ => isPortable_of_mem_ofTitle, ⟨hplain.names, ?_, hplain.notUp⟩, ?_⟩
  · intro hdot
    have hidle := hplain.notIdle
    rw [hdot] at hidle
    exact absurd hidle (by decide)
  · exact ⟨stem title, stem_ne_nil title, toList_ofTitle title format, stem_eq title,
      ofTitle_stem title format⟩

end StoredName

namespace Archive

theorem storedPath_eq (reportId : Option Nat) (owner : Nat) (title : String)
    (format : OutputFormat) :
    storedPath reportId owner title format =
      reportsFolder ++ "/" ++ reportFolder reportId ++ "/" ++ Text.ofNat owner ++ "/" ++
        StoredName.ofTitle title format := by
  have hreport := isPlain_reportFolder reportId
  have howner := isPlain_ofNat owner
  have hname := StoredName.isPlain_ofTitle title format
  have hfolder := Path.join_eq isPlain_reportsFolder.endsInName hreport.isAbsolute
  have hfolder' := Path.join_eq (hreport.endsInName.append reportsFolder) howner.isAbsolute
  rw [storedPath, folderPath_eq, hfolder, hfolder',
    Path.join_eq (howner.endsInName.append _) hname.isAbsolute]

theorem stored_of_makeFolder {root folder source title : String} {reportId : Option Nat}
    {owner : Nat} {format : OutputFormat} {t u : Tree} {stored : StoredFile}
    (hmade : (makeFolder root reportId owner t).1 = .ok folder)
    (hstored : (storeFile root folder (StoredName.ofTitle title format) source u).1 = .ok stored) :
    stored.path = storedPath reportId owner title format ∧
      stored.fullPath = Path.join root (storedPath reportId owner title format) := by
  obtain ⟨t', hmake⟩ : ∃ t', makeFolder root reportId owner t = (.ok folder, t') :=
    ⟨_, by rw [← hmade]⟩
  obtain ⟨u', hstore⟩ : ∃ u', storeFile root folder (StoredName.ofTitle title format) source u =
      (.ok stored, u') := ⟨_, by rw [← hstored]⟩
  rw [storedPath, ← folder_eq_of_makeFolder hmake]
  rcases storeFile_cases hstore with ⟨⟨e, he⟩, -⟩ | ⟨content, -, hok, -⟩
  · cases he
  · simp only [Except.ok.inj hok, and_self]

/-- A stored report has a portable name and stands below the root under its report and its owner,
where no report stands of another one, of another owner or in another format. -/
theorem stored_isNameOf_and_apart (root : String) (reportId : Option Nat) (owner : Nat)
    (title : String) (format : OutputFormat) :
    StoredName.IsNameOf title format (StoredName.ofTitle title format) ∧
    storedPath reportId owner title format =
      "advanced-reports" ++ "/" ++ (reportId.map Text.ofNat).getD "preview" ++ "/" ++
        Text.ofNat owner ++ "/" ++ StoredName.ofTitle title format ∧
    place (Path.join root (storedPath reportId owner title format)) = place root ++
      ["advanced-reports", (reportId.map Text.ofNat).getD "preview", Text.ofNat owner,
        StoredName.ofTitle title format] ∧
    (∀ t folder, (makeFolder root reportId owner t).1 = .ok folder → ∀ source u stored,
      (storeFile root folder (StoredName.ofTitle title format) source u).1 = .ok stored →
        stored.path = storedPath reportId owner title format ∧
          stored.fullPath = Path.join root (storedPath reportId owner title format)) ∧
    ∀ reportId' owner' title' format', (reportId, owner, format) ≠ (reportId', owner', format') →
      storedPath reportId owner title format ≠ storedPath reportId' owner' title' format' ∧
        place (Path.join root (storedPath reportId owner title format)) ≠
          place (Path.join root (storedPath reportId' owner' title' format')) := by
  have hreport : (reportId.map Text.ofNat).getD "preview" = reportFolder reportId := by
    cases reportId <;> rfl
  rw [hreport]
  refine ⟨StoredName.isNameOf_ofTitle title format, storedPath_eq reportId owner title format,
    place_stored root reportId owner title format, ?_, ?_⟩
  · intro t folder hmade source u stored hstored
    exact stored_of_makeFolder hmade hstored
  · intro reportId' owner' title' format' hne
    have hplace : place (Path.join root (storedPath reportId owner title format)) ≠
        place (Path.join root (storedPath reportId' owner' title' format')) := by
      intro heq
      obtain ⟨rfl, rfl, rfl⟩ := eq_of_place_stored_eq heq
      exact hne rfl
    exact ⟨fun heq => hplace (congrArg (fun path => place (Path.join root path)) heq), hplace⟩

def greeting : Tree := ⟨⟨[(["r"], .file ⟨#[104, 105]⟩)], by decide⟩⟩

theorem stored_salesCosts :
    (makeFolder "/a" none 12 .empty).1 = .ok "advanced-reports/preview/12" ∧
      (storeFile "/a" "advanced-reports/preview/12"
        (StoredName.ofTitle " Sales/Costs:   2024 " .csv) "/r" greeting).1 =
          .ok ⟨"advanced-reports/preview/12/SalesCosts-2024.csv",
            "/a/advanced-reports/preview/12/SalesCosts-2024.csv", 2⟩ ∧
      "advanced-reports/preview/12/SalesCosts-2024.csv" =
        storedPath none 12 " Sales/Costs:   2024 " .csv ∧
      "advanced-reports/preview/12/SalesCosts-2024.csv" ≠
        storedPath (some 12) 12 " Sales/Costs:   2024 " .csv := by
  obtain ⟨-, -, -, hmakes, hapart⟩ :=
    stored_isNameOf_and_apart "/a" none 12 " Sales/Costs:   2024 " .csv
  have hmade : (makeFolder "/a" none 12 .empty).1 = .ok "advanced-reports/preview/12" := by
    decide +kernel
  have hstored : (storeFile "/a" "advanced-reports/preview/12"
      (StoredName.ofTitle " Sales/Costs:   2024 " .csv) "/r" greeting).1 =
        .ok ⟨"advanced-reports/preview/12/SalesCosts-2024.csv",
          "/a/advanced-reports/preview/12/SalesCosts-2024.csv", 2⟩ := by decide +kernel
  have hpath : "advanced-reports/preview/12/SalesCosts-2024.csv" =
      storedPath none 12 " Sales/Costs:   2024 " .csv :=
    (hmakes .empty _ hmade "/r" greeting _ hstored).1
  have hne := (hapart (some 12) 12 " Sales/Costs:   2024 " .csv (by decide)).1
  refine ⟨hmade, hstored, hpath, ?_⟩
  rw [hpath]
  exact hne

end Archive

end Reporting
