import Reporting.Proofs.Plan.Columns
import Reporting.Sheet

/-! The key of a reference. The columns of a report, their headers, their formats, its sections and
what is done to its rows all find a reference under the same key. -/

namespace Reporting

namespace Headers

/-- What a selected reference is labelled with, given the header at its position. -/
inductive IsLabel (allowed : FieldSet) (reference : String) (header : Option String) : String → Prop
  | header {h : String} : header = some h → Text.isBlankText h = false →
      IsLabel allowed reference header h
  | catalog {label : String} : (∀ h, header = some h → Text.isBlankText h = true) →
      allowed.label? reference = some label → IsLabel allowed reference header label
  | reference : (∀ h, header = some h → Text.isBlankText h = true) →
      allowed.label? reference = none → IsLabel allowed reference header reference

theorem isLabel_label (allowed : FieldSet) (reference : String) (header : Option String) :
    IsLabel allowed reference header (label allowed reference header) := by
  unfold label
  cases hheader : header.filter fun h => !Text.isBlankText h with
  | some h =>
    obtain ⟨hsome, hblank⟩ := Option.filter_eq_some_iff.mp hheader
    exact .header hsome (by simpa using hblank)
  | none =>
    have hblank : ∀ h, header = some h → Text.isBlankText h = true := by
      intro h hsome
      simpa using Option.filter_eq_none_iff.mp hheader h hsome
    cases hlabel : allowed.label? reference with
    | some label => exact .catalog hblank hlabel
    | none => exact .reference hblank hlabel

theorem getElem?_labelled (allowed : FieldSet) (selected headers : List String) (i : Nat) :
    (labelled allowed selected headers)[i]? =
      selected[i]?.map fun f => (keyOf f, label allowed f headers[i]?) := by
  induction selected generalizing headers i with
  | nil => rfl
  | cons f fs ih =>
    cases i with
    | zero => rw [labelled, List.getElem?_cons_zero, List.head?_eq_getElem?]; rfl
    | succ i =>
      rw [labelled, List.getElem?_cons_succ, ih, List.getElem?_cons_succ, List.getElem?_tail]

theorem firstMet_keys_ofLists (allowed : FieldSet) (selected headers : List String) :
    FirstMet (ofLists allowed selected headers).keys (selected.map keyOf) := by
  rw [← keys_labelled allowed selected headers]
  exact Entries.firstMet_keys_ofList _

theorem exists_isLabel (allowed : FieldSet) (selected headers : List String) {key : String}
    (h : key ∈ (ofLists allowed selected headers).keys) :
    ∃ i f label, LastAt (fun g => keyOf g = key) selected i f ∧
      IsLabel allowed f headers[i]? label ∧
      (ofLists allowed selected headers).get? key = some label := by
  obtain ⟨i, text, hlast, hget⟩ := Entries.exists_lastAt _ h
  have hentry := hlast.getElem?
  rw [getElem?_labelled] at hentry
  obtain ⟨f, hf, hpair⟩ := Option.map_eq_some_iff.mp hentry
  obtain ⟨hkey, htext⟩ := Prod.mk.inj hpair
  refine ⟨i, f, text, ⟨hf, hkey, ?_⟩, ?_, hget⟩
  · intro j g hj hg
    exact hlast.last j (keyOf g, label allowed g headers[j]?) hj (by rw [getElem?_labelled, hg]; rfl)
  · rw [← htext]
    exact isLabel_label allowed f headers[i]?

end Headers

/-- Of selected references and their headers: a column for every key on offer, a label for every
key. -/
structure Displays (allowed : FieldSet) (selected headers : List String) (p : Projection)
    (h : Headers) : Prop where
  nodup : p.keys.Nodup
  projected : FirstMet p.keys ((selected.filter allowed.contains).map keyOf)
  field : ∀ q ∈ p.fields, ∃ f, q = .ofReference f ∧
    (selected.filter allowed.contains).find? (fun g => keyOf g = keyOf f) = some f
  headed : FirstMet h.keys (selected.map keyOf)
  labelled : ∀ key ∈ h.keys, ∃ i f label, LastAt (fun g => keyOf g = key) selected i f ∧
    Headers.IsLabel allowed f headers[i]? label ∧ h.get? key = some label
  subset : p.keys ⊆ h.keys

theorem displays_ofSelected (allowed : FieldSet) (selected headers : List String) :
    Displays allowed selected headers (.ofSelected allowed selected)
      (.ofLists allowed selected headers) := by
  have hprojected := Projection.firstMet_keys_ofReferences (selected.filter allowed.contains)
  have hheaded := Headers.firstMet_keys_ofLists allowed selected headers
  refine ⟨hprojected.nodup, hprojected, ?_, hheaded, ?_, ?_⟩
  · exact fun q hq => Projection.find?_of_mem_ofReferences hq
  · intro key hkey
    exact Headers.exists_isLabel allowed selected headers hkey
  · intro key hkey
    obtain ⟨f, hf, rfl⟩ := List.mem_map.mp ((hprojected.mem_iff key).mp hkey)
    exact (hheaded.mem_iff _).mpr (List.mem_map_of_mem (List.mem_of_mem_filter hf))

namespace Plan

/-- A section field has no column yet: its key is free, and it is not under its name among all
columns. -/
def LacksColumn (p : Projection) (f : String) : Prop :=
  keyOf f ∉ p.keys ∧ (p.fields = [] → '.' ∈ f.toList)

instance (p : Projection) (f : String) : Decidable (LacksColumn p f) :=
  inferInstanceAs (Decidable (_ ∧ _))

theorem fields_withSection (p : Projection) (f : String) :
    (withSection p (.ofReference f)).fields =
      if LacksColumn p f then p.fields ++ [.ofReference f] else p.fields := by
  unfold withSection LacksColumn
  by_cases hempty : p.fields = []
  · by_cases hdot : '.' ∈ f.toList
    · simp [hempty, hdot, Projection.keys, Projection.allColumnsWith, ProjectedField.ofReference]
    · simp [hempty, hdot, ProjectedField.ofReference]
  · have hpush : (!p.fields.isEmpty) = true := by simpa using hempty
    rw [if_pos hpush, Projection.push]
    simp only [Projection.containsKey_iff, ProjectedField.key_ofReference, hempty, false_imp_iff,
      and_true, ite_not]
    split_ifs <;> rfl

variable (o : Offer) (d : Definition)

theorem exists_fields_projection :
    ∃ added : Option String,
      (∀ f, added = some f ↔ d.paginationField = some f ∧ o.fields.contains f = true ∧
        LacksColumn (.ofSelected o.fields d.selected) f) ∧
      (ofOffer o d).projection.fields = (Projection.ofSelected o.fields d.selected).fields ++
        added.toList.map ProjectedField.ofReference := by
  refine ⟨(d.paginationField.filter o.fields.contains).filter
    fun f => LacksColumn (.ofSelected o.fields d.selected) f, ?_, ?_⟩
  · intro f
    rw [Option.filter_eq_some_iff, Option.filter_eq_some_iff, decide_eq_true_iff, and_assoc]
  · show (((sectionField o.fields d).map (withSection _)).getD _).fields = _
    rw [sectionField]
    cases d.paginationField.filter o.fields.contains with
    | none => exact (List.append_nil _).symm
    | some f =>
      rw [Option.map_some, Option.map_some, Option.getD_some, fields_withSection,
        Option.filter_some]
      by_cases hlacks : LacksColumn (.ofSelected o.fields d.selected) f
      · rw [if_pos hlacks, if_pos (decide_eq_true hlacks)]
        rfl
      · rw [if_neg hlacks, if_neg (by simpa using hlacks)]
        exact (List.append_nil _).symm

structure KeyedBy (key : String → String) (formats : Entries String Format) : Prop where
  projection : ∀ p ∈ (ofOffer o d).projection.fields,
    p.key = key p.field ∧ p.selected.outputName = some (key p.field)
  headers : FirstMet (ofOffer o d).headers.keys (d.selected.map key)
  formats : FirstMet (Sheet.formatsByKey formats).keys (formats.keys.map key)
  sectionKey : (ofOffer o d).sectionKey = (d.paginationField.filter o.fields.contains).map key
  processing : Processing.ofDefinition d =
    ⟨d.clearColumns.map key, d.addInRows.map key, d.addColumns.map key⟩

theorem exists_ofReference {p : ProjectedField} (hp : p ∈ (ofOffer o d).projection.fields) :
    ∃ f, p = .ofReference f := by
  obtain ⟨added, -, hfields⟩ := exists_fields_projection o d
  rw [hfields] at hp
  rcases List.mem_append.mp hp with hp | hp
  · obtain ⟨f, -, rfl⟩ := Projection.mem_ofReferences hp
    exact ⟨f, rfl⟩
  · obtain ⟨f, -, rfl⟩ := List.mem_map.mp hp
    exact ⟨f, rfl⟩

theorem keyedBy_keyOf (formats : Entries String Format) : KeyedBy o d keyOf formats := by
  constructor
  · intro p hp
    obtain ⟨f, rfl⟩ := exists_ofReference o d hp
    exact ⟨ProjectedField.key_ofReference f, ProjectedField.outputName_selected f⟩
  · exact Headers.firstMet_keys_ofLists o.fields d.selected d.headers
  · have hkeys : formats.keys.map keyOf =
        (formats.toList.map fun e => (keyOf e.1, e.2)).map Prod.fst := by
      rw [Entries.keys, List.map_map, List.map_map]
      rfl
    rw [hkeys]
    exact Entries.firstMet_keys_ofList _
  · show (sectionField o.fields d).map _ = _
    rw [sectionField, Option.map_map]
    congr 1
    funext f
    exact ProjectedField.key_ofReference f
  · rfl

/-- Selected references have distinct columns and a header each, to which a plan adds the section field
at most; and every part of a report knows a reference by one key. -/
theorem displays_and_keyedBy (allowed : FieldSet) (selected headers : List String)
    (formats : Entries String Format) :
    Displays allowed selected headers (.ofSelected allowed selected)
      (.ofLists allowed selected headers) ∧
    (ofOffer o d).headers = .ofLists o.fields d.selected d.headers ∧
    (ofOffer o d).projection.keys.Nodup ∧
    (∃ added : Option String,
      (∀ f, added = some f ↔ d.paginationField = some f ∧ o.fields.contains f = true ∧
        LacksColumn (.ofSelected o.fields d.selected) f) ∧
      (ofOffer o d).projection.fields = (Projection.ofSelected o.fields d.selected).fields ++
        added.toList.map ProjectedField.ofReference) ∧
    KeyedBy o d keyOf formats := by
  refine ⟨displays_ofSelected allowed selected headers, rfl, ?_, exists_fields_projection o d,
    keyedBy_keyOf o d formats⟩
  obtain ⟨added, hadded, hfields⟩ := exists_fields_projection o d
  have hnodup := (displays_ofSelected o.fields d.selected d.headers).nodup
  rw [Projection.keys, hfields, List.map_append]
  cases added with
  | none => simpa [Projection.keys] using hnodup
  | some f =>
    have hkey := ((hadded f).mp rfl).2.2.1
    refine hnodup.append (List.nodup_singleton _) (List.disjoint_singleton.mpr ?_)
    rwa [ProjectedField.key_ofReference]

theorem headers_label_of_blank :
    "A_B" ∈ (Headers.ofLists .empty ["A.B", "C", "A_B"] ["First", "Second", " "]).keys ∧
      (Headers.ofLists .empty ["A.B", "C", "A_B"] ["First", "Second", " "]).get? "A_B" =
        some "A_B" := by
  have hdisplays := (displays_and_keyedBy ⟨.empty, [], ⟨none, "Book"⟩, [], "ID"⟩ {} .empty
    ["A.B", "C", "A_B"] ["First", "Second", " "] .empty).1
  have hkey : "A_B" ∈ (Headers.ofLists .empty ["A.B", "C", "A_B"] ["First", "Second", " "]).keys :=
    (hdisplays.headed.mem_iff "A_B").mpr (by decide)
  obtain ⟨i, f, label, hlast, hlabel, hget⟩ := hdisplays.labelled "A_B" hkey
  have hi : i = 2 := by
    have hlt := (List.getElem?_eq_some_iff.mp hlast.getElem?).1
    have hle : ¬i < 2 := fun hlt => hlast.last 2 "A_B" hlt rfl (by decide)
    simp only [List.length_cons, List.length_nil] at hlt
    omega
  subst hi
  cases hlast.getElem?
  refine ⟨hkey, ?_⟩
  cases hlabel with
  | header hheader hblank =>
    cases hheader
    exact absurd hblank (by decide)
  | catalog _ hcatalog => simp [FieldSet.label?, FieldSet.empty] at hcatalog
  | reference => exact hget

end Plan

end Reporting
