import Mathlib.Data.List.Induction
import Mathlib.Data.List.Nodup
import Mathlib.Tactic.SplitIfs
import Reporting.Plan.Projection
import Reporting.Proofs.Entries
import Reporting.Proofs.Sql.Columns

/-! What a projection holds after its fields were pushed one by one: a field for every key met, and
no key twice. -/

namespace Reporting

open Sql

namespace ProjectedField

theorem outputName_selected (reference : String) :
    (ofReference reference).selected.outputName = some (keyOf reference) := by
  unfold ofReference selected
  split_ifs with hdot
  · rfl
  · rw [Expr.field_of_not_mem hdot, keyOf_eq_self hdot]
    rfl

end ProjectedField

namespace Projection

def keys (p : Projection) : List String := p.fields.map ProjectedField.key

theorem containsKey_iff (p : Projection) (key : String) : p.containsKey key = true ↔ key ∈ p.keys := by
  simp only [containsKey, keys, List.any_eq_true, beq_iff_eq, List.mem_map]

theorem keys_push (p : Projection) (f : ProjectedField) :
    (p.push f).keys = if f.key ∈ p.keys then p.keys else p.keys ++ [f.key] := by
  unfold push
  simp only [containsKey_iff]
  split_ifs with hkey
  · rfl
  · rw [keys, List.map_append]
    rfl

theorem allColumns_push (p : Projection) (f : ProjectedField) :
    (p.push f).allColumns = p.allColumns := by
  unfold push
  split_ifs <;> rfl

def ofReferences (references : List String) : Projection :=
  references.foldl (fun p f => p.push (.ofReference f)) empty

theorem ofReferences_concat (references : List String) (f : String) :
    ofReferences (references ++ [f]) = (ofReferences references).push (.ofReference f) := by
  rw [ofReferences, List.foldl_append]
  rfl

theorem keys_ofReferences (references : List String) :
    (ofReferences references).keys = (references.map keyOf).eraseDups := by
  induction references using List.reverseRecOn with
  | nil => rfl
  | append_singleton references f ih =>
    rw [ofReferences_concat, keys_push, ih, ProjectedField.key_ofReference, List.map_append,
      List.map_singleton, FirstMet.eraseDups_concat]
    simp only [List.mem_eraseDups]

theorem firstMet_keys_ofReferences (references : List String) :
    FirstMet (ofReferences references).keys (references.map keyOf) := by
  rw [keys_ofReferences]
  exact FirstMet.ofEraseDups _

theorem mem_keys_ofReferences (references : List String) (key : String) :
    key ∈ (ofReferences references).keys ↔ key ∈ references.map keyOf :=
  (firstMet_keys_ofReferences references).mem_iff key

theorem nodup_keys_ofReferences (references : List String) : (ofReferences references).keys.Nodup :=
  (firstMet_keys_ofReferences references).nodup

theorem find?_of_mem_ofReferences {references : List String} {p : ProjectedField}
    (h : p ∈ (ofReferences references).fields) :
    ∃ f, p = .ofReference f ∧ references.find? (fun g => keyOf g = keyOf f) = some f := by
  induction references using List.reverseRecOn with
  | nil => cases h
  | append_singleton references f ih =>
    have hearlier (hp : p ∈ (ofReferences references).fields) : ∃ f', p = .ofReference f' ∧
        (references ++ [f]).find? (fun g => keyOf g = keyOf f') = some f' := by
      obtain ⟨f', hp, hfind⟩ := ih hp
      exact ⟨f', hp, by rw [List.find?_append, hfind, Option.some_or]⟩
    rw [ofReferences_concat, push] at h
    split_ifs at h with hkey
    · exact hearlier h
    · rcases List.mem_append.mp h with h | h
      · exact hearlier h
      · have hnone : references.find? (fun g => keyOf g = keyOf f) = none := by
          rw [List.find?_eq_none]
          intro g hg heq
          rw [containsKey_iff, ProjectedField.key_ofReference, mem_keys_ofReferences] at hkey
          exact hkey (of_decide_eq_true heq ▸ List.mem_map_of_mem hg)
        refine ⟨f, List.mem_singleton.mp h, ?_⟩
        rw [List.find?_append, hnone, Option.none_or, List.find?_singleton, if_pos (decide_eq_true rfl)]

theorem mem_ofReferences {references : List String} {g : ProjectedField}
    (h : g ∈ (ofReferences references).fields) : ∃ f ∈ references, g = .ofReference f := by
  obtain ⟨f, hg, hfind⟩ := find?_of_mem_ofReferences h
  exact ⟨f, List.mem_of_find?_eq_some hfind, hg⟩

theorem allColumns_ofReferences (references : List String) :
    (ofReferences references).allColumns = false := by
  induction references using List.reverseRecOn with
  | nil => rfl
  | append_singleton references f ih => rw [ofReferences_concat, allColumns_push, ih]

theorem exists_mem_ofReferences {references : List String} {f : String} (hf : f ∈ references) :
    ∃ g ∈ references, keyOf g = keyOf f ∧ .ofReference g ∈ (ofReferences references).fields := by
  have hkey := (mem_keys_ofReferences references (keyOf f)).mpr (List.mem_map_of_mem hf)
  obtain ⟨p, hp, hpkey⟩ := List.mem_map.mp hkey
  obtain ⟨g, hg, rfl⟩ := mem_ofReferences hp
  rw [ProjectedField.key_ofReference] at hpkey
  exact ⟨g, hg, hpkey, hp⟩

theorem fields_ofReferences_ne_nil {references : List String} (h : references ≠ []) :
    (ofReferences references).fields ≠ [] := by
  obtain ⟨f, hf⟩ := List.exists_mem_of_ne_nil _ h
  obtain ⟨g, -, -, hmem⟩ := exists_mem_ofReferences hf
  exact List.ne_nil_of_mem hmem

theorem selected_ofReferences (references : List String) :
    (ofReferences references).selected = (ofReferences references).fields.map
      ProjectedField.selected := by
  rw [selected, allColumns_ofReferences]
  rfl

end Projection

end Reporting
