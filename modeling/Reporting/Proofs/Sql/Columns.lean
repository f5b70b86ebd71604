import Mathlib.Logic.Function.Basic
import Reporting.Proofs.Sql.Reading

/-! The columns that references stand for, and the names under which items come back in the rows. -/

namespace Reporting.Sql

namespace Expr

theorem field_eq (reference : String) :
    field reference = .column none reference ∨
      ∃ table name, field reference = .column (some (.ofList table)) (.ofList name) ∧
        reference.toList = table ++ '.' :: name := by
  unfold field
  split
  · rename_i hcut
    exact .inr ⟨_, _, rfl, Text.eq_append_of_cutAt hcut⟩
  · exact .inl rfl

theorem field_ne_star (reference : String) : field reference ≠ .star := by
  rcases field_eq reference with h | ⟨_, _, h, -⟩ <;> rw [h] <;> rintro ⟨⟩

theorem field_of_not_mem {reference : String} (h : '.' ∉ reference.toList) :
    field reference = .column none reference := by
  rcases field_eq reference with hfield | ⟨_, _, -, htext⟩
  · exact hfield
  · refine absurd ?_ h
    rw [htext]
    exact List.mem_append_right _ List.mem_cons_self

theorem field_injective : Function.Injective field := by
  intro f g h
  rcases field_eq f with hf | ⟨table, name, hf, htext⟩ <;>
    rcases field_eq g with hg | ⟨table', name', hg, htext'⟩ <;>
      rw [hf, hg] at h
  · exact (column.inj h).2
  · cases (column.inj h).1
  · cases (column.inj h).1
  · obtain ⟨htable, hname⟩ := column.inj h
    have htable := String.ofList_injective (Option.some.inj htable)
    have hname := String.ofList_injective hname
    exact String.toList_injective (by rw [htext, htext', htable, hname])

theorem isColumn_field (reference : String) : (field reference).IsColumn := by
  unfold field
  split <;> exact ⟨_, _, rfl⟩

def columnOf (reference : String) : Option String × String :=
  match Text.cutAt '.' reference.toList with
  | some (t :: ts, c :: cs) => (some (.ofList (t :: ts)), .ofList (c :: cs))
  | _ => (none, reference)

def reference (reference : String) : Expr := .column (columnOf reference).1 (columnOf reference).2

theorem field_eq_columnOf (reference : String) :
    field reference = .column (columnOf reference).1 (columnOf reference).2 := by
  unfold field columnOf
  generalize Text.cutAt '.' reference.toList = parts
  rcases parts with _ | ⟨_ | ⟨t, ts⟩, _ | ⟨c, cs⟩⟩ <;> rfl

theorem snd_columnOf_eq_iff (reference : String) :
    (columnOf reference).2 = reference ↔ columnOf reference = (none, reference) := by
  refine ⟨fun h => ?_, fun h => by rw [h]⟩
  have hcolumn := field_eq_columnOf reference
  rw [h] at hcolumn
  rcases field_eq reference with hfield | ⟨table, name, hfield, htext⟩
  · have htable := (column.inj (hfield.symm.trans hcolumn)).1
    exact Prod.ext htable.symm h
  · -- the name behind the dot is shorter than the reference
    have hname := (column.inj (hfield.symm.trans hcolumn)).2
    rw [← hname, String.toList_ofList] at htext
    have hlength := congrArg List.length htext
    rw [List.length_append, List.length_cons] at hlength
    omega

end Expr

def Selected.outputName (s : Selected) : Option String :=
  match s.rename, s.expr with
  | some name, _ => some name
  | none, .column _ name => some name
  | none, _ => none

def Selected.MayYield (s : Selected) (name : String) : Prop :=
  s.expr = .star ∨ s.outputName = some name

def Ordered.columnName (x : Ordered) : Option String :=
  match x.expr with
  | .column _ name => some name
  | .numeric (.column _ name) => some name
  | _ => none

end Reporting.Sql
