import Reporting.Catalog.FieldSet
import Reporting.Entries
import Reporting.Plan.Names
import Reporting.Sql.Query
import Reporting.Text.Blank

/-!
What a report selects and under which headers. Only fields on offer are selected; every selected
reference has a header.
-/

namespace Reporting

structure ProjectedField where
  field : String
  rename : Option String
  deriving DecidableEq, Repr

namespace ProjectedField

def ofReference (reference : String) : ProjectedField :=
  ⟨reference, if '.' ∈ reference.toList then some (keyOf reference) else none⟩

def key (p : ProjectedField) : String := p.rename.getD p.field

def selected (p : ProjectedField) : Sql.Selected := ⟨.field p.field, p.rename⟩

theorem key_ofReference (reference : String) : (ofReference reference).key = keyOf reference := by
  by_cases h : '.' ∈ reference.toList
  · simp [ofReference, key, h]
  · simp [ofReference, key, h, keyOf_eq_self h]

end ProjectedField

structure Projection where
  fields : List ProjectedField
  allColumns : Bool
  deriving DecidableEq, Repr

namespace Projection

def empty : Projection := ⟨[], false⟩

def allColumnsWith (p : ProjectedField) : Projection := ⟨[p], true⟩

def containsKey (p : Projection) (key : String) : Bool := p.fields.any fun f => f.key == key

def push (p : Projection) (f : ProjectedField) : Projection :=
  if p.containsKey f.key then p else { p with fields := p.fields ++ [f] }

def selected (p : Projection) : List Sql.Selected :=
  (if p.allColumns then [⟨.star, none⟩] else []) ++ p.fields.map ProjectedField.selected

def ofSelected (allowed : FieldSet) (selected : List String) : Projection :=
  (selected.filter allowed.contains).foldl (fun p f => p.push (.ofReference f)) empty

end Projection

abbrev Headers := Entries String String

namespace Headers

/--
The label at a position: the header unless blank, else the catalog's label, else the reference.
-/
def label (allowed : FieldSet) (reference : String) (header : Option String) : String :=
  match header.filter fun h => !Text.isBlankText h with
  | some h => h
  | none => (allowed.label? reference).getD reference

def labelled (allowed : FieldSet) : List String → List String → List (String × String)
  | [], _ => []
  | f :: fs, headers =>
    (keyOf f, label allowed f headers.head?) :: labelled allowed fs headers.tail

def ofLists (allowed : FieldSet) (selected headers : List String) : Headers :=
  .ofList (labelled allowed selected headers)

end Headers

end Reporting
