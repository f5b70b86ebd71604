import Std.Data.HashMap

/-!
The fields a catalog offers, in the order of their first mention, with an index by name.
-/

namespace Reporting

structure FieldSet where
  entries : Array (String × String)
  index : Std.HashMap String Nat

namespace FieldSet

def empty : FieldSet := ⟨#[], ∅⟩

instance : Inhabited FieldSet := ⟨empty⟩

def insert (s : FieldSet) (name label : String) : FieldSet :=
  match s.index[name]? with
  | some i => { s with entries := s.entries.modify i fun e => (e.1, label) }
  | none => ⟨s.entries.push (name, label), s.index.insert name s.entries.size⟩

def ofList (es : List (String × String)) : FieldSet :=
  es.foldl (fun s e => s.insert e.1 e.2) empty

def contains (s : FieldSet) (name : String) : Bool := s.index.contains name

def label? (s : FieldSet) (name : String) : Option String :=
  s.index[name]?.bind fun i => s.entries[i]?.map Prod.snd

def toList (s : FieldSet) : List (String × String) := s.entries.toList

def names (s : FieldSet) : List String := s.toList.map Prod.fst

def size (s : FieldSet) : Nat := s.entries.size

def isEmpty (s : FieldSet) : Bool := s.entries.isEmpty

end FieldSet

end Reporting
