import Reporting.Data.Files
import Reporting.Proofs.Data.Json.Reading
import Reporting.Proofs.Data.Shape

/-! Stored definitions are read as they were written, piece by piece: every record writes its fields
under their current names and in their order. -/

namespace Reporting

open Decode

namespace Decode

theorem items_map {α : Type} {read : Node → Decoded α} {write : α → Node} {as : List α}
    (h : ∀ a ∈ as, read (write a) = .ok a) : items read (as.map write) = .ok as := by
  induction as with
  | nil => rfl
  | cons a as ih =>
    obtain ⟨ha, has⟩ := List.forall_mem_cons.mp h
    rw [List.map_cons, items, ha, ih has]
    rfl

theorem list_map (o : Origin) {α : Type} {read : Node → Decoded α} {write : α → Node}
    {as : List α} (h : ∀ a ∈ as, read (write a) = .ok a) :
    list o read (.list (as.map write) .closed) = .ok as := by
  rw [list, items_map h]
  rfl

theorem strings_strings (o : Origin) (ss : List String) : strings o (.strings ss) = .ok ss :=
  list_map o fun _ _ => rfl

theorem optional_ofOption {α : Type} {read : Node → Decoded α} {write : α → Node}
    (hnull : ∀ a, write a ≠ .null) {x : Option α} (h : ∀ a ∈ x, read (write a) = .ok a) :
    optional read (.ofOption write x) = .ok x := by
  cases x with
  | none => rfl
  | some a =>
    rw [Node.ofOption, optional, h a rfl]
    · rfl
    · exact hnull a

end Decode

theorem optionalString_ofOption (o : Origin) (x : Option String) :
    optionalString o (.ofOption .string x) = .ok x :=
  optional_ofOption (fun _ => Node.noConfusion) fun _ _ => rfl

namespace Format

def IsSized : Format → Prop
  | number decimals => decimals < twoTo 64
  | currency _ decimals => decimals < twoTo 64
  | truncate length => length < twoTo 64
  | _ => True

theorem size_ofNat (o : Origin) (n : Nat) : size o (.int n) = .ok n := by
  simp [size]

theorem takeInFrom_int (o : Origin) {n : Nat} (h : n < twoTo 64) :
    takeInFrom o (.int n) = .ok () := by
  have hlow : -(twoTo 63 : Int) ≤ n := by omega
  have hhigh : (n : Int) < twoTo 64 := by omega
  simp [takeInFrom, Node.deeperThan, takeIn, hlow, hhigh]

theorem ofEntries_kind (o : Origin) {kind : String} {s : Shape Format}
    (hkind : kinds.lookup kind = some s) {es : List (String × Node)}
    (hes : ∀ e ∈ es, e.1 ≠ "kind" ∧ takeInFrom o e.2 = .ok ()) :
    ofEntries o (("kind", .string kind) :: es) .closed = s.table o es .closed := by
  have hsplit : splitEntries o (some s) es = .ok (some s, es) := by
    induction es with
    | nil => rfl
    | cons e es ih =>
      obtain ⟨⟨hkey, htake⟩, hes⟩ := List.forall_mem_cons.mp hes
      rw [splitEntries, if_neg hkey, htake, ih hes]
      rfl
  simp [ofEntries, splitEntries, readKind, hkind, hsplit, closed, bind, Except.bind]

theorem read_node (o : Origin) {f : Format} (h : f.IsSized) : read o f.node = .ok f := by
  cases f with
  | number n =>
    refine (ofEntries_kind o rfl (by simp [takeInFrom_int o h])).trans ?_
    refine (Shape.table_named (by decide) rfl .ignored).trans ?_
    simp [Shape.sequence, Shape.positions, Field.of, size_ofNat, Except.map]
    rfl
  | currency s n =>
    have htext : takeInFrom o (.string s) = .ok () := by
      simp [takeInFrom, Node.deeperThan, takeIn]
    refine (ofEntries_kind o rfl (by simp [takeInFrom_int o h, htext])).trans ?_
    refine (Shape.table_named (by decide) rfl .ignored).trans ?_
    simp [Shape.sequence, Shape.positions, Field.of, size_ofNat, string, Except.map]
    rfl
  | upper => rfl
  | lower => rfl
  | truncate n =>
    refine (ofEntries_kind o rfl (by simp [takeInFrom_int o h])).trans ?_
    refine (Shape.table_named (by decide) rfl .ignored).trans ?_
    simp [Shape.sequence, Shape.positions, Field.of, Field.needed, size_ofNat, Except.map]
    rfl

end Format

theorem Sql.JoinKind.read_name (o : Origin) (k : Sql.JoinKind) :
    Sql.JoinKind.read o (.string k.name) = .ok k := by
  cases k <;> rfl

theorem JoinSpec.read_node (o : Origin) (j : JoinSpec) : shape.read o j.node = .ok j := by
  refine (Shape.table_named (by decide) rfl .ignored).trans ?_
  simp [Shape.sequence, Shape.positions, shape, Field.of, Field.needed, string,
    Sql.JoinKind.read_name, Except.map]
  rfl

namespace Definition

theorem unambiguous : shape.Unambiguous := by decide

theorem required_eq_false : ∀ f ∈ shape.fields, f.required = false := by
  simp [shape, Field.of, Field.formerly]

theorem read_node (o : Origin) (d : Definition) : shape.read o d.node = .ok d := by
  refine (Shape.table_named unambiguous rfl .ignored).trans ?_
  simp [Shape.sequence, Shape.positions, shape, Field.of, Field.formerly, string, strings_strings,
    optionalString_ofOption, Except.map]
  rfl

def stored (d : Definition) (name : String) : Option Node := d.node.get? name

theorem shows : shape.Shows stored where
  ext {a b} h := by
    have hnode : a.node = b.node := by
      simp [shape, Field.of, Field.formerly, stored, node, Node.ofEntries, Node.get?,
        List.lookup_cons] at h
      simp [node, h]
    -- what is stored says all, since it can be read back
    have hread := read_node .jsonValue a
    rw [hnode, read_node] at hread
    exact (Except.ok.inj hread).symm
  fields := by
    simp only [shape, List.forall_mem_cons]
    refine ⟨?_, ?_, ?_, ?_, ?_, ?_, ?_, ?_, ?_, ?_, ?_, ?_, ?_, ?_, List.forall_mem_nil _⟩
    all_goals
      refine Field.isShown_of _ _ (fun a b v => rfl) fun a v other hother => ?_
      simp only [stored, node, Node.ofEntries, Node.get?, List.lookup_cons, beq_false_of_ne hother]

end Definition

namespace CatalogField

def IsSized (f : CatalogField) : Prop := ∀ format ∈ f.format, format.IsSized

theorem read_node (o : Origin) {f : CatalogField} (h : f.IsSized) :
    shape.read o f.node = .ok f := by
  have hformat : optional (Format.read o) (.ofOption Format.node f.format) = .ok f.format :=
    optional_ofOption (fun format => by cases format <;> exact Node.noConfusion)
      fun format hformat => Format.read_node o (h format hformat)
  refine (Shape.table_named (by decide) rfl .ignored).trans ?_
  simp [Shape.sequence, Shape.positions, shape, Field.of, Field.needed, string, Decode.bool,
    hformat, optionalString_ofOption, Except.map]
  rfl

end CatalogField

namespace Catalog

def IsSized (c : Catalog) : Prop := ∀ f ∈ c.fields, f.IsSized

theorem read_node (o : Origin) {c : Catalog} (h : c.IsSized) : shape.read o c.node = .ok c := by
  have hfields : list o (CatalogField.shape.read o)
      (.list (c.fields.map CatalogField.node) .closed) = .ok c.fields :=
    list_map o fun f hf => CatalogField.read_node o (h f hf)
  have hjoins : list o (JoinSpec.shape.read o) (.list (c.joins.map JoinSpec.node) .closed) =
      .ok c.joins := list_map o fun j _ => JoinSpec.read_node o j
  refine (Shape.table_named (by decide) rfl .ignored).trans ?_
  simp [Shape.sequence, Shape.positions, shape, Field.of, Field.needed, string,
    optionalString_ofOption, hfields, hjoins, Except.map]
  rfl

end Catalog

namespace DefinitionFile

def IsSized (f : DefinitionFile) : Prop := f.catalog.IsSized

theorem read_node (o : Origin) {f : DefinitionFile} (h : f.IsSized) :
    shape.read o f.node = .ok f := by
  refine (Shape.table_named (by decide) rfl .ignored).trans ?_
  simp [Shape.sequence, Shape.positions, shape, Field.of, Field.needed, Catalog.read_node o h,
    Definition.read_node, Except.map]
  rfl

end DefinitionFile

namespace Json

theorem arePlain_iff {ns : List Node} : ArePlain ns ↔ ∀ n ∈ ns, IsPlain n := by
  induction ns with
  | nil => simp [ArePlain]
  | cons n ns ih => rw [ArePlain, ih, List.forall_mem_cons]

theorem isPlain_strings (ss : List String) : IsPlain (.strings ss) := by
  refine ⟨rfl, arePlain_iff.mpr fun n hn => ?_⟩
  obtain ⟨s, -, rfl⟩ := List.mem_map.mp hn
  trivial

theorem isPlain_ofOption {α : Type} {write : α → Node} {x : Option α}
    (h : ∀ a ∈ x, IsPlain (write a)) : IsPlain (.ofOption write x) := by
  cases x with
  | none => trivial
  | some a => exact h a rfl

theorem isPlain_size {n : Nat} (h : n < twoTo 64) : IsPlain (.int n) := by
  show IsWord n
  unfold IsWord
  omega

theorem isPlain_format {f : Format} (h : f.IsSized) : IsPlain f.node := by
  cases f with
  | number n => exact ⟨rfl, trivial, isPlain_size h, trivial⟩
  | currency s n => exact ⟨rfl, trivial, trivial, isPlain_size h, trivial⟩
  | upper => exact ⟨rfl, trivial, trivial⟩
  | lower => exact ⟨rfl, trivial, trivial⟩
  | truncate n => exact ⟨rfl, trivial, isPlain_size h, trivial⟩

theorem isPlain_field {f : CatalogField} (h : f.IsSized) : IsPlain f.node :=
  ⟨rfl, trivial, isPlain_ofOption fun _ _ => trivial, trivial,
    isPlain_ofOption fun format hformat => isPlain_format (h format hformat), trivial⟩

theorem isPlain_join (j : JoinSpec) : IsPlain j.node :=
  ⟨rfl, trivial, trivial, trivial, trivial, trivial⟩

theorem isPlain_catalog {c : Catalog} (h : c.IsSized) : IsPlain c.node := by
  have hfields : IsPlain (.list (c.fields.map CatalogField.node) .closed) := by
    refine ⟨rfl, arePlain_iff.mpr fun n hn => ?_⟩
    obtain ⟨f, hf, rfl⟩ := List.mem_map.mp hn
    exact isPlain_field (h f hf)
  have hjoins : IsPlain (.list (c.joins.map JoinSpec.node) .closed) := by
    refine ⟨rfl, arePlain_iff.mpr fun n hn => ?_⟩
    obtain ⟨j, -, rfl⟩ := List.mem_map.mp hn
    exact isPlain_join j
  exact ⟨rfl, trivial, trivial, isPlain_ofOption fun _ _ => trivial, trivial, hfields, hjoins,
    trivial⟩

theorem isPlain_definition (d : Definition) : IsPlain d.node := by
  have hpaginate : IsPlain (.ofOption .string d.paginateBy) := isPlain_ofOption fun _ _ => trivial
  refine ⟨rfl, ?_⟩
  simp only [ArePlainEntries, isPlain_strings, hpaginate, IsPlain, and_self]

theorem isPlain_file {f : DefinitionFile} (h : f.IsSized) : IsPlain f.node :=
  ⟨rfl, isPlain_catalog h, isPlain_definition f.report, trivial⟩

end Json

theorem DefinitionFile.ofJsonText_text {f : DefinitionFile} (h : f.IsSized) :
    ofJsonText (Json.text f.node) = .ok f := by
  rw [ofJsonText, ofJson, Json.read_text (Json.isPlain_file h)]
  simp [read_node .jsonText h, bind, Except.bind, pure, Except.pure, Except.mapError]

namespace Definition

/--
A stored file is read back as it was. A definition does not depend on which of its two names a field
goes by, on entries under other names, or on entries that repeat a default; a field given twice is a
fault, though one that stands before the second entry is reported first.
-/
theorem stored_and_restated :
    (∀ f : DefinitionFile, f.IsSized → DefinitionFile.ofJsonText (Json.text f.node) = .ok f) ∧
    (∀ (o : Origin) (es es' : List (String × Node)), shape.Restates es es' →
      shape.read o (.table es .closed) = shape.read o (.table es' .closed)) ∧
    (∀ (o : Origin), ∀ f ∈ shape.fields, ∀ (key : String) (n : Node)
      (es es' : List (String × Node)), f.goesBy key = true → (∃ e ∈ es, f.goesBy e.1 = true) →
      shape.read o (.table (es ++ (key, n) :: es') .closed) =
        (shape.read o (.table es .closed)).bind fun _ => fail (.duplicateField f.name)) ∧
    (∀ (o : Origin) (es : List (String × Node)) (d : Definition),
      shape.read o (.table es .closed) = .ok d →
      (∀ f ∈ shape.fields, (∀ e ∈ es, f.goesBy e.1 = false) →
        d.stored f.name = stored {} f.name) ∧
      ∀ keep : String × Node → Bool,
        (∀ e ∈ es, keep e = false → ∀ f ∈ shape.fields, f.goesBy e.1 = true →
          d.stored f.name = stored {} f.name) →
        shape.read o (.table (es.filter keep) .closed) = .ok d) := by
  refine ⟨fun f hf => DefinitionFile.ofJsonText_text hf, ?_, ?_, ?_⟩
  · intro o es es' h
    exact Shape.table_restates unambiguous h .closed
  · intro o f hf key n es es' hkey h
    exact Shape.table_twice required_eq_false unambiguous hf hkey h n es' .closed
  · intro o es d h
    refine ⟨fun f hf hmissing => ?_, fun keep hkeep => ?_⟩
    · exact Shape.look_of_missing required_eq_false unambiguous shows h hf hmissing
    · exact Shape.table_filter required_eq_false unambiguous shows h hkeep

theorem stored_and_restated_prices :
    (let f : DefinitionFile :=
      { catalog :=
          { name := "Books", entity := "Book"
            fields := [{ name := "Price", format := some (.currency "€" 2) }] }
        report := { title := "Prices" } }
    DefinitionFile.ofJsonText (Json.text f.node) = .ok f) ∧
    (shape.read .jsonText
        (.table [("title", .string "Prices"), ("SortBy", .strings ["Price"])] .closed) =
      shape.read .jsonText
        (.table [("Title", .string "Prices"), ("note", .null), ("sort_fields", .strings ["Price"])]
          .closed)) ∧
    (shape.read .jsonText (.table [("title", .string "Prices"), ("Title", .null)] .closed) =
      fail (.duplicateField "title")) ∧
    (stored { title := "Prices" } "page_header" = stored {} "page_header") ∧
    shape.read .jsonText
        (.table ([("title", .string "Prices"), ("PageHeader", .string "$name")].filter
          fun e => e.1 != "PageHeader") .closed) =
      .ok { title := "Prices" } := by
  obtain ⟨hstored, hrestated, htwice, hread⟩ := stored_and_restated
  refine ⟨hstored _ ?_, hrestated .jsonText _ _ ?_, ?_, ?_, ?_⟩
  · intro f hf format hformat
    obtain rfl := List.mem_singleton.mp hf
    obtain rfl := Option.some.inj hformat
    show 2 < twoTo 64
    decide
  · refine .field List.mem_cons_self rfl rfl _ (.right (by decide) rfl ?_)
    exact .field (f := shape.fields[9]) (List.getElem_mem _) rfl rfl _ .nil
  · exact htwice .jsonText _ List.mem_cons_self "Title" .null [("title", .string "Prices")] [] rfl
      ⟨_, List.mem_cons_self, rfl⟩
  · have hmissing := (hread .jsonText [("title", .string "Prices")] { title := "Prices" } rfl).1
    exact hmissing shape.fields[8] (List.getElem_mem _) (by decide)
  · refine (hread .jsonText [("title", .string "Prices"), ("PageHeader", .string "$name")]
      { title := "Prices" } rfl).2 _ ?_
    intro e he hdrop f hf hkey
    have hheader : e.1 = "PageHeader" := by simpa using hdrop
    have hmem : shape.fields[8] ∈ shape.fields := List.getElem_mem _
    have hfield := Shape.find?_goesBy unambiguous hmem
      (rfl : shape.fields[8].goesBy "PageHeader" = true)
    rw [← hheader, Shape.find?_goesBy unambiguous hf hkey] at hfield
    rw [Option.some.inj hfield]
    rfl

/-- A title that is no text comes before the second title. -/
theorem not_forall_duplicateField :
    ¬∀ es : List (String × Node), ∀ f ∈ shape.fields, (∃ e ∈ es, e.1 = f.name) →
      (∃ e ∈ es, f.legacy = some e.1) →
      shape.read .jsonText (.table es .closed) = fail (.duplicateField f.name) := by
  intro h
  have htitle := h [("title", .int 5), ("Title", .string "x")] _ List.mem_cons_self
    ⟨_, List.mem_cons_self, rfl⟩ ⟨_, List.mem_cons_of_mem _ List.mem_cons_self, rfl⟩
  have hread : shape.read .jsonText
      (.table [("title", .int 5), ("Title", .string "x")] .closed) =
      fail (.invalidType (intText 5) "a string") := rfl
  rw [hread] at htitle
  cases htitle

end Definition

end Reporting
