import Reporting.Delivery
import Reporting.Proofs.Convert.Command

/-! How the making of a stored report can end. The report is first written to a temporary file; then
its folder is made, the file is copied there, and it is removed. Each step may fail. -/

namespace Reporting

namespace Pipeline

variable {p : Pipeline} {d : Definition} {format : OutputFormat} {s : Surroundings}

def HasTidyConverter (p : Pipeline) : Prop := ∀ c, p.converter = some c → c.Tidy

def copying : Pipeline :=
  { catalog := { name := "Books", entity := "Book" }
    source := fun _ => .ok []
    converter := some (CommandConverter.converter .copying ⟨"cp", [], "/tmp"⟩)
    tempDir := "/tmp" }

theorem hasTidyConverter_copying : copying.HasTidyConverter := by
  intro c hc
  rw [← Option.some.inj hc]
  exact CommandConverter.tidy_converter (CommandConverter.confines_copying "cp" "/tmp")

/-- What a report is rendered as before any conversion; nothing, if nothing renders the format. -/
def draft (p : Pipeline) (d : Definition) (format : String) (now : Timestamp) :
    Except ReportError (Option String) :=
  match p.prepare d format now with
  | .error e => .error e
  | .ok sheet =>
    match p.renderers.get? (renderFormat format).1 with
    | none => .ok none
    | some renderer =>
      match renderer.render sheet with
      | .error e => .error (.render e)
      | .ok text => .ok (some text)

theorem create_eq (p : Pipeline) (d : Definition) (format : String) (delivery : Delivery)
    (s : Surroundings) :
    p.create d format delivery s =
      match p.draft d format s.now with
      | .error e => (.error e, s)
      | .ok none => (.ok (.placeholder (placeholder format)), s)
      | .ok (some text) =>
        if (renderFormat format).2 then p.convert text format delivery s
        else p.deliver text format delivery s := by
  unfold create draft
  cases p.prepare d format s.now with
  | error e => rfl
  | ok sheet =>
    dsimp only
    cases p.renderers.get? (renderFormat format).1 with
    | none => rfl
    | some renderer =>
      dsimp only
      cases renderer.render sheet <;> rfl

/-- The document that a report is stored as: the rendered text, or what the converter makes of it. -/
def rendering (p : Pipeline) (d : Definition) (format : String) (s : Surroundings) :
    Option ByteArray :=
  match p.draft d format s.now with
  | .ok (some text) =>
    if (renderFormat format).2 then
      p.converter.bind fun c =>
        match c.toFile text p.tempDir s.files with
        | (.ok (some path), t) => (t.read path).toOption
        | _ => none
    else some text.toUTF8
  | _ => none

structure Written (p : Pipeline) (d : Definition) (format : OutputFormat) (s : Surroundings)
    (path : String) (content : ByteArray) (s' : Surroundings) : Prop where
  created : p.create d format.name .store s = (.ok (.file path), s')
  rendered : p.rendering d format.name s = some content
  adds : s.files.Adds p.tempDir path content s'.files

theorem deliver_store {text name : String} {result : Except ReportError Artifact}
    {s' : Surroundings} (h : p.deliver text name .store s = (result, s')) :
    (∃ path t, result = .ok (.file path) ∧ s' = { s with files := t } ∧
        s.files.Adds p.tempDir path text.toUTF8 t) ∨
      (∃ e, result = .error e) ∧ s' = s := by
  have hslash : '/' ∈ name.toList → '/' ∈ ("." ++ name).toList := by
    rw [String.toList_append]
    exact List.mem_append_right _
  unfold deliver at h
  dsimp only at h
  cases hfresh : s.files.writeFresh p.tempDir name ("." ++ name) text.toUTF8 with
  | error e =>
    rw [hfresh] at h
    cases h
    exact .inr ⟨⟨_, rfl⟩, rfl⟩
  | ok made =>
    rw [hfresh] at h
    cases h
    exact .inl ⟨_, _, rfl, rfl, Tree.adds_of_writeFresh hslash hfresh⟩

theorem convert_store (hc : p.HasTidyConverter) {text name : String}
    {result : Except ReportError Artifact} {s' : Surroundings}
    (h : p.convert text name .store s = (result, s')) :
    (∃ c path content, p.converter = some c ∧ result = .ok (.file path) ∧
        c.toFile text p.tempDir s.files = (.ok (some path), s'.files) ∧
        s.files.Adds p.tempDir path content s'.files) ∨
      (∃ e, result = .error e) ∧ s'.files.entryAt = s.files.entryAt := by
  unfold convert at h
  cases hconverter : p.converter with
  | none =>
    rw [hconverter] at h
    cases h
    exact .inr ⟨⟨_, rfl⟩, rfl⟩
  | some c =>
    have htidy := hc c hconverter
    rw [hconverter] at h
    dsimp only at h
    split at h
    · rename_i hfile
      cases h
      exact .inr ⟨⟨_, rfl⟩, htidy.failed hfile⟩
    · rename_i hfile
      cases h
      exact .inr ⟨⟨_, rfl⟩, htidy.without hfile⟩
    · rename_i hfile
      cases h
      obtain ⟨content, hadds⟩ := htidy.stored hfile
      exact .inl ⟨c, _, content, rfl, rfl, hfile, hadds⟩

theorem create_store (hc : p.HasTidyConverter) {result : Except ReportError Artifact}
    {s' : Surroundings} (h : p.create d format.name .store s = (result, s')) :
    (∃ path content, result = .ok (.file path) ∧ p.Written d format s path content s') ∨
      (∀ path, result ≠ .ok (.file path)) ∧ s'.files.entryAt = s.files.entryAt := by
  have hcreate := h
  rw [create_eq] at h
  cases hdraft : p.draft d format.name s.now with
  | error e =>
    rw [hdraft] at h
    cases h
    exact .inr ⟨fun _ => nofun, rfl⟩
  | ok drafted =>
    rw [hdraft] at h
    cases drafted with
    | none =>
      cases h
      exact .inr ⟨fun _ => nofun, rfl⟩
    | some text =>
      dsimp only at h
      cases hconverted : (renderFormat format.name).2 with
      | false =>
        rw [hconverted, if_neg Bool.false_ne_true] at h
        rcases deliver_store h with ⟨path, t, rfl, rfl, hadds⟩ | ⟨⟨e, rfl⟩, rfl⟩
        · refine .inl ⟨path, _, rfl, hcreate, ?_, hadds⟩
          simp only [rendering, hdraft, hconverted, Bool.false_eq_true, if_false]
        · exact .inr ⟨fun _ => nofun, rfl⟩
      | true =>
        rw [hconverted, if_pos rfl] at h
        rcases convert_store hc h with
          ⟨c, path, content, hconverter, rfl, hfile, hadds⟩ | ⟨⟨e, rfl⟩, hsame⟩
        · refine .inl ⟨path, content, rfl, hcreate, ?_, hadds⟩
          simp only [rendering, hdraft, hconverted, hconverter, hfile, hadds.read,
            Option.bind_some, if_true, Except.toOption]
        · exact .inr ⟨fun _ => nofun, hsame⟩

/-- How a call ends: what it answers, the record, and the surroundings it leaves. -/
inductive Ending (p : Pipeline) (archive : Archive) (r : Record) (format : OutputFormat)
    (s : Surroundings) : Except ReportError StoredFile × Record × Surroundings → Prop
  | unwritten {e s'} (created : ∀ path s₁, p.create r.definition format.name .store s ≠
      (.ok (.file path), s₁)) (same : s'.files.entryAt = s.files.entryAt) :
      Ending p archive r format s (.error e, r, s')
  | stranded {path content s₁ e t} (written : p.Written r.definition format s path content s₁)
      (made : archive.folder r.reportId r.id s₁.files = (.error e, t)) :
      Ending p archive r format s (.error (.storage e), r, { s₁ with files := t })
  | refused {path content s₁ folder t₁ e t₂}
      (written : p.Written r.definition format s path content s₁)
      (made : archive.folder r.reportId r.id s₁.files = (.ok folder, t₁))
      (copied : archive.store folder (StoredName.ofTitle r.definition.title format) path t₁ =
        (.error e, t₂)) :
      Ending p archive r format s (.error (.storage e), r, { s₁ with files := t₂.remove path })
  | kept {path content s₁ folder t₁ stored t₂}
      (written : p.Written r.definition format s path content s₁)
      (made : archive.folder r.reportId r.id s₁.files = (.ok folder, t₁))
      (copied : archive.store folder (StoredName.ofTitle r.definition.title format) path t₁ =
        (.ok stored, t₂)) :
      Ending p archive r format s
        (.ok stored, r.setFile format stored.path, { s₁ with files := t₂.remove path })

theorem ending_generate (hc : p.HasTidyConverter) (archive : Archive) (r : Record)
    (format : OutputFormat) (s : Surroundings) :
    p.Ending archive r format s (p.generate archive r format s) := by
  unfold generate
  cases hcreate : p.create r.definition format.name .store s with
  | mk result s₁ =>
    rcases create_store hc hcreate with ⟨path, content, rfl, hwritten⟩ | ⟨hne, hsame⟩
    · dsimp only
      cases hfolder : archive.folder r.reportId r.id s₁.files with
      | mk result t₁ =>
        cases result with
        | error e => exact .stranded hwritten hfolder
        | ok folder =>
          dsimp only
          cases hstore : archive.store folder (StoredName.ofTitle r.definition.title format) path
            t₁ with
          | mk result t₂ =>
            cases result with
            | error e => exact .refused hwritten hfolder hstore
            | ok stored => exact .kept hwritten hfolder hstore
    · have hcreated : ∀ path s', p.create r.definition format.name .store s ≠
          (.ok (.file path), s') := by
        intro path s' h
        rw [hcreate] at h
        exact hne path (Prod.mk.inj h).1
      cases result with
      | error e => exact .unwritten hcreated hsame
      | ok artifact =>
        cases artifact with
        | file path => exact absurd rfl (hne path)
        | content text => exact .unwritten hcreated hsame
        | binary bytes => exact .unwritten hcreated hsame
        | placeholder text => exact .unwritten hcreated hsame
        | streamed => exact .unwritten hcreated hsame

end Pipeline

end Reporting
