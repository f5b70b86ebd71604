import Reporting.Convert.Command
import Reporting.Proofs.Files.Fresh

/-! What a converter promises: a file of its own for each document, and nothing else. A program keeps
that promise for its converter as long as it writes only the file that it is given to write, and the
document is what the program makes of the file that it is given to read. -/

namespace Reporting

open Reporting.Path (place)

/-- A converter that makes a new file for each document and otherwise touches nothing. -/
structure Converter.Tidy (c : Converter) : Prop where
  stored : ∀ {text directory t path t'}, c.toFile text directory t = (.ok (some path), t') →
    ∃ content, t.Adds directory path content t'
  without : ∀ {text directory t t'}, c.toFile text directory t = (.ok none, t') →
    t'.entryAt = t.entryAt
  failed : ∀ {text directory t e t'}, c.toFile text directory t = (.error e, t') →
    t'.entryAt = t.entryAt

/-- A tidy converter whose documents stand in a given relation to the texts they are made of. -/
structure Converter.Makes (c : Converter) (makes : String → ByteArray → Prop) : Prop where
  stored : ∀ {text directory t path t'}, c.toFile text directory t = (.ok (some path), t') →
    ∃ content, t.Adds directory path content t' ∧ makes text content
  without : ∀ {text directory t t'}, c.toFile text directory t = (.ok none, t') →
    t'.entryAt = t.entryAt
  failed : ∀ {text directory t e t'}, c.toFile text directory t = (.error e, t') →
    t'.entryAt = t.entryAt
  sent : ∀ {text client t client' t'}, c.toClient text client t = (.ok (), client', t') →
    (∃ bytes, client'.received = client.received ++ bytes ∧ makes text bytes) ∧
      t'.entryAt = t.entryAt
  unsent : ∀ {text client t e client' t'}, c.toClient text client t = (.error e, client', t') →
    t'.entryAt = t.entryAt

theorem Converter.Makes.tidy {c : Converter} {makes : String → ByteArray → Prop}
    (h : c.Makes makes) : c.Tidy :=
  ⟨fun hfile => (h.stored hfile).imp fun _ hadds => hadds.1, h.without, h.failed⟩

def CommandConverter.Confines (c : CommandConverter) (programs : Programs) : Prop :=
  ∀ {input output t content ended}, t.read output = .ok content →
    programs c.command (c.arguments input output) t = .ok ended →
      ∃ content', t.Writes output content' ended.files

/-- The program also leaves in its output what is made of its input, if it succeeds. -/
def CommandConverter.Converts (c : CommandConverter) (programs : Programs)
    (makes : String → ByteArray → Prop) : Prop :=
  ∀ {input output t text content ended}, t.read input = .ok (String.toUTF8 text) →
    t.read output = .ok content →
      programs c.command (c.arguments input output) t = .ok ended →
        ∃ content', t.Writes output content' ended.files ∧
          (ended.status = .exited 0 → makes text content')

theorem CommandConverter.Confines.converts {c : CommandConverter} {programs : Programs}
    (h : c.Confines programs) : c.Converts programs fun _ _ => True :=
  fun _ hread hended => (h hread hended).imp fun _ hwrites => ⟨hwrites, fun _ => trivial⟩

def Programs.copying : Programs := fun _ args t =>
  match args with
  | [source, target] =>
    match t.copy source target with
    | .error e => .ok ⟨.exited 1, e.message, t⟩
    | .ok (_, t) => .ok ⟨.exited 0, "", t⟩
  | _ => .ok ⟨.exited 2, "", t⟩

namespace CommandConverter

theorem writes_copying {command input output : String} {t : Tree} {content : ByteArray}
    {ended : Ended} (hread : t.read output = .ok content)
    (hended : Programs.copying command [input, output] t = .ok ended) :
    ∃ content', t.Writes output content' ended.files ∧
      (ended.status = .exited 0 → t.read input = .ok content') := by
  rw [Programs.copying] at hended
  cases hcopy : t.copy input output with
  | error e =>
    rw [hcopy] at hended
    cases hended
    exact ⟨content, Tree.writes_of_read hread, nofun⟩
  | ok copied =>
    rw [hcopy] at hended
    cases hended
    obtain ⟨content', hsource, -, hwrites⟩ := Tree.writes_of_copy hcopy
    exact ⟨content', hwrites, fun _ => hsource⟩

theorem confines_copying (command workDir : String) :
    Confines ⟨command, [], workDir⟩ .copying :=
  fun hread hended => (writes_copying hread hended).imp fun _ h => h.1

theorem converts_copying (command workDir : String) :
    Converts ⟨command, [], workDir⟩ .copying fun text bytes => bytes = text.toUTF8 := by
  intro input output t text content ended hinput hread hended
  obtain ⟨content', hwrites, hsource⟩ := writes_copying hread hended
  refine ⟨content', hwrites, fun hexited => ?_⟩
  have hsame := hsource hexited
  rw [hinput] at hsame
  exact (Except.ok.inj hsame).symm

variable {programs : Programs} {c : CommandConverter} {text directory input output : String}
  {t t' : Tree}

theorem run_writes {makes : String → ByteArray → Prop} (hprograms : c.Converts programs makes)
    {content : ByteArray} {result : Except ConvertError Unit}
    (hinput : t.read input = .ok text.toUTF8) (hread : t.read output = .ok content)
    (h : c.run programs input output t = (result, t')) :
    ∃ content', t.Writes output content' t' ∧ (result = .ok () → makes text content') := by
  unfold run at h
  split at h
  · cases h
    exact ⟨content, Tree.writes_of_read hread, nofun⟩
  · rename_i ended hended
    obtain ⟨content', hwrites, hmakes⟩ := hprograms hinput hread hended
    split at h
    · rename_i hexited
      cases h
      exact ⟨content', hwrites, fun _ => hmakes hexited⟩
    · cases h
      exact ⟨content', hwrites, nofun⟩

theorem prepare_cases (h : c.prepare text directory t = (result, t')) :
    (∃ input output t₁, result = .ok (input, output) ∧ t.Adds c.workDir input text.toUTF8 t₁ ∧
        t₁.Adds directory output .empty t') ∨
      (∃ e, result = .error e) ∧ t'.entryAt = t.entryAt := by
  unfold prepare at h
  cases hinput : t.writeFresh c.workDir "folio" ".html" text.toUTF8 with
  | error e =>
    rw [hinput] at h
    cases h
    exact .inr ⟨⟨_, rfl⟩, rfl⟩
  | ok made =>
    obtain ⟨input, t₁⟩ := made
    have hadds := Tree.adds_of_writeFresh (by decide) hinput
    rw [hinput] at h
    dsimp only at h
    cases houtput : t₁.writeFresh directory "pdf" ".pdf" .empty with
    | error e =>
      rw [houtput] at h
      cases h
      exact .inr ⟨⟨_, rfl⟩, hadds.entryAt_remove hadds.holds fun _ _ => rfl⟩
    | ok made =>
      rw [houtput] at h
      cases h
      exact .inl ⟨input, made.1, t₁, rfl, hadds,
        Tree.adds_of_writeFresh (by decide) houtput⟩

section

variable {t₁ t₂ u : Tree} {content : ByteArray} (hinput : t.Adds c.workDir input text.toUTF8 t₁)
  (houtput : t₁.Adds directory output .empty t₂)

include hinput houtput

theorem place_output_ne : place output ≠ place input :=
  (houtput.ne_of_entryAt hinput.holds).symm

theorem entryAt_output : t.entryAt (place output) = none := by
  rw [← hinput.rest _ (place_output_ne hinput houtput), houtput.fresh]

variable (hspared : ∀ l, l ≠ place output → u.entryAt l = t₂.entryAt l)

include hspared

theorem entryAt_remove_input {l : Location} (hl : l ≠ place output) :
    (u.remove input).entryAt l = t.entryAt l := by
  have hne := (place_output_ne hinput houtput).symm
  by_cases hlinput : l = place input
  · have hkept : u.entryAt (place input) = some (.file text.toUTF8) := by
      rw [hspared _ hne, houtput.rest _ hne, hinput.holds]
    have hleads : u.locate input = .ok (place input) :=
      (houtput.keepsDirectories hspared).locate (houtput.grows.keepsDirectories.locate hinput.leads)
    rw [hlinput, Tree.entryAt_remove_self hleads hkept, hinput.fresh]
  · rw [Tree.entryAt_remove_of_ne u hlinput, hspared l hl, houtput.rest l hl, hinput.rest l hlinput]

theorem adds_output_iff : t.Adds directory output content (u.remove input) ↔
    u.entryAt (place output) = some (.file content) := by
  have hsame := Tree.entryAt_remove_of_ne u (place_output_ne hinput houtput)
  refine ⟨fun h => hsame ▸ h.holds, fun hholds => ⟨houtput.inside, ?_, ?_, ?_, ?_⟩⟩
  · exact (Tree.keepsDirectories_remove u input).locate
      ((houtput.keepsDirectories hspared).locate houtput.leads)
  · exact entryAt_output hinput houtput
  · rw [hsame, hholds]
  · exact fun l hl => entryAt_remove_input hinput houtput hspared hl

theorem entryAt_cleared_iff : ((u.remove output).remove input).entryAt = t.entryAt ↔
    u.entryAt (place output) ≠ some .directory := by
  have hne := place_output_ne hinput houtput
  constructor
  · intro hsame hdirectory
    have hnew := congrFun hsame (place output)
    rw [Tree.remove_of_directory hdirectory, Tree.entryAt_remove_of_ne u hne, hdirectory,
      entryAt_output hinput houtput] at hnew
    cases hnew
  · intro hdirectory
    have hspared' : ∀ l, l ≠ place output → (u.remove output).entryAt l = t₂.entryAt l := by
      intro l hl
      rw [Tree.entryAt_remove_of_ne u hl, hspared l hl]
    funext l
    by_cases hl : l = place output
    · rw [hl, Tree.entryAt_remove_of_ne _ hne, entryAt_output hinput houtput]
      exact Tree.entryAt_remove_eq_none ((houtput.keepsDirectories hspared).locate houtput.leads)
        hdirectory
    · exact entryAt_remove_input hinput houtput hspared' hl

omit hspared

theorem entryAt_removed (hran : t₂.Writes output content u) :
    ((u.remove output).remove input).entryAt = t.entryAt :=
  (entryAt_cleared_iff hinput houtput hran.rest).mpr (by rw [hran.holds]; nofun)

theorem adds_output (hran : t₂.Writes output content u) :
    t.Adds directory output content (u.remove input) :=
  (adds_output_iff hinput houtput hran.rest).mpr hran.holds

end

theorem toFile_cases {makes : String → ByteArray → Prop} (hprograms : c.Converts programs makes)
    {result : Except ConvertError (Option String)}
    (h : c.toFile programs text directory t = (result, t')) :
    (∃ path content, result = .ok (some path) ∧ t.Adds directory path content t' ∧
        makes text content) ∨
      (∃ e, result = .error e) ∧ t'.entryAt = t.entryAt := by
  unfold toFile at h
  cases hprepare : c.prepare text directory t with
  | mk prepared t₂ =>
    rcases prepare_cases hprepare with ⟨input, output, t₁, rfl, hinput, houtput⟩ | ⟨⟨e, rfl⟩, hsame⟩
    · rw [hprepare] at h
      dsimp only at h
      cases hrun : c.run programs input output t₂ with
      | mk ran u =>
        obtain ⟨content, hran, hmakes⟩ :=
          run_writes hprograms (houtput.grows.read hinput.read) houtput.read hrun
        rw [hrun] at h
        cases ran with
        | error e =>
          cases h
          exact .inr ⟨⟨e, rfl⟩, entryAt_removed hinput houtput hran⟩
        | ok =>
          cases h
          exact .inl ⟨output, content, rfl, adds_output hinput houtput hran, hmakes rfl⟩
    · rw [hprepare] at h
      cases h
      exact .inr ⟨⟨e, rfl⟩, hsame⟩

theorem toClient_cases {makes : String → ByteArray → Prop} (hprograms : c.Converts programs makes)
    {client client' : Client} {result : Except ConvertError Unit}
    (h : c.toClient programs text client t = (result, client', t')) :
    ((∃ bytes, result = .ok () ∧ client'.received = client.received ++ bytes ∧ makes text bytes) ∨
      ∃ e, result = .error e) ∧ t'.entryAt = t.entryAt := by
  unfold toClient at h
  cases hprepare : c.prepare text c.workDir t with
  | mk prepared t₂ =>
    rcases prepare_cases hprepare with ⟨input, output, t₁, rfl, hinput, houtput⟩ | ⟨⟨e, rfl⟩, hsame⟩
    · rw [hprepare] at h
      dsimp only at h
      cases hrun : c.run programs input output t₂ with
      | mk ran u =>
        obtain ⟨content, hran, hmakes⟩ :=
          run_writes hprograms (houtput.grows.read hinput.read) houtput.read hrun
        have hremoved := entryAt_removed hinput houtput hran
        rw [hrun] at h
        cases ran with
        | error e =>
          cases h
          exact ⟨.inr ⟨e, rfl⟩, hremoved⟩
        | ok =>
          dsimp only at h
          rw [hran.read] at h
          dsimp only at h
          split at h
          · cases h
            exact ⟨.inr ⟨_, rfl⟩, hremoved⟩
          · rename_i hsend
            cases h
            exact ⟨.inl ⟨content, rfl, Client.received_of_send hsend, hmakes rfl⟩, hremoved⟩
    · rw [hprepare] at h
      cases h
      exact ⟨.inr ⟨e, rfl⟩, hsame⟩

theorem makes_converter {makes : String → ByteArray → Prop}
    (hprograms : c.Converts programs makes) : (c.converter programs).Makes makes := by
  refine ⟨fun h => ?_, fun h => ?_, fun h => ?_, fun h => ?_, fun h => ?_⟩
  · rcases toFile_cases hprograms h with ⟨path, content, hpath, hadds⟩ | ⟨⟨e, he⟩, -⟩
    · cases hpath
      exact ⟨content, hadds⟩
    · cases he
  · rcases toFile_cases hprograms h with ⟨path, content, hpath, -⟩ | ⟨⟨e, he⟩, -⟩
    · cases hpath
    · cases he
  · rcases toFile_cases hprograms h with ⟨path, content, hpath, -⟩ | ⟨-, hsame⟩
    · cases hpath
    · exact hsame
  · obtain ⟨⟨bytes, -, hsent⟩ | ⟨e, he⟩, hsame⟩ := toClient_cases hprograms h
    · exact ⟨⟨bytes, hsent⟩, hsame⟩
    · cases he
  · exact (toClient_cases hprograms h).2

theorem tidy_converter (hprograms : c.Confines programs) : (c.converter programs).Tidy :=
  (makes_converter hprograms.converts).tidy

end CommandConverter

end Reporting
