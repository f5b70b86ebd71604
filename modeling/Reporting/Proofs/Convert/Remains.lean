import Reporting.Programs
import Reporting.Proofs.Convert.Command

/-! What a conversion leaves behind. The temporary files go again however it ends, but for a document
that is to be kept. What is kept is what the program has left in the place of its output: nothing, if
it has taken the file away. -/

namespace Reporting

open Reporting.Path (place)

namespace CommandConverter

variable (programs : Programs) (c : CommandConverter) (text directory : String) (t : Tree)

def Touches : Prop :=
  ∀ {input output t content ended}, t.read output = .ok content →
    programs c.command (c.arguments input output) t = .ok ended →
      ∀ l, l ≠ place output → ended.files.entryAt l = t.entryAt l

def Ran (output : String) (ended : Ended) : Prop :=
  ∃ input t₂, c.prepare text directory t = (.ok (input, output), t₂) ∧
    programs c.command (c.arguments input output) t₂ = .ok ended

def Outputs (output : String) (content : ByteArray) : Prop :=
  ∃ ended, c.Ran programs text directory t output ended ∧ ended.status = .exited 0 ∧
    ended.files.read output = .ok content

/-- One new file, with what the program put out, or nothing new at all if there is no success. -/
def StoresOnly : Prop :=
  match c.toFile programs text directory t with
  | (.ok made, t') => ∃ path content, made = some path ∧ t.Adds directory path content t' ∧
      c.Outputs programs text directory t path content
  | (.error _, t') => t'.entryAt = t.entryAt

/-- Nothing new, and the client has received what the program put out if all went well. It never has
more than a beginning of that, and not a byte of a program that did not succeed. -/
def SendsOnly (client : Client) : Prop :=
  match c.toClient programs text client t with
  | (result, client', t') => t'.entryAt = t.entryAt ∧
      (result = .ok () → ∃ output bytes, c.Outputs programs text c.workDir t output bytes ∧
        client'.received = client.received ++ bytes) ∧
      (client'.received ≠ client.received → ∃ output bytes taken,
        c.Outputs programs text c.workDir t output bytes ∧
          client'.received = client.received ++ bytes.extract 0 taken)

variable {programs c text directory t} {input output : String} {t₂ : Tree} {ended : Ended}
  {client : Client}

theorem Confines.touches (h : c.Confines programs) : c.Touches programs := by
  intro input output t content ended hread hended
  obtain ⟨content', hwrites⟩ := h hread hended
  exact hwrites.rest

/-! ### The run of the program -/

theorem prepare_ok (h : c.prepare text directory t = (.ok (input, output), t₂)) :
    ∃ t₁, t.Adds c.workDir input text.toUTF8 t₁ ∧ t₁.Adds directory output .empty t₂ := by
  rcases prepare_cases h with ⟨input', output', t₁, hresult, hinput, houtput⟩ | ⟨⟨e, he⟩, -⟩
  · obtain ⟨rfl, rfl⟩ := Prod.mk.inj (Except.ok.inj hresult)
    exact ⟨t₁, hinput, houtput⟩
  · cases he

theorem prepare_error {e : ConvertError} (h : c.prepare text directory t = (.error e, t₂)) :
    t₂.entryAt = t.entryAt := by
  rcases prepare_cases h with ⟨input', output', t₁, hresult, -, -⟩ | ⟨-, hsame⟩
  · cases hresult
  · exact hsame

theorem forall_ran_of_error {e : ConvertError}
    (h : c.prepare text directory t = (.error e, t₂)) {p : String → Ended → Prop}
    (output : String) (ended : Ended) (hran : c.Ran programs text directory t output ended) :
    p output ended := by
  obtain ⟨input, t', hprepare, -⟩ := hran
  rw [h] at hprepare
  cases hprepare

theorem ran_iff (hprepare : c.prepare text directory t = (.ok (input, output), t₂))
    {output' : String} : c.Ran programs text directory t output' ended ↔
      output' = output ∧ programs c.command (c.arguments input output) t₂ = .ok ended := by
  constructor
  · rintro ⟨input', t', hprepare', hended⟩
    rw [hprepare] at hprepare'
    obtain ⟨hfiles, rfl⟩ := Prod.mk.inj hprepare'
    obtain ⟨rfl, rfl⟩ := Prod.mk.inj (Except.ok.inj hfiles)
    exact ⟨rfl, hended⟩
  · rintro ⟨rfl, hended⟩
    exact ⟨input, t₂, hprepare, hended⟩

theorem forall_ran_of_not_started
    (hprepare : c.prepare text directory t = (.ok (input, output), t₂)) {reason : String}
    (hended : programs c.command (c.arguments input output) t₂ = .error reason)
    {p : String → Ended → Prop} (output' : String) (ended : Ended)
    (hran : c.Ran programs text directory t output' ended) : p output' ended := by
  rw [ran_iff hprepare, hended] at hran
  cases hran.2

theorem forall_ran_iff (hprepare : c.prepare text directory t = (.ok (input, output), t₂))
    (hended : programs c.command (c.arguments input output) t₂ = .ok ended)
    {p : String → Ended → Prop} :
    (∀ output ended, c.Ran programs text directory t output ended → p output ended) ↔
      p output ended := by
  refine ⟨fun h => h output ended ((ran_iff hprepare).mpr ⟨rfl, hended⟩), ?_⟩
  intro h output' ended' hran
  obtain ⟨rfl, hended'⟩ := (ran_iff hprepare).mp hran
  rw [hended] at hended'
  rwa [← Except.ok.inj hended']

/-! ### What is left -/

theorem exists_stored_iff {t₁ : Tree} (hinput : t.Adds c.workDir input text.toUTF8 t₁)
    (houtput : t₁.Adds directory output .empty t₂)
    (hspared : ∀ l, l ≠ place output → ended.files.entryAt l = t₂.entryAt l)
    (hran : c.Ran programs text directory t output ended) (hexited : ended.status = .exited 0) :
    (∃ path content, some output = some path ∧
        t.Adds directory path content (ended.files.remove input) ∧
        c.Outputs programs text directory t path content) ↔
      ended.files.entryAt (place output) ≠ some .directory ∧
        ended.files.entryAt (place output) ≠ none := by
  constructor
  · rintro ⟨path, content, hpath, hadds, -⟩
    obtain rfl := Option.some.inj hpath
    rw [(adds_output_iff hinput houtput hspared).mp hadds]
    exact ⟨nofun, nofun⟩
  · rintro ⟨hdirectory, hthere⟩
    have hleads : ended.files.locate output = .ok (place output) :=
      (houtput.keepsDirectories hspared).locate houtput.leads
    cases hentry : ended.files.entryAt (place output) with
    | none => exact absurd hentry hthere
    | some x =>
      cases x with
      | directory => exact absurd hentry hdirectory
      | file content =>
        exact ⟨output, content, rfl, (adds_output_iff hinput houtput hspared).mpr hentry, ended,
          hran, hexited, Tree.read_eq_ok_iff.mpr ⟨hleads, hentry⟩⟩

theorem storesOnly_iff (h : c.Touches programs) : c.StoresOnly programs text directory t ↔
    ∀ output ended, c.Ran programs text directory t output ended →
      ended.files.entryAt (place output) ≠ some .directory ∧
        (ended.status = .exited 0 → ended.files.entryAt (place output) ≠ none) := by
  unfold StoresOnly toFile
  cases hprepare : c.prepare text directory t with
  | mk prepared t₂ =>
    cases prepared with
    | error e =>
      exact iff_of_true (prepare_error hprepare) (forall_ran_of_error hprepare)
    | ok files =>
      obtain ⟨input, output⟩ := files
      obtain ⟨t₁, hinput, houtput⟩ := prepare_ok hprepare
      dsimp only [run]
      cases hended : programs c.command (c.arguments input output) t₂ with
      | error reason =>
        exact iff_of_true (entryAt_removed hinput houtput (Tree.writes_of_read houtput.read))
          (forall_ran_of_not_started hprepare hended)
      | ok ended =>
        have hspared := h houtput.read hended
        have hran := (ran_iff hprepare).mpr ⟨rfl, hended⟩
        rw [forall_ran_iff hprepare hended]
        by_cases hexited : ended.status = .exited 0
        · simp only [hexited, if_true, true_implies]
          exact exists_stored_iff hinput houtput hspared hran hexited
        · simp only [hexited, if_false, false_implies, and_true]
          exact entryAt_cleared_iff hinput houtput hspared

theorem files_run (hended : programs c.command (c.arguments input output) t = .ok ended) :
    (c.run programs input output t).2 = ended.files := by
  unfold run
  rw [hended]
  dsimp only
  split <;> rfl

theorem exited_of_run {u : Tree} (h : c.run programs input output t = (.ok (), u)) :
    ∃ ended, programs c.command (c.arguments input output) t = .ok ended ∧
      ended.status = .exited 0 ∧ ended.files = u := by
  unfold run at h
  split at h
  · cases h
  · rename_i ended hended
    split at h
    · rename_i hexited
      cases h
      exact ⟨ended, hended, hexited, rfl⟩
    · cases h

theorem files_toClient (hprepare : c.prepare text c.workDir t = (.ok (input, output), t₂)) :
    (c.toClient programs text client t).2.2 =
      ((c.run programs input output t₂).2.remove output).remove input := by
  unfold toClient
  rw [hprepare]
  dsimp only
  cases c.run programs input output t₂ with
  | mk ran u =>
    cases ran with
    | error e => rfl
    | ok =>
      dsimp only
      cases u.read output with
      | error e => rfl
      | ok bytes =>
        dsimp only
        rcases client.send bytes with ⟨_ | _, _⟩ <;> rfl

theorem entryAt_toClient_iff (h : c.Touches programs) :
    (c.toClient programs text client t).2.2.entryAt = t.entryAt ↔
      ∀ output ended, c.Ran programs text c.workDir t output ended →
        ended.files.entryAt (place output) ≠ some .directory := by
  cases hprepare : c.prepare text c.workDir t with
  | mk prepared t₂ =>
    cases prepared with
    | error e =>
      have hleft : (c.toClient programs text client t).2.2 = t₂ := by rw [toClient, hprepare]
      rw [hleft]
      exact iff_of_true (prepare_error hprepare) (forall_ran_of_error hprepare)
    | ok files =>
      obtain ⟨input, output⟩ := files
      obtain ⟨t₁, hinput, houtput⟩ := prepare_ok hprepare
      rw [files_toClient hprepare]
      cases hended : programs c.command (c.arguments input output) t₂ with
      | error reason =>
        have hleft : (c.run programs input output t₂).2 = t₂ := by rw [run, hended]
        rw [hleft]
        exact iff_of_true (entryAt_removed hinput houtput (Tree.writes_of_read houtput.read))
          (forall_ran_of_not_started hprepare hended)
      | ok ended =>
        rw [files_run hended, forall_ran_iff hprepare hended]
        exact entryAt_cleared_iff hinput houtput (h houtput.read hended)

theorem received_toClient {result : Except ConvertError Unit} {client' : Client} {t' : Tree}
    (h : c.toClient programs text client t = (result, client', t')) :
    (result = .ok () → ∃ output bytes, c.Outputs programs text c.workDir t output bytes ∧
        client'.received = client.received ++ bytes) ∧
      (client'.received ≠ client.received → ∃ output bytes taken,
        c.Outputs programs text c.workDir t output bytes ∧
          client'.received = client.received ++ bytes.extract 0 taken) := by
  unfold toClient at h
  cases hprepare : c.prepare text c.workDir t with
  | mk prepared t₂ =>
    rw [hprepare] at h
    cases prepared with
    | error e =>
      cases h
      exact ⟨nofun, fun hne => absurd rfl hne⟩
    | ok files =>
      obtain ⟨input, output⟩ := files
      dsimp only at h
      cases hrun : c.run programs input output t₂ with
      | mk ran u =>
        rw [hrun] at h
        cases ran with
        | error e =>
          cases h
          exact ⟨nofun, fun hne => absurd rfl hne⟩
        | ok =>
          obtain ⟨ended, hended, hexited, rfl⟩ := exited_of_run hrun
          have hran : c.Ran programs text c.workDir t output ended :=
            (ran_iff hprepare).mpr ⟨rfl, hended⟩
          dsimp only at h
          cases hread : ended.files.read output with
          | error e =>
            rw [hread] at h
            cases h
            exact ⟨nofun, fun hne => absurd rfl hne⟩
          | ok bytes =>
            have houtputs : c.Outputs programs text c.workDir t output bytes :=
              ⟨ended, hran, hexited, hread⟩
            rw [hread] at h
            dsimp only at h
            obtain ⟨taken, htaken⟩ := client.exists_received_send bytes
            refine ⟨?_, fun _ => ⟨output, bytes, taken, houtputs, ?_⟩⟩
            · rintro rfl
              split at h
              · cases h
              · rename_i hsend
                cases h
                exact ⟨output, bytes, houtputs, Client.received_of_send hsend⟩
            · split at h <;> rename_i hsend <;> cases h <;> rwa [hsend] at htaken

theorem sendsOnly_iff (h : c.Touches programs) : c.SendsOnly programs text t client ↔
    ∀ output ended, c.Ran programs text c.workDir t output ended →
      ended.files.entryAt (place output) ≠ some .directory := by
  rw [← entryAt_toClient_iff h]
  exact and_iff_left (received_toClient rfl)

/-- Of a conversion by a program that touches only its output there remains the document, if it is to
be kept, and nothing else: that is so just as long as the program leaves no directory in the place of
its output, nor takes away a document that is to be kept. -/
theorem storesOnly_and_sendsOnly_iff (h : c.Touches programs) :
    (c.StoresOnly programs text directory t ↔
      ∀ output ended, c.Ran programs text directory t output ended →
        ended.files.entryAt (place output) ≠ some .directory ∧
          (ended.status = .exited 0 → ended.files.entryAt (place output) ≠ none)) ∧
      (c.SendsOnly programs text t client ↔
        ∀ output ended, c.Ran programs text c.workDir t output ended →
          ended.files.entryAt (place output) ≠ some .directory) :=
  ⟨storesOnly_iff h, sendsOnly_iff h⟩

theorem Confines.exists_file (h : c.Confines programs)
    (hran : c.Ran programs text directory t output ended) :
    ∃ content, ended.files.entryAt (place output) = some (.file content) := by
  obtain ⟨input, t₂, hprepare, hended⟩ := hran
  obtain ⟨t₁, -, houtput⟩ := prepare_ok hprepare
  obtain ⟨content, hwrites⟩ := h houtput.read hended
  exact ⟨content, hwrites.holds⟩

def onlyTmp : Tree := ⟨.ofList [(["tmp"], .directory)]⟩

theorem storesOnly_and_sendsOnly_copying :
    Touches .copying ⟨"cp", [], "/tmp"⟩ ∧
      (toFile .copying ⟨"cp", [], "/tmp"⟩ "<p>" "/tmp" onlyTmp).1 =
        .ok (some "/tmp/pdf000001.pdf") ∧
      StoresOnly .copying ⟨"cp", [], "/tmp"⟩ "<p>" "/tmp" onlyTmp ∧
      SendsOnly .copying ⟨"cp", [], "/tmp"⟩ "<p>" onlyTmp .new := by
  have hconfines : Confines ⟨"cp", [], "/tmp"⟩ .copying := confines_copying "cp" "/tmp"
  obtain ⟨hstores, hsends⟩ := storesOnly_and_sendsOnly_iff hconfines.touches
  refine ⟨hconfines.touches, by decide +kernel, hstores.mpr ?_, hsends.mpr ?_⟩
  · intro output ended hran
    obtain ⟨content, hfile⟩ := hconfines.exists_file hran
    rw [hfile]
    exact ⟨nofun, nofun⟩
  · intro output ended hran
    obtain ⟨content, hfile⟩ := hconfines.exists_file hran
    rw [hfile]
    nofun

end CommandConverter

/-! ### A program that takes its output away -/

def Programs.removing : Programs := fun _ args t =>
  match args with
  | [target] => .ok ⟨.exited 0, "", t.remove target⟩
  | _ => .ok ⟨.exited 2, "", t⟩

namespace CommandConverter

def removing : CommandConverter := ⟨"rm", [outputMark], "/tmp"⟩

theorem arguments_removing (input output : String) :
    removing.arguments input output = [output] := by
  simp [arguments, removing, isTemplate, Text.occursIn, Text.replace, Text.replaceFrom, inputMark,
    outputMark]

theorem touches_removing : removing.Touches .removing := by
  intro input output t content ended hread hended l hl
  rw [arguments_removing] at hended
  cases hended
  exact Tree.entryAt_remove_of_ne t hl

def removingScript : CommandConverter := ⟨"sh", ["-c", "rm " ++ outputMark], "/tmp"⟩

-- The shell is run here, from the reading of the script on.
set_option maxRecDepth 100000 in
theorem toFile_removingScript :
    (removingScript.toFile .builtIn "<p>" "/tmp" onlyTmp).1 = .ok (some "/tmp/pdf000001.pdf") ∧
      (removingScript.toFile .builtIn "<p>" "/tmp" onlyTmp).2.entryAt
        (place "/tmp/pdf000001.pdf") = none := by
  decide +kernel

theorem not_storesOnly_removing : ¬removing.StoresOnly .removing "<p>" "/tmp" onlyTmp := by
  rw [storesOnly_iff touches_removing]
  intro hstores
  cases hprepare : removing.prepare "<p>" "/tmp" onlyTmp with
  | mk prepared t₂ =>
    have hmade : (removing.prepare "<p>" "/tmp" onlyTmp).1 =
        .ok ("/tmp/folio000000.html", "/tmp/pdf000001.pdf") := by decide +kernel
    rw [hprepare] at hmade
    obtain rfl : prepared = _ := hmade
    obtain ⟨t₁, -, houtput⟩ := prepare_ok hprepare
    have hended : Programs.removing "rm"
        (removing.arguments "/tmp/folio000000.html" "/tmp/pdf000001.pdf") t₂ =
          .ok ⟨.exited 0, "", t₂.remove "/tmp/pdf000001.pdf"⟩ := by
      rw [arguments_removing]
      rfl
    have hgone := Tree.entryAt_remove_self houtput.leads houtput.holds
    exact (hstores _ _ ((ran_iff hprepare).mpr ⟨rfl, hended⟩)).2 rfl hgone

/-- A document that its program has taken away again is reported as stored, and is not there; so it
is with a script that takes it away. -/
theorem not_forall_storesOnly :
    (¬∀ (programs : Programs) (c : CommandConverter) (text directory : String) (t : Tree),
      c.Touches programs → c.StoresOnly programs text directory t) ∧
      (removingScript.toFile .builtIn "<p>" "/tmp" onlyTmp).1 = .ok (some "/tmp/pdf000001.pdf") ∧
      (removingScript.toFile .builtIn "<p>" "/tmp" onlyTmp).2.entryAt
        (place "/tmp/pdf000001.pdf") = none :=
  ⟨fun h => not_storesOnly_removing (h _ _ "<p>" "/tmp" onlyTmp touches_removing),
    toFile_removingScript⟩

end CommandConverter

end Reporting
