import Reporting.Proofs.Delivery.Outcome
import Reporting.Proofs.Entries

/-! What making a report promises, whatever the format and wherever the report goes. Every answer
says what has been done, and nothing else is: an answer that nothing renders the format leaves all
as it was, and so does a failure, unless the report was on its way to a client. -/

namespace Reporting

namespace Renderers

theorem get?_eq_none_iff {rs : Renderers} {name : String} :
    rs.get? name = none ↔ ∀ other ∈ rs.names, Text.lowerAscii other ≠ Text.lowerAscii name := by
  rw [get?, Entries.get?_eq_none_iff]
  constructor
  · intro h other hother hsame
    have hkey := List.mem_mergeSort.mp hother
    rw [rs.small other hkey] at hsame
    exact h (hsame ▸ hkey)
  · intro h hkey
    exact h _ (List.mem_mergeSort.mpr hkey) (Text.lowerAscii_lowerAscii name)

end Renderers

theorem renderFormat_eq (format : String) :
    renderFormat format =
      if Text.lowerAscii format = "pdf" then ("html", true) else (format, false) := by
  unfold renderFormat conversions
  by_cases h : Text.lowerAscii format = "pdf"
  · rw [if_pos h, h]
    rfl
  · have hne : (Text.lowerAscii format == "pdf") = false := beq_false_of_ne h
    rw [if_neg h, List.lookup_cons, hne]
    rfl

def Converter.on (c : Converter) (text : String) :
    (String → Tree → Except ConvertError (Option String) × Tree) ×
      (Client → Tree → Except ConvertError Unit × Client × Tree) :=
  (c.toFile text, c.toClient text)

namespace Pipeline

variable {p : Pipeline} {makes : String → ByteArray → Prop} {d : Definition} {format : String}
  {delivery : Delivery} {s : Surroundings}

def IsDocument (p : Pipeline) (makes : String → ByteArray → Prop) (d : Definition) (format : String)
    (now : Timestamp) (bytes : ByteArray) : Prop :=
  ∃ text, p.draft d format now = .ok (some text) ∧
    if Text.lowerAscii format = "pdf" then makes text bytes else bytes = text.toUTF8

inductive Handed (p : Pipeline) (isDocument : ByteArray → Prop) (s : Surroundings) :
    Delivery → Except ReportError Artifact × Surroundings → Prop
  | content {text : String} (h : isDocument text.toUTF8) :
      Handed p isDocument s .inline (.ok (.content text), s)
  | binary {bytes : ByteArray} {t : Tree} (h : isDocument bytes)
      (same : t.entryAt = s.files.entryAt) :
      Handed p isDocument s .inline (.ok (.binary bytes), { s with files := t })
  | file {path : String} {bytes : ByteArray} {t : Tree} (h : isDocument bytes)
      (adds : s.files.Adds p.tempDir path bytes t) :
      Handed p isDocument s .store (.ok (.file path), { s with files := t })
  | streamed {bytes : ByteArray} {client : Client} {t : Tree} (h : isDocument bytes)
      (received : client.received = s.client.received ++ bytes)
      (same : t.entryAt = s.files.entryAt) :
      Handed p isDocument s .stream (.ok .streamed, { s with files := t, client := client })
  | failed {delivery : Delivery} {e : ReportError} {t : Tree}
      (same : t.entryAt = s.files.entryAt) :
      Handed p isDocument s delivery (.error e, { s with files := t })
  | broken {e : ReportError} {client : Client} {t : Tree} (same : t.entryAt = s.files.entryAt) :
      Handed p isDocument s .stream (.error e, { s with files := t, client := client })

theorem handed_deliver {isDocument : ByteArray → Prop} {text : String}
    (h : isDocument text.toUTF8) (name : String) (delivery : Delivery) (s : Surroundings) :
    p.Handed isDocument s delivery (p.deliver text name delivery s) := by
  cases delivery with
  | inline => exact .content h
  | store =>
    rcases hdeliver : p.deliver text name .store s with ⟨result, s'⟩
    rcases deliver_store hdeliver with ⟨path, t, rfl, rfl, hadds⟩ | ⟨⟨e, rfl⟩, rfl⟩
    · exact .file h hadds
    · exact .failed rfl
  | stream =>
    unfold deliver
    dsimp only
    split
    · exact .broken rfl
    · rename_i hsend
      exact .streamed h (Client.received_of_send hsend) rfl

theorem handed_convert {isDocument : ByteArray → Prop} {text : String}
    (hp : ∀ c, p.converter = some c → c.Makes makes)
    (h : ∀ bytes, makes text bytes → isDocument bytes) (name : String) (delivery : Delivery)
    (s : Surroundings) :
    p.Handed isDocument s delivery (p.convert text name delivery s) := by
  unfold convert
  cases hconverter : p.converter with
  | none => exact .failed rfl
  | some c =>
    have hmakes := hp c hconverter
    cases delivery with
    | inline =>
      dsimp only
      split
      · rename_i hclient
        exact .failed (hmakes.unsent hclient)
      · rename_i hclient
        obtain ⟨⟨bytes, hreceived, hbytes⟩, hsame⟩ := hmakes.sent hclient
        have hnew : Client.new.received ++ bytes = bytes := ByteArray.empty_append
        rw [hreceived, hnew]
        exact .binary (h bytes hbytes) hsame
    | store =>
      dsimp only
      split
      · rename_i hfile
        exact .failed (hmakes.failed hfile)
      · rename_i hfile
        exact .failed (hmakes.without hfile)
      · rename_i hfile
        obtain ⟨content, hadds, hcontent⟩ := hmakes.stored hfile
        exact .file (h content hcontent) hadds
    | stream =>
      dsimp only
      split
      · rename_i hclient
        exact .broken (hmakes.unsent hclient)
      · rename_i hclient
        obtain ⟨⟨bytes, hreceived, hbytes⟩, hsame⟩ := hmakes.sent hclient
        exact .streamed (h bytes hbytes) hreceived hsame

structure Fulfils (p : Pipeline) (makes : String → ByteArray → Prop) (d : Definition)
    (format : String) (delivery : Delivery) (s : Surroundings)
    (result : Except ReportError Artifact) (s' : Surroundings) : Prop where
  placeholder : (∃ text, result = .ok (.placeholder text)) ↔
    (∃ rows, p.source (.ofDefinition p.catalog d) = .ok rows) ∧
      ∀ name ∈ p.renderers.names,
        Text.lowerAscii name ≠ Text.lowerAscii (renderFormat format).1
  untouched : ∀ text, result = .ok (.placeholder text) → s' = s
  content : ∀ text, result = .ok (.content text) →
    delivery = .inline ∧ s' = s ∧ p.IsDocument makes d format s.now text.toUTF8
  binary : ∀ bytes, result = .ok (.binary bytes) →
    delivery = .inline ∧ s'.client = s.client ∧ s'.files.entryAt = s.files.entryAt ∧
      p.IsDocument makes d format s.now bytes
  file : ∀ path, result = .ok (.file path) → delivery = .store ∧ s'.client = s.client ∧
    ∃ bytes, p.IsDocument makes d format s.now bytes ∧
      s.files.Adds p.tempDir path bytes s'.files
  streamed : result = .ok .streamed → delivery = .stream ∧ s'.files.entryAt = s.files.entryAt ∧
    ∃ bytes, p.IsDocument makes d format s.now bytes ∧
      s'.client.received = s.client.received ++ bytes
  failed : ∀ e, result = .error e → delivery ≠ .stream →
    s'.client = s.client ∧ s'.files.entryAt = s.files.entryAt

theorem exists_sheet_iff (p : Pipeline) (d : Definition) (format : String) (now : Timestamp) :
    (∃ sheet, p.prepare d format now = .ok sheet) ↔
      ∃ rows, p.source (.ofDefinition p.catalog d) = .ok rows := by
  unfold prepare
  dsimp only
  cases p.source (.ofDefinition p.catalog d) with
  | error e => simp
  | ok rows => simp

theorem draft_eq_none_iff : p.draft d format s.now = .ok none ↔
    (∃ rows, p.source (.ofDefinition p.catalog d) = .ok rows) ∧
      ∀ name ∈ p.renderers.names,
        Text.lowerAscii name ≠ Text.lowerAscii (renderFormat format).1 := by
  rw [← exists_sheet_iff p d format s.now, ← Renderers.get?_eq_none_iff]
  unfold draft
  cases p.prepare d format s.now with
  | error e => simp
  | ok sheet =>
    cases p.renderers.get? (renderFormat format).1 with
    | none => simp
    | some renderer => cases hrender : renderer.render sheet <;> simp [hrender]

theorem fulfils_of_handed (hdraft : p.draft d format s.now ≠ .ok none)
    {made : Except ReportError Artifact × Surroundings}
    (h : p.Handed (p.IsDocument makes d format s.now) s delivery made) :
    p.Fulfils makes d format delivery s made.1 made.2 := by
  have hplaceholder {result : Except ReportError Artifact}
      (hresult : ∀ text, result ≠ .ok (.placeholder text)) :
      (∃ text, result = .ok (.placeholder text)) ↔
        (∃ rows, p.source (.ofDefinition p.catalog d) = .ok rows) ∧
          ∀ name ∈ p.renderers.names,
            Text.lowerAscii name ≠ Text.lowerAscii (renderFormat format).1 :=
    iff_of_false (fun ⟨text, htext⟩ => hresult text htext) (draft_eq_none_iff.not.mp hdraft)
  -- each way of handing over falls under one promise, and no other is about its answer
  cases h with
  | content h =>
    refine ⟨hplaceholder nofun, nofun, ?_, nofun, nofun, nofun, nofun⟩
    rintro text ⟨⟩
    exact ⟨rfl, rfl, h⟩
  | binary h same =>
    refine ⟨hplaceholder nofun, nofun, nofun, ?_, nofun, nofun, nofun⟩
    rintro bytes ⟨⟩
    exact ⟨rfl, rfl, same, h⟩
  | file h adds =>
    refine ⟨hplaceholder nofun, nofun, nofun, nofun, ?_, nofun, nofun⟩
    rintro path ⟨⟩
    exact ⟨rfl, rfl, _, h, adds⟩
  | streamed h received same =>
    exact ⟨hplaceholder nofun, nofun, nofun, nofun, nofun, fun _ => ⟨rfl, same, _, h, received⟩,
      nofun⟩
  | failed same =>
    exact ⟨hplaceholder nofun, nofun, nofun, nofun, nofun, nofun, fun _ _ _ => ⟨rfl, same⟩⟩
  | broken same =>
    exact ⟨hplaceholder nofun, nofun, nofun, nofun, nofun, nofun, fun _ _ h => absurd rfl h⟩

theorem fulfils_create (hp : ∀ c, p.converter = some c → c.Makes makes) (d : Definition)
    (format : String) (delivery : Delivery) (s : Surroundings) :
    p.Fulfils makes d format delivery s (p.create d format delivery s).1
      (p.create d format delivery s).2 := by
  rw [create_eq, renderFormat_eq]
  cases hdraft : p.draft d format s.now with
  | error e => exact fulfils_of_handed (by rw [hdraft]; nofun) (.failed rfl)
  | ok drafted =>
    cases drafted with
    | none =>
      refine ⟨iff_of_true ⟨_, rfl⟩ (draft_eq_none_iff.mp hdraft), fun _ _ => rfl, nofun, nofun,
        nofun, nofun, nofun⟩
    | some text =>
      refine fulfils_of_handed (by rw [hdraft]; nofun) ?_
      dsimp only
      by_cases hpdf : Text.lowerAscii format = "pdf"
      · rw [if_pos hpdf, if_pos rfl]
        exact handed_convert hp (fun bytes h => ⟨text, hdraft, by rwa [if_pos hpdf]⟩) _ _ _
      · rw [if_neg hpdf, if_neg Bool.false_ne_true]
        exact handed_deliver ⟨text, hdraft, by rw [if_neg hpdf]⟩ _ _ _

def withConverter (p : Pipeline) (c : Option Converter) : Pipeline := { p with converter := c }

def IsHtml (p : Pipeline) (d : Definition) (format : String) (now : Timestamp) (text : String) :
    Prop :=
  ∃ sheet renderer, p.prepare d format now = .ok sheet ∧ p.renderers.get? "html" = some renderer ∧
    renderer.render sheet = .ok text

def Consults (p : Pipeline) (d : Definition) (format : String) (delivery : Delivery)
    (s : Surroundings) (text : String) : Prop :=
  ∃ c c' : Converter, (∀ other, other ≠ text → c.on other = c'.on other) ∧
    (p.withConverter (some c)).create d format delivery s ≠
      (p.withConverter (some c')).create d format delivery s

theorem draft_eq_some_iff (hpdf : Text.lowerAscii format = "pdf") {text : String} :
    p.draft d format s.now = .ok (some text) ↔ p.IsHtml d format s.now text := by
  have hhtml : (renderFormat format).1 = "html" := by rw [renderFormat_eq, if_pos hpdf]
  unfold draft IsHtml
  rw [hhtml]
  cases p.prepare d format s.now with
  | error e => simp
  | ok sheet =>
    cases p.renderers.get? "html" with
    | none => simp
    | some renderer => cases hrender : renderer.render sheet <;> simp [hrender]

theorem convert_congr {c c' : Option Converter} {text : String}
    (h : c.map (·.on text) = c'.map (·.on text)) (name : String) (delivery : Delivery)
    (s : Surroundings) :
    (p.withConverter c).convert text name delivery s =
      (p.withConverter c').convert text name delivery s := by
  cases c with
  | none =>
    cases c' with
    | none => rfl
    | some c' => cases h
  | some c =>
    cases c' with
    | none => cases h
    | some c' =>
      obtain ⟨hfile, hclient⟩ := Prod.mk.inj (Option.some.inj h)
      unfold convert withConverter
      dsimp only
      rw [hfile, hclient]

theorem create_congr {c c' : Option Converter}
    (h : Text.lowerAscii format = "pdf" → ∀ text, p.IsHtml d format s.now text →
      c.map (·.on text) = c'.map (·.on text)) :
    (p.withConverter c).create d format delivery s =
      (p.withConverter c').create d format delivery s := by
  have hsame : (p.withConverter c).draft d format s.now =
      (p.withConverter c').draft d format s.now := rfl
  rw [create_eq, create_eq, hsame, renderFormat_eq]
  cases hdraft : (p.withConverter c').draft d format s.now with
  | error e => rfl
  | ok drafted =>
    cases drafted with
    | none => rfl
    | some text =>
      dsimp only
      by_cases hpdf : Text.lowerAscii format = "pdf"
      · rw [if_pos hpdf, if_pos rfl, if_pos rfl]
        exact convert_congr (h hpdf text ((draft_eq_some_iff hpdf).mp hdraft)) format delivery s
      · rw [if_neg hpdf]
        rfl

def refusing (reason : String → String) : Converter :=
  ⟨fun text _ t => (.error (.files (reason text)), t),
    fun text client t => (.error (.files (reason text)), client, t)⟩

theorem create_refusing (hpdf : Text.lowerAscii format = "pdf") {text : String}
    (htext : p.IsHtml d format s.now text) (reason : String → String) (delivery : Delivery) :
    (p.withConverter (some (refusing reason))).create d format delivery s =
      (.error (.convert (.files (reason text))), s) := by
  have hdraft : (p.withConverter (some (refusing reason))).draft d format s.now = .ok (some text) :=
    (draft_eq_some_iff hpdf).mpr htext
  rw [create_eq, renderFormat_eq, hdraft, if_pos hpdf]
  cases delivery <;> rfl

theorem consults_iff {text : String} : p.Consults d format delivery s text ↔
    Text.lowerAscii format = "pdf" ∧ p.IsHtml d format s.now text := by
  constructor
  · rintro ⟨c, c', hother, hne⟩
    by_contra hnot
    refine hne (create_congr fun hpdf other hhtml => ?_)
    have hdiffers : other ≠ text := by
      rintro rfl
      exact hnot ⟨hpdf, hhtml⟩
    exact congrArg some (hother other hdiffers)
  · rintro ⟨hpdf, hhtml⟩
    -- two converters that give different reasons, and those for this text only
    refine ⟨refusing fun _ => "",
      refusing fun other => if other = text then "again" else "", ?_, ?_⟩
    · intro other hother
      show (refusing fun _ => "").on other =
        (refusing fun _ => if other = text then "again" else "").on other
      rw [if_neg hother]
    · rw [create_refusing hpdf hhtml, create_refusing hpdf hhtml, if_pos rfl]
      intro h
      have hconvert := ReportError.convert.inj (Except.error.inj (Prod.mk.inj h).1)
      exact absurd (ConvertError.files.inj hconvert) (by decide)

/--
Every answer says what has been done. A report in the format `pdf` is converted, and no other, from
the text of the renderer for `html`; nothing but this text is ever given to a converter, and then
there has to be one and the answer is no placeholder.
-/
theorem fulfils_and_consults_iff (p : Pipeline) (makes : String → ByteArray → Prop)
    (hp : ∀ c, p.converter = some c → c.Makes makes) (d : Definition) (format : String)
    (delivery : Delivery) (s : Surroundings) :
    p.Fulfils makes d format delivery s (p.create d format delivery s).1
        (p.create d format delivery s).2 ∧
      (∀ text, p.Consults d format delivery s text ↔
        Text.lowerAscii format = "pdf" ∧ p.IsHtml d format s.now text) ∧
      (∀ c c' : Option Converter,
        (∀ text, p.Consults d format delivery s text → c.map (·.on text) = c'.map (·.on text)) →
          (p.withConverter c).create d format delivery s =
            (p.withConverter c').create d format delivery s) ∧
      ∀ text, p.Consults d format delivery s text →
        (∀ note, (p.create d format delivery s).1 ≠ .ok (.placeholder note)) ∧
          (p.converter = none →
            p.create d format delivery s = (.error (.noConverter format), s)) := by
  have hfulfils := fulfils_create hp d format delivery s
  refine ⟨hfulfils, fun text => consults_iff, ?_, ?_⟩
  · intro c c' h
    exact create_congr fun hpdf text hhtml => h text (consults_iff.mpr ⟨hpdf, hhtml⟩)
  · intro text hconsults
    obtain ⟨hpdf, hhtml⟩ := consults_iff.mp hconsults
    have hdraft := (draft_eq_some_iff hpdf).mpr hhtml
    refine ⟨fun note hnote => ?_, fun hnone => ?_⟩
    · rw [draft_eq_none_iff.mpr (hfulfils.placeholder.mp ⟨note, hnote⟩)] at hdraft
      cases hdraft
    · rw [create_eq, renderFormat_eq, hdraft, if_pos hpdf]
      show p.convert text format delivery s = _
      rw [convert, hnone]

def vacant : Surroundings :=
  { files := ⟨.ofList [(["tmp"], .directory)]⟩, client := .new, now := ⟨2024, 2, 29, 12, 0⟩ }

theorem fulfils_copying :
    (∀ c, copying.converter = some c → c.Makes fun text bytes => bytes = text.toUTF8) ∧
      (copying.create {} "PDF" .store vacant).1.toOption.map Artifact.isPlaceholder = some false ∧
      copying.Fulfils (fun text bytes => bytes = text.toUTF8) {} "PDF" .store vacant
        (copying.create {} "PDF" .store vacant).1 (copying.create {} "PDF" .store vacant).2 := by
  have hmakes : ∀ c, copying.converter = some c →
      c.Makes fun text bytes => bytes = text.toUTF8 := by
    intro c hc
    rw [← Option.some.inj hc]
    exact CommandConverter.makes_converter (CommandConverter.converts_copying "cp" "/tmp")
  exact ⟨hmakes, by decide +kernel,
    (fulfils_and_consults_iff copying _ hmakes {} "PDF" .store vacant).1⟩

end Pipeline

end Reporting
