import Reporting.Cli.Arguments
import Reporting.Cli.Host

/-!
The commands: printing the statement of a report, listing the fields of its catalog, and running it
against a database.
-/

namespace Reporting.Cli

structure Outcome where
  code : Nat
  output : String
  errors : String
  deriving DecidableEq, Repr

namespace Outcome

def success (output : String) : Outcome := ⟨0, output, ""⟩

def failure (line : String) : Outcome := ⟨1, "", line ++ "\n"⟩

def usage : Outcome := ⟨2, "", ""⟩

end Outcome

def malformedText : String := "the text is malformed"

def configurationError (e : SettingsError) : Outcome :=
  .failure ("Configuration error: " ++
    e.message?.getD ("Failed to parse config file: " ++ malformedText))

def definitionError (file : String) (e : LoadError) : Outcome :=
  .failure ("Error loading definition '" ++ file ++ "': " ++
    e.message?.getD ("Failed to parse definition: " ++ malformedText))

def lines (ls : List String) : String := String.join (ls.map fun l => l ++ "\n")

def comments (file : String) (d : DefinitionFile) (p : Plan) (dialect : Sql.Dialect) :
    List String :=
  ["-- folio compiled SQL", "-- Source: " ++ file, "-- Report: " ++ d.report.title,
    "-- Dialect: " ++ dialect.title, "-- Conditions: " ++ Text.ofNat p.filter.length,
    "-- Order: " ++ p.order.text]

def compiled (file : String) (d : DefinitionFile) (dialect : Sql.Dialect) : SqlOutput → String
  | .plain => lines [(Plan.ofDefinition d.catalog d.report).sql dialect]
  | .verbose =>
    let p := Plan.ofDefinition d.catalog d.report
    lines (comments file d p dialect ++ ["", p.sql dialect])

def fieldLine (numeric : List String) (name label : String) : String :=
  "  - " ++ name ++ " \"" ++ label ++ "\"" ++
    if numeric.contains name then " (numeric sort)" else ""

def joinLine (j : JoinSpec) : String :=
  "  - " ++ j.table ++ " ON " ++ j.left ++ " = " ++ j.right

def fieldList (c : Catalog) : String :=
  let joins := if c.joins.isEmpty then [] else "" :: "Joins:" :: c.joins.map joinLine
  lines <|
    ["Report: " ++ c.name, "Entity: " ++ c.entity, "", "Fields:"] ++
      (c.fieldSet.toList.map fun f => fieldLine c.numericFields f.1 f.2) ++ joins

def taken (c : Client) : String := (String.fromUTF8? c.received).getD ""

def report (p : Pipeline) (store : Option Archive) (r : Record) (format : OutputFormat)
    (s : Surroundings) : Outcome :=
  match store with
  | some archive =>
    match p.generate archive r format s with
    | (.ok stored, _, _) => .success (stored.fullPath ++ "\n")
    | (.error e, _, _) => .failure ("Report error: " ++ e.message)
  | none =>
    match p.create r.definition format.name .stream { s with client := .new } with
    | (.ok (.placeholder text), _) => .success (text ++ "\n")
    | (.ok _, s) => .success (taken s.client)
    | (.error e, _) => .failure ("Report error: " ++ e.message)

variable {m : Type → Type} [Monad m]

def runOpened (h : Host m) (settings : Settings) (d : DefinitionFile) (format : OutputFormat)
    (store : Bool) (id : Nat) (reportId : Option Nat)
    (source : Plan → Except SourceError (List Row)) : m Outcome := do
  let texts := settings.report.tempDir.toList ++
    [settings.storage.root, settings.converter.command] ++ settings.converter.args
  let env ← h.environment texts
  let system ← h.systemTemp
  match settings.tempDir env system, settings.commandConverter env system with
  | .error e, _ => return configurationError e
  | _, .error e => return configurationError e
  | .ok tempDir, .ok converter =>
    let p : Pipeline :=
      { catalog := d.catalog, source := source, converter := some (converter.converter h.programs),
        tempDir := tempDir }
    let r : Record := { id := id, reportId := reportId, definition := d.report }
    let s ← h.surroundings
    if store then
      match settings.storageRoot env with
      | .error e => return configurationError e
      | .ok root => return report p (some (.inDirectory root)) r format s
    else return report p none r format s

/--
A run up to the database: the definition, the format and the database are needed, in this order.
-/
def runReport (h : Host m) (settings : Settings) (file : String) (database : Option String)
    (format : Option OutputFormat) (store : Bool) (id : Nat) (reportId : Option Nat) :
    m Outcome := do
  match ← h.definition file with
  | .error e => return definitionError file e
  | .ok d =>
    match format.elim settings.defaultFormat .ok with
    | .error e => return configurationError e
    | .ok format =>
      let env ← h.environment settings.source.database.toList
      match database.elim (settings.database env) fun path => .ok (some path) with
      | .error e => return configurationError e
      | .ok none => return .failure "No database given; pass --db or set [source] database"
      | .ok (some path) =>
        match ← h.openSource path with
        | .error e => return .failure ("Error opening database '" ++ path ++ "': " ++ e.message)
        | .ok source => runOpened h settings d format store id reportId source

def compile (h : Host m) (settings : Settings) (file : String) (dialect : Option Sql.Dialect)
    (output : SqlOutput) : m Outcome := do
  match ← h.definition file with
  | .error e => return definitionError file e
  | .ok d =>
    match dialect.elim settings.dialect .ok with
    | .error e => return configurationError e
    | .ok dialect => return .success (compiled file d dialect output)

def fields (h : Host m) (file : String) : m Outcome := do
  match ← h.definition file with
  | .error e => return definitionError file e
  | .ok d => return .success (fieldList d.catalog)

def versionText : String := "folio 0.1.0\n"

def helpText : String :=
  lines
    ["Usage: folio <COMMAND>", "", "Commands:",
      "  compile  Print the SQL a report definition compiles to",
      "  run      Run a report against a SQLite database",
      "  fields   List the fields a definition's catalog allows"]

def execute (h : Host m) (c : Command) : m Outcome := do
  match c with
  | .version => return .success versionText
  | .help => return .success helpText
  | c =>
    -- Settings that cannot be loaded end every other command, even one that needs none.
    match ← h.settings with
    | .error e => return configurationError e
    | .ok settings =>
      match c with
      | .compile file dialect output => compile h settings file dialect output
      | .run file database format store id reportId =>
        runReport h settings file database format store id reportId
      | .fields file => fields h file
      | _ => return .usage

def outcome (h : Host m) (args : List String) : m Outcome :=
  match Command.ofArguments args with
  | none => return .usage
  | some c => execute h c

end Reporting.Cli
