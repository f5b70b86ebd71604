import Reporting.Convert.Command
import Reporting.Data.Files
import Reporting.Environment

/-!
Settings as a TOML file gives them, with environment variables in paths and commands.
-/

namespace Reporting

open Decode

structure ReportSettings where
  dialect : String := "sqlite"
  defaultFormat : String := "html"
  tempDir : Option String := none
  deriving DecidableEq, Repr

structure StorageSettings where
  root : String := "./assets"
  deriving DecidableEq, Repr

structure SourceSettings where
  database : Option String := none
  deriving DecidableEq, Repr

structure ConverterSettings where
  command : String := "wkhtmltopdf"
  args : List String := ["--quiet"]
  deriving DecidableEq, Repr

structure Settings where
  report : ReportSettings := {}
  storage : StorageSettings := {}
  source : SourceSettings := {}
  converter : ConverterSettings := {}
  deriving DecidableEq, Repr

inductive SettingsError where
  | fileNotFound (path : String)
  | unreadable (e : FileError)
  | parse (e : DecodeError)
  | missingVariable (e : MissingVariable)
  | dialect (e : Sql.UnknownDialect)
  | format (e : UnknownFormat)
  deriving DecidableEq, Repr

def SettingsError.message? : SettingsError → Option String
  | fileNotFound path => some ("Config file not found: " ++ path)
  | unreadable e => some ("Failed to read config file: " ++ e.message)
  | parse .malformed => none
  | parse (.fault f) => some ("Failed to parse config file: " ++ f.message)
  | missingVariable e => some e.message
  | dialect e => some e.message
  | format e => some e.message

namespace ReportSettings

def shape : Shape ReportSettings :=
  { title := "struct ReportSettings"
    start := {}
    fields :=
      [.of "dialect" string fun r s => { r with dialect := s },
        .of "default_format" string fun r s => { r with defaultFormat := s },
        .of "temp_dir" optionalString fun r s => { r with tempDir := s }] }

end ReportSettings

namespace StorageSettings

def shape : Shape StorageSettings :=
  { title := "struct StorageSettings"
    start := {}
    fields := [.of "root" string fun r s => { r with root := s }] }

end StorageSettings

namespace SourceSettings

def shape : Shape SourceSettings :=
  { title := "struct SourceSettings"
    start := {}
    fields := [.of "database" optionalString fun r s => { r with database := s }] }

end SourceSettings

namespace ConverterSettings

def shape : Shape ConverterSettings :=
  { title := "struct ConverterSettings"
    start := {}
    fields :=
      [.of "command" string fun r s => { r with command := s },
        .of "args" strings fun r s => { r with args := s }] }

end ConverterSettings

namespace Settings

def shape : Shape Settings :=
  { title := "struct Settings"
    start := {}
    fields :=
      [.of "report" ReportSettings.shape.read fun s r => { s with report := r },
        .of "storage" StorageSettings.shape.read fun s r => { s with storage := r },
        .of "source" SourceSettings.shape.read fun s r => { s with source := r },
        .of "converter" ConverterSettings.shape.read fun s r => { s with converter := r }] }

def node (s : Settings) : Node :=
  .ofEntries
    [("report", .ofEntries
        [("dialect", .string s.report.dialect), ("default_format", .string s.report.defaultFormat),
          ("temp_dir", .ofOption .string s.report.tempDir)]),
      ("storage", .ofEntries [("root", .string s.storage.root)]),
      ("source", .ofEntries [("database", .ofOption .string s.source.database)]),
      ("converter", .ofEntries
        [("command", .string s.converter.command), ("args", .strings s.converter.args)])]

def ofTomlText (s : String) : Except SettingsError Settings :=
  (ofToml shape.read s).mapError .parse

def dialect (s : Settings) : Except SettingsError Sql.Dialect :=
  (Sql.Dialect.ofName s.report.dialect).mapError .dialect

def defaultFormat (s : Settings) : Except SettingsError OutputFormat :=
  (OutputFormat.ofName s.report.defaultFormat).mapError .format

def expand (env : Environment) (s : String) : Except SettingsError String :=
  (env.expand s).mapError .missingVariable

def tempDir (env : Environment) (system : String) (s : Settings) : Except SettingsError String :=
  match s.report.tempDir with
  | some dir => expand env dir
  | none => .ok system

def storageRoot (env : Environment) (s : Settings) : Except SettingsError String :=
  expand env s.storage.root

def database (env : Environment) (s : Settings) : Except SettingsError (Option String) :=
  match s.source.database with
  | some path => (expand env path).map some
  | none => .ok none

def commandConverter (env : Environment) (system : String) (s : Settings) :
    Except SettingsError CommandConverter := do
  -- Variables are expanded in the arguments first, then in the command, then in the directory.
  let args ← s.converter.args.mapM (expand env)
  let command ← expand env s.converter.command
  let workDir ← s.tempDir env system
  return ⟨command, args, workDir⟩

end Settings

end Reporting
