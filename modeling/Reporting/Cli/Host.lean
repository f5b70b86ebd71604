import Reporting.Delivery
import Reporting.Settings

/-!
What a command needs of the system it runs on, and the settings and definitions it finds there.
-/

namespace Reporting.Cli

structure Host (m : Type → Type) where
  setting : String → m (Option String)
  read : String → m (Except FileError ByteArray)
  openSource : String → m (Except SourceError (Plan → Except SourceError (List Row)))
  surroundings : m Surroundings
  programs : Programs

namespace Host

variable {m : Type → Type} [Monad m]

def hasEntry (h : Host m) (path : String) : m Bool := do
  match ← h.read path with
  | .ok _ => return true
  | .error .isDirectory => return true
  | .error .denied => return true
  | .error _ => return false

def readText (h : Host m) (path : String) : m (Except FileError String) := do
  match ← h.read path with
  | .ok bytes => return textOf bytes
  | .error e => return .error e

def environment (h : Host m) : List String → m Environment
  | [] => return .empty
  | s :: ss => do
    let rest ← environment h ss
    let names := (Environment.segments s.toList).filterMap fun
      | .braced name => some (String.ofList name)
      | .bare name => some (String.ofList name)
      | _ => none
    names.foldlM (fun env name => return match ← h.setting name with
      | some value => env.insert name value
      | none => env) rest

def settingsFromFile (h : Host m) (path : String) : m (Except SettingsError Settings) := do
  if !(← h.hasEntry path) then return .error (.fileNotFound path)
  match ← h.readText path with
  | .ok s => return Settings.ofTomlText s
  | .error e => return .error (.unreadable e)

def configDirectory (h : Host m) : m (Option String) := do
  match (← h.setting "XDG_CONFIG_HOME").filter Path.isAbsolute with
  | some dir => return some dir
  | none =>
    match (← h.setting "HOME").filter fun dir => !dir.isEmpty with
    | some home => return some (Path.join home ".config")
    | none => return none

/--
The settings in force: those of the file that the environment names, of the file in the working
directory, or of the user's own file; the first that applies counts.
-/
def settings (h : Host m) : m (Except SettingsError Settings) := do
  match ← h.setting "FOLIO_CONFIG" with
  | some path => h.settingsFromFile path
  | none =>
    if ← h.hasEntry "folio.toml" then h.settingsFromFile "folio.toml"
    else
      match ← h.configDirectory with
      | none => return .ok {}
      | some dir =>
        let path := Path.join (Path.join dir "folio") "config.toml"
        if ← h.hasEntry path then h.settingsFromFile path else return .ok {}

def systemTemp (h : Host m) : m String := return (← h.setting "TMPDIR").getD "/tmp"

end Host

inductive LoadError where
  | unreadable (path : String) (e : FileError)
  | definition (e : DefinitionError)
  deriving DecidableEq, Repr

def LoadError.message? : LoadError → Option String
  | unreadable path e => some ("Failed to read definition file " ++ path ++ ": " ++ e.message)
  | definition e => e.message?

def isJson (path : String) : Bool :=
  match Path.extension? path with
  | some ending => Text.lowerAscii ending == "json"
  | none => false

def readDefinition (path : String) (content : Except FileError String) :
    Except LoadError DefinitionFile :=
  match content with
  | .error e => .error (.unreadable path e)
  | .ok s =>
    (if isJson path then DefinitionFile.ofJsonText s else DefinitionFile.ofTomlText s).mapError
      .definition

def Host.definition {m : Type → Type} [Monad m] (h : Host m) (path : String) :
    m (Except LoadError DefinitionFile) :=
  return readDefinition path (← h.readText path)

end Reporting.Cli
