import Reporting.Definition
import Reporting.Powers

/-!
The command line: a subcommand with its file and its options. An option has its value in the next
argument, after an equals sign, or, for a one-letter option, right behind the letter.
-/

namespace Reporting.Cli

inductive SqlOutput where
  | plain
  | verbose
  deriving DecidableEq, Repr

inductive Command where
  | compile (file : String) (dialect : Option Sql.Dialect) (output : SqlOutput)
  | run (file : String) (database : Option String) (format : Option OutputFormat) (store : Bool)
    (id : Nat) (reportId : Option Nat)
  | fields (file : String)
  | version
  | help
  deriving DecidableEq, Repr

def dialect? (s : String) : Option Sql.Dialect := Sql.Dialect.all.find? fun d => d.name == s

def format? (s : String) : Option OutputFormat :=
  [OutputFormat.html, .csv, .pdf].find? fun f => f.name == s

def sqlOutput? (s : String) : Option SqlOutput :=
  if s = "sql" then some .plain else if s = "verbose" then some .verbose else none

def path? (s : String) : Option String := if s.isEmpty then none else some s

def id? (s : String) : Option Nat :=
  let ds :=
    match s.toList with
    | '+' :: ds => ds
    | ds => ds
  if ds.isEmpty || !ds.all Char.isDigit then none
  else
    let n := ds.foldl (fun n c => 10 * n + (c.toNat - 48)) 0
    if n < twoTo 64 then some n else none

inductive Purpose where
  | value (accepts : String → Bool)
  | switch
  | help

structure OptionSpec where
  name : String
  letter : Option Char
  purpose : Purpose

structure Sorted where
  options : List (String × String)
  operands : List String
  deriving DecidableEq, Repr

/-- What arguments come to; whatever stands behind a fault or a call for help is not looked at. -/
inductive Sorting where
  | sorted (s : Sorted)
  | help
  | refused
  deriving DecidableEq, Repr

def looksLikeOption (arg : String) : Bool :=
  match arg.toList with
  | '-' :: _ :: _ => true
  | _ => false

namespace Sorted

def addOption (s : Sorted) (name value : String) : Option Sorted :=
  if (s.options.lookup name).isSome then none
  else some { s with options := s.options ++ [(name, value)] }

def addOperand (s : Sorted) (arg : String) : Option Sorted :=
  if s.operands.isEmpty && !arg.isEmpty then some { s with operands := [arg] } else none

def addOperands : Sorted → List String → Sorting
  | s, [] => .sorted s
  | s, arg :: args =>
    match s.addOperand arg with
    | some s => addOperands s args
    | none => .refused

/--
The option that an argument names, and the value given with it, if any. What stands behind a letter
that takes no value are further letters.
-/
def named? (specs : List OptionSpec) (arg : String) : Option (OptionSpec × Option String) :=
  match arg.toList with
  | '-' :: '-' :: cs =>
    let (name, value) :=
      match Text.cutAt '=' cs with
      | some (name, value) => (name, some (String.ofList value))
      | none => (cs, none)
    (specs.find? fun s => s.name.toList == name).map fun s => (s, value)
  | '-' :: c :: cs =>
    (specs.find? fun s => s.letter == some c).map fun s =>
      match s.purpose, cs with
      | .value _, '=' :: value => (s, some (.ofList value))
      | .value _, c :: value => (s, some (.ofList (c :: value)))
      | _, _ => (s, none)
  | _ => none

def sort (specs : List OptionSpec) : Sorted → List String → Sorting
  | s, [] => .sorted s
  | s, "--" :: args => s.addOperands args
  | s, arg :: args =>
    if !looksLikeOption arg then
      match s.addOperand arg with
      | some s => sort specs s args
      | none => .refused
    else
      match named? specs arg with
      | none => .refused
      | some (spec, value) =>
        match spec.purpose, value, args with
        | .help, none, _ => .help
        | .switch, none, args =>
          match s.addOption spec.name "" with
          | some s => sort specs s args
          | none => .refused
        | .value accepts, some value, args =>
          match if accepts value then s.addOption spec.name value else none with
          | some s => sort specs s args
          | none => .refused
        | .value accepts, none, value :: args =>
          match if !looksLikeOption value && accepts value then s.addOption spec.name value
            else none with
          | some s => sort specs s args
          | none => .refused
        | _, _, _ => .refused

def value? {α : Type} (s : Sorted) (name : String) (read : String → Option α) : Option α :=
  (s.options.lookup name).bind read

end Sorted

def valued {α : Type} (name : String) (letter : Option Char) (read : String → Option α) :
    OptionSpec :=
  ⟨name, letter, .value fun s => (read s).isSome⟩

def helpOption : OptionSpec := ⟨"help", some 'h', .help⟩

def compileOptions : List OptionSpec :=
  [valued "dialect" (some 'd') dialect?, valued "output" (some 'o') sqlOutput?, helpOption]

def runOptions : List OptionSpec :=
  [valued "db" none path?, valued "format" (some 'f') format?, ⟨"store", none, .switch⟩,
    valued "id" none id?, valued "report-id" none id?, helpOption]

namespace Command

def ofCompile (s : Sorted) : Option Command :=
  s.operands.head?.map fun file =>
    .compile file (s.value? "dialect" dialect?) ((s.value? "output" sqlOutput?).getD .plain)

def ofRun (s : Sorted) : Option Command :=
  s.operands.head?.map fun file =>
    .run file (s.value? "db" path?) (s.value? "format" format?) (s.options.lookup "store").isSome
      ((s.value? "id" id?).getD 1) (s.value? "report-id" id?)

def ofFields (s : Sorted) : Option Command := s.operands.head?.map .fields

def ofOptions (specs : List OptionSpec) (read : Sorted → Option Command) (args : List String) :
    Option Command :=
  match Sorted.sort specs ⟨[], []⟩ args with
  | .sorted s => read s
  | .help => some .help
  | .refused => none

def subcommands : List String := ["compile", "run", "fields", "help"]

/-- The command that the arguments give; there is none in arguments that cannot be used. -/
def ofArguments : List String → Option Command
  | "compile" :: args => ofOptions compileOptions ofCompile args
  | "run" :: args => ofOptions runOptions ofRun args
  | "fields" :: args => ofOptions [helpOption] ofFields args
  | ["help"] => some .help
  | ["help", name] => if subcommands.contains name then some .help else none
  | arg :: _ =>
    if arg = "--version" || "-V".toList.isPrefixOf arg.toList then some .version
    else if arg = "--help" || "-h".toList.isPrefixOf arg.toList then some .help
    else none
  | [] => none

end Command

end Reporting.Cli
