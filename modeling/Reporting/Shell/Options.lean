import Reporting.Shell.Task

/-!
Options of programs: single letters behind a dash, and names behind two, which can be cut short as
long as one option alone is meant. Options can stand among the operands.
-/

namespace Reporting.Shell

inductive Takes where
  | nothing
  | argument
  | perhaps
  deriving DecidableEq, Repr

structure OptionForm where
  letter : Option Char
  name : String
  takes : Takes := .nothing

namespace OptionForm

def flags (letters : String) : List OptionForm :=
  letters.toList.map fun c => { letter := some c, name := "" }

def valued (letters : String) : List OptionForm :=
  letters.toList.map fun c => { letter := some c, name := "", takes := .argument }

def named (letter : Char) (name : String) (takes : Takes := .nothing) : OptionForm :=
  ⟨some letter, name, takes⟩

def long (name : String) (takes : Takes := .nothing) : OptionForm := ⟨none, name, takes⟩

def key (f : OptionForm) : String :=
  match f.letter with
  | some c => .singleton c
  | none => f.name

end OptionForm

structure Given where
  options : List (String × String) := []
  operands : List String := []

namespace Given

def has (g : Given) (key : String) : Bool := g.options.any (·.1 = key)

def value? (g : Given) (key : String) : Option String := g.options.reverse.lookup key

def last? (g : Given) (keys : List String) : Option String :=
  (g.options.reverse.find? fun o => keys.contains o.1).map Prod.fst

def addOption (g : Given) (key value : String) : Given :=
  { g with options := (key, value) :: g.options }

def addOperand (g : Given) (arg : String) : Given := { g with operands := arg :: g.operands }

end Given

namespace Options

variable (forms : List OptionForm)

def candidates (name : String) : List OptionForm :=
  match forms.find? fun f => f.name = name && !name.isEmpty with
  | some f => [f]
  | none => forms.filter fun f => !f.name.isEmpty && name.toList.isPrefixOf f.name.toList

/-- The options that letters behind a dash stand for, and whether the last of them still needs an
argument. -/
def letters : List Char → Except String (List (String × String) × Option String)
  | [] => .ok ([], none)
  | c :: cs =>
    match forms.find? fun f => f.letter = some c with
    | none => .error ("invalid option -- '" ++ .singleton c ++ "'")
    | some f =>
      match f.takes with
      | .nothing => do
        let (rest, open?) ← letters cs
        return ((f.key, "") :: rest, open?)
      | .perhaps => .ok ([(f.key, .ofList cs)], none)
      | .argument =>
        if cs.isEmpty then .ok ([], some f.key) else .ok ([(f.key, .ofList cs)], none)

def long (text : List Char) : Except String (Sum (String × String) String) :=
  let name := String.ofList (text.takeWhile (· ≠ '='))
  let value? := (Text.cutAt '=' text).map fun p => String.ofList p.2
  match candidates forms name with
  | [] => .error ("unrecognized option '--" ++ .ofList text ++ "'")
  | [f] =>
    match f.takes, value? with
    | .nothing, none => .ok (.inl (f.key, ""))
    | .nothing, some _ => .error ("option '--" ++ f.name ++ "' doesn't allow an argument")
    | _, some v => .ok (.inl (f.key, v))
    | .perhaps, none => .ok (.inl (f.key, ""))
    | .argument, none => .ok (.inr f.key)
  | fs =>
    .error ("option '--" ++ .ofList text ++ "' is ambiguous; possibilities:" ++
      String.join (fs.map fun f => " '--" ++ f.name ++ "'"))

def argumentMissing (key : String) : String :=
  match forms.find? fun f => f.key = key with
  | some ⟨some c, _, _⟩ => "option requires an argument -- '" ++ .singleton c ++ "'"
  | _ => "option '--" ++ key ++ "' requires an argument"

/--
Goes through the arguments. With `stops`, the first operand ends the options; otherwise only two
dashes do.
-/
def givenFrom (stops : Bool) : List String → Given → Except String Given
  | [], g => .ok g
  | "--" :: args, g => .ok (args.foldl .addOperand g)
  | arg :: args, g =>
    match arg.toList with
    | '-' :: '-' :: text =>
      match long forms text with
      | .error e => .error e
      | .ok (.inl (key, value)) => givenFrom stops args (g.addOption key value)
      | .ok (.inr key) =>
        match args with
        | value :: args => givenFrom stops args (g.addOption key value)
        | [] =>
          let name := String.ofList text
          .error ("option '--" ++ ((candidates forms name).head?.map (·.name)).getD name ++
            "' requires an argument")
    | '-' :: c :: cs =>
      match letters forms (c :: cs) with
      | .error e => .error e
      | .ok (found, key?) =>
        let g := found.foldl (fun g o => g.addOption o.1 o.2) g
        match key?, args with
        | none, args => givenFrom stops args g
        | some key, value :: args => givenFrom stops args (g.addOption key value)
        | some key, [] => .error (argumentMissing forms key)
    | _ =>
      if stops then .ok ((arg :: args).foldl .addOperand g)
      else givenFrom stops args (g.addOperand arg)

def given (args : List String) (stops : Bool := false) : Except String Given :=
  (givenFrom forms stops args {}).map fun g =>
    { g with options := g.options.reverse, operands := g.operands.reverse }

def read (args : List String) (status : Nat := 1) (stops : Bool := false) : Act Given := do
  match given (forms ++ [.long "help", .long "version"]) args stops with
  | .error e => Task.misuse status e
  | .ok g =>
    if (g.last? ["help", "version"]).isSome then throw 0
    return g

end Options

end Reporting.Shell
