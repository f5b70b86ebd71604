import Reporting.Convert.Command
import Reporting.Shell.Run

/-!
The programs that conversions can call without any from outside: a shell for scripts, and the
programs that scripts are made of.
-/

namespace Reporting.Programs

def environment : List (String × String) := [("PATH", Shell.Running.usualPath)]

/-- What a program is started from: it reads nothing and writes to channels that are kept. -/
def origin (t : Tree) : Shell.Session :=
  { files := Shell.Program.addTo (.ofTree t)
    streams := #[.nothing, .kept [], .kept []]
    channels := [(0, 0), (1, 1), (2, 2)]
    bindings := environment.foldl
      (fun vs v => vs.insert v.1 { value := some v.2, isExported := true }) .empty
    number := 1
    process := 1
    nextNumber := 100 }

def limit : Nat := 1000000

def limitSignal : Nat := 11

def run (command : String) (args : List String) : Shell.Steps (Except FileError Status) := do
  if command.isEmpty then return .error .notFound
  match ← Shell.Running.findProgram Shell.Running.usualPath command with
  | .ok (_, p) => return .ok (← (Shell.running limit).start p command args)
  | .error e => return .error e

/-- Why a program cannot be started; a directory is denied like any file that is no program. -/
def refusal : FileError → String
  | .isDirectory => FileError.denied.message
  | e => e.message

def builtIn : Programs := fun command args t =>
  if (command :: args).any fun s => s.toList.contains '\x00' then
    .error "nul byte found in provided data"
  else
    let steps : Shell.Steps (Except FileError Status × String) := do
      let status ← run (Text.spread command) (args.map Text.spread)
      return (status, ← Shell.Steps.keptText 2)
    let (result, s) := steps.run.run (origin t)
    match result with
    | .ok (.ok status, said) => .ok ⟨status, Text.gathered said, s.files.tree⟩
    | .ok (.error e, _) => .error (refusal e)
    | .error _ => .ok ⟨.killed limitSignal, "", s.files.tree⟩

end Reporting.Programs
