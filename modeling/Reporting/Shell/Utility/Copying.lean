import Reporting.Shell.Options

/-!
Copying, moving and linking files.
-/

namespace Reporting.Shell.Utility

inductive Backup where
  | none
  | simple
  | numbered
  | existing
  deriving DecidableEq, Repr

structure Transfer where
  isMove : Bool := false
  isRecursive : Bool := false
  isForced : Bool := false
  removes : Bool := false
  isVerbose : Bool := false
  keeps : Bool := false
  asks : Bool := false
  updates : Bool := false
  isLink : Bool := false
  linkKind : String := "hard link "
  copiesContent : Bool := true
  copiesMode : Bool := false
  keepsParents : Bool := false
  backup : Backup := .none
  suffix : String := "~"

def baseName (path : String) : String :=
  let name := (path.toList.reverse.dropWhile (· = '/')).takeWhile (· ≠ '/')
  if name.isEmpty && !path.isEmpty then "/" else .ofList name.reverse

def within (directory name : String) : String :=
  if directory.toList.getLast? = some '/' then directory ++ name else directory ++ "/" ++ name

def withoutSlashes (path : String) : String :=
  match path.toList.reverse.dropWhile (· = '/') with
  | [] => path
  | cs => .ofList cs.reverse

def chosen {α : Type} (option text : String) (values : List (List String × α)) : Act α := do
  let fits := fun (isWanted : String → Bool) => values.filter fun v => v.1.any isWanted
  match fits (· = text), fits fun name => text.toList.isPrefixOf name.toList with
  | v :: _, _ => return v.2
  | [], [v] => return v.2
  | [], _ =>
    let lines := values.map fun v => "  - " ++ ", ".intercalate (v.1.map quoted)
    Task.misuse 1 ("invalid argument " ++ quoted text ++ " for " ++ quoted option ++
      "\nValid arguments are:\n" ++ "\n".intercalate lines)

def backupName (x : Transfer) (path : String) : Act (Option String) := do
  let numberedName := fun (n : Nat) => path ++ ".~" ++ Text.ofNat n ++ "~"
  let size := (← get).files.tree.entries.size
  let mut used := 0
  for n in List.range size do
    if ← Task.hasEntry (numberedName (n + 1)) then used := n + 1
  return match x.backup with
    | .none => none
    | .simple => some (path ++ x.suffix)
    | .numbered => some (numberedName (used + 1))
    | .existing => some (if used = 0 then path ++ x.suffix else numberedName (used + 1))

def staying? (x : Transfer) (target : String) : Act (Option Nat) := do
  if x.asks then
    Task.sayRaw ((← get).name ++ ": overwrite " ++ quoted target ++ "? ")
    return some 1
  if x.keeps then
    if x.isMove then Task.say ("not replacing " ++ quoted target)
    return some (if x.isMove then 1 else 0)
  if x.updates then return some 0
  return none

def announce (x : Transfer) (verb source target : String) : Act Unit := do
  if x.isVerbose then Task.print (verb ++ quoted source ++ " -> " ++ quoted target ++ "\n")

mutual

def transfer (x : Transfer) : Nat → String → String → Act Nat
  | 0, _, _ => return 1
  | n + 1, source, target => do
    match ← Task.entry source with
    | .error e =>
      Task.say ("cannot stat " ++ quoted source ++ ": " ++ e.reason)
      return 1
    | .ok entry =>
      let isDirectory := entry matches .directory
      if isDirectory && !x.isMove && !x.isRecursive then
        Task.say ("-r not specified; omitting directory " ++ quoted source)
        return 1
      match ← Task.locate source, ← Task.locate target with
      | .error _, _ => return 1
      | .ok _, .error .notDirectory =>
        Task.say ("cannot stat " ++ quoted target ++ ": Not a directory")
        return 1
      | .ok _, .error .nameTooLong =>
        Task.say (if x.isMove then unmade x source target .nameTooLong
          else "cannot stat " ++ quoted target ++ ": File name too long")
        return 1
      | .ok _, .error e =>
        Task.say (unmade x source target e)
        return 1
      | .ok l, .ok m =>
        let old := (← get).files.entryAt m
        if l.isPrefixOf m && isDirectory then
          Task.say (if x.isMove then
              "cannot move " ++ quoted source ++ " to a subdirectory of itself, " ++ quoted target
            else "cannot copy a directory, " ++ quoted source ++ ", into itself, " ++ quoted target)
          return 1
        let isSame := (← get).files.isSame l m
        if isSame && x.isLink && l ≠ m then return 0
        if isSame && (l = m || !x.removes) then
          Task.say (quoted source ++ " and " ++ quoted target ++ " are the same file")
          return 1
        match old with
        | some .directory =>
          if !isDirectory then
            Task.say ("cannot overwrite directory " ++ quoted target ++ " with non-directory")
            return 1
        | some (.file _) =>
          if isDirectory then
            Task.say ("cannot overwrite non-directory " ++ quoted target ++ " with directory " ++
              quoted source)
            return 1
          if let some status ← staying? x target then return status
          if x.isLink && !x.isForced then
            Task.say ("cannot create " ++ x.linkKind ++ quoted target ++ " to " ++ quoted source ++
              ": File exists")
            return 1
          if let some name ← backupName x target then
            if let .ok b ← Task.locate name then
              Task.change fun v => v.move m b
        | none => pure ()
        if x.isMove then
          if (← get).files.entryAt m.dropLast matches some .directory then
            if isDirectory && !(← Task.childrenAt m).isEmpty then
              Task.say ("cannot overwrite " ++ quoted target ++ ": Directory not empty")
              return 1
            Task.change fun v => v.move l m
            announce x "renamed " source target
            return 0
          Task.say (unmade x source target .notFound)
          return 1
        if isDirectory then copyDirectory x n source target l m
        else
          let text ← match ← Task.readFile source with
            | .ok text => pure text
            | .error _ => pure []
          if x.removes || x.isLink then Task.removeAt m
          if x.isLink then
            if !((← get).files.entryAt m.dropLast matches some .directory) then
              Task.say ("cannot create " ++ x.linkKind ++ quoted target ++ " to " ++
                quoted source ++ ": No such file or directory")
              return 1
            Task.change fun v => v.link l m
            announce x "" source target
            return 0
          let kept := (← get).files.entryAt m matches some (.file _)
          if !x.copiesContent && kept then return 0
          match ← Task.writeFile target (.ofList (if x.copiesContent then text else [])) with
          | .ok _ =>
            Task.change fun v =>
              if x.copiesMode then v.setMode m (v.mode l)
              else if kept then v
              else v.setMode m (v.masked (v.mode l))
            announce x "" source target
            return 0
          | .error e =>
            Task.say (unmade x source target e)
            return 1

def copyDirectory (x : Transfer) : Nat → String → String → Location → Location → Act Nat
  | 0, _, _, _, _ => return 1
  | n + 1, source, target, l, m => do
    let inner ← Task.childrenAt l
    if ((← get).files.entryAt m).isNone then
      if !((← get).files.entryAt m.dropLast matches some .directory) then
        Task.say ("cannot create directory " ++ quoted target ++ ": No such file or directory")
        return 1
      Task.change fun v => v.makeDirectory m
      if x.copiesMode then Task.change fun v => v.setMode m (v.mode l)
      announce x "" source target
    let mut status := 0
    for c in inner do
      let s ← transfer x n (within source c.1) (within target c.1)
      status := max status s
    return status

def unmade (x : Transfer) (source target : String) (e : FileError) : String :=
  let reason := if e = .notFound && target.toList.getLast? = some '/' then .notDirectory else e
  if x.isMove then "cannot move " ++ quoted source ++ " to " ++ quoted target ++ ": " ++ e.reason
  else "cannot create regular file " ++ quoted target ++ ": " ++ reason.reason

end

def depth : Nat := 10000

def makeParents (x : Transfer) (directory source : String) : Act Unit := do
  let names := ((Path.names source).filter (!·.isEmpty)).dropLast
  let mut done := ""
  for name in names do
    let next := if done.isEmpty then name else within done name
    let path := within directory next
    if !(← Task.hasEntry path) then
      if let .ok l ← Task.locate path then
        Task.change fun v => v.makeDirectory l
        announce x "" next path
    done := next

def transferInto (x : Transfer) (directory : String) (sources : List String) : Act Nat := do
  let mut status := 0
  let mut seen := []
  for source in sources do
    if seen.contains source && !x.isMove then
      Task.say ("warning: source file " ++ quoted source ++ " specified more than once")
    else
      let name := if x.keepsParents then withoutSlashes source else baseName source
      if x.keepsParents then makeParents x directory source
      let s ← transfer x depth source (within directory name)
      status := max status s
    seen := source :: seen
  return status

def transferAll (x : Transfer) (g : Given) : Act Nat := do
  let isPlain := g.has "T"
  match g.value? "t", g.operands with
  | _, [] => Task.misuse 1 "missing file operand"
  | none, [source] =>
    Task.misuse 1 ("missing destination file operand after " ++ quoted source)
  | some directory, sources =>
    if isPlain then
      Task.fail 1 "cannot combine --target-directory (-t) and --no-target-directory (-T)"
    match ← Task.entry directory with
    | .ok .directory => transferInto x directory sources
    | .ok (.file _) => Task.fail 1 ("target directory " ++ quoted directory ++ ": Not a directory")
    | .error e => Task.fail 1 ("target directory " ++ quoted directory ++ ": " ++ e.reason)
  | none, first :: second :: more =>
    let target := (second :: more).getLast?.getD ""
    let sources := (first :: second :: more).dropLast
    if isPlain then
      if let extra :: _ := more then Task.misuse 1 ("extra operand " ++ quoted extra)
      return ← transfer x depth first second
    match ← Task.entry target with
    | .ok .directory => transferInto x target sources
    | result =>
      if !more.isEmpty then
        let reason := match result with
          | .error e => e.reason
          | .ok _ => "Not a directory"
        Task.fail 1 ("target " ++ quoted target ++ ": " ++ reason)
      if x.keepsParents then
        Task.misuse 1 "with --parents, the destination must be a directory"
      transfer x depth first second

open OptionForm in
def copyForms : List OptionForm :=
  [named 'a' "archive", long "attributes-only", named 'b' "", long "backup" .perhaps,
    long "copy-contents", named 'd' "", long "debug", named 'f' "force", named 'H' "",
    named 'i' "interactive", named 'l' "link", named 'L' "dereference", named 'n' "no-clobber",
    named 'P' "no-dereference", named 'p' "", long "preserve" .perhaps,
    long "no-preserve" .argument, long "parents", named 'R' "recursive", named 'r' "",
    long "remove-destination", long "sparse" .argument, long "reflink" .perhaps,
    long "strip-trailing-slashes", named 's' "symbolic-link", named 'S' "suffix" .argument,
    named 't' "target-directory" .argument, named 'T' "no-target-directory", named 'u' "",
    long "update" .perhaps, named 'v' "verbose", named 'x' "one-file-system", named 'Z' "",
    long "context" .perhaps]

def kept : List (List String × Unit) :=
  ["mode", "timestamps", "ownership", "links", "context", "xattr", "all"].map fun s => ([s], ())

def backupOf (g : Given) : Act Backup := do
  match g.last? ["b", "backup"], g.value? "backup" with
  | some "backup", some "" => return .existing
  | some "backup", some v =>
    chosen "backup type" v [(["none", "off"], .none), (["simple", "never"], .simple),
      (["existing", "nil"], .existing), (["numbered", "t"], .numbered)]
  | some _, _ => return .existing
  | none, _ => return if g.has "S" then .existing else .none

def suffixOf (g : Given) : String :=
  match g.value? "S" with
  | some s => if s.isEmpty || s.toList.contains '/' then "~" else s
  | none => "~"

def cp : Utility := fun args => do
  let g ← Options.read copyForms args
  let backup ← backupOf g
  if let some v := g.value? "reflink" then
    if !v.isEmpty then
      chosen "--reflink" v [(["auto"], ()), (["always"], ()), (["never"], ())]
  if let some v := g.value? "sparse" then
    chosen "--sparse" v [(["never"], ()), (["auto"], ()), (["always"], ())]
  for key in ["preserve", "no-preserve"] do
    if let some v := g.value? key then
      if !v.isEmpty then
        for part in Text.splitOn ',' v.toList do chosen ("--" ++ key) (.ofList part) kept
  let mut update := g.has "u"
  let mut keeps := g.has "n"
  if let some v := g.value? "update" then
    if v.isEmpty then update := true
    else
      let kind ← chosen "--update" v [(["all"], 0), (["none"], 1), (["older"], 2)]
      update := kind = 2
      keeps := kind = 1
  transferAll
    { isRecursive := g.has "a" || g.has "R" || g.has "r"
      isForced := g.has "f" || g.has "remove-destination"
      removes := g.has "remove-destination"
      copiesMode := g.has "a" || g.has "p" || g.has "preserve"
      isVerbose := g.has "v" || g.has "debug"
      keeps := keeps && g.last? ["n", "i"] ≠ some "i"
      asks := g.last? ["n", "i"] = some "i"
      updates := update
      isLink := g.has "l" || g.has "s"
      linkKind := if g.has "s" then "symbolic link " else "hard link "
      copiesContent := !g.has "attributes-only"
      keepsParents := g.has "parents"
      backup := backup
      suffix := suffixOf g } g

open OptionForm in
def moveForms : List OptionForm :=
  [named 'b' "", long "backup" .perhaps, long "debug", named 'f' "force", named 'i' "interactive",
    named 'n' "no-clobber", long "no-copy", long "strip-trailing-slashes",
    named 'S' "suffix" .argument, named 't' "target-directory" .argument,
    named 'T' "no-target-directory", named 'u' "", long "update" .perhaps, named 'v' "verbose",
    named 'Z' "context"]

def mv : Utility := fun args => do
  let g ← Options.read moveForms args
  let backup ← backupOf g
  let last := g.last? ["n", "i", "f"]
  transferAll
    { isMove := true
      isVerbose := g.has "v" || g.has "debug"
      keeps := last = some "n"
      asks := last = some "i"
      updates := g.has "u" || (g.value? "update").any fun v => v.isEmpty || v = "older"
      backup := backup
      suffix := suffixOf g } g

open OptionForm in
def linkForms : List OptionForm :=
  [named 'b' "", long "backup" .perhaps, named 'd' "directory", named 'F' "", named 'f' "force",
    named 'i' "interactive", named 'L' "logical", named 'n' "no-dereference", named 'P' "physical",
    named 'r' "relative", named 's' "symbolic", named 'S' "suffix" .argument,
    named 't' "target-directory" .argument, named 'T' "no-target-directory", named 'v' "verbose"]

def link (g : Given) (source target : String) : Act Nat := do
  let kind := if g.has "s" then "symbolic link " else "hard link "
  let refuse := fun (reason : String) => do
    Task.say reason
    return 1
  let unmade := fun (e : FileError) =>
    refuse ("failed to create " ++ kind ++ quoted target ++ " => " ++ quoted source ++ ": " ++
      e.reason)
  match ← Task.entry source, ← Task.locate source, ← Task.locate target with
  | .ok .directory, _, _ => refuse (source ++ ": hard link not allowed for directory")
  | .error e, _, _ => refuse ("failed to access " ++ quoted source ++ ": " ++ e.reason)
  | _, .error e, _ => refuse ("failed to access " ++ quoted source ++ ": " ++ e.reason)
  | _, _, .error e => unmade e
  | .ok (.file _), .ok l, .ok m =>
    let t ← get
    let backup ← backupOf g
    if (t.files.entryAt m).isSome && !g.has "f" && backup = .none then
      return ← refuse ("failed to create " ++ kind ++ quoted target ++ ": File exists")
    if l = m then
      return ← refuse (quoted source ++ " and " ++ quoted target ++ " are the same file")
    if !(t.files.entryAt m.dropLast matches some .directory) then return ← unmade .notFound
    if t.files.isSame l m && backup = .none then return 0
    if (t.files.entryAt m).isSome then
      if let some name ← backupName { backup := backup, suffix := suffixOf g } target then
        if let .ok b ← Task.locate name then Task.change fun v => v.move m b
    Task.removeAt m
    Task.change fun v => v.link l m
    if g.has "v" then Task.print (quoted target ++ " => " ++ quoted source ++ "\n")
    return 0

def ln : Utility := fun args => do
  let g ← Options.read linkForms args
  match g.value? "t", g.operands with
  | _, [] => Task.misuse 1 "missing file operand"
  | some directory, sources => linkInto g directory sources
  | none, [source] => link g source ("./" ++ baseName source)
  | none, first :: more =>
    let target := more.getLast?.getD ""
    if (← Task.isDirectory target) && !g.has "T" then linkInto g target (first :: more).dropLast
    else if more.length > 1 then
      match ← Task.entry target with
      | .error e => Task.fail 1 ("target " ++ quoted target ++ ": " ++ e.reason)
      | .ok _ => Task.fail 1 ("target " ++ quoted target ++ ": Not a directory")
    else link g first target
where
  linkInto (g : Given) (directory : String) (sources : List String) : Act Nat := do
    let mut status := 0
    for source in sources do
      let s ← link g source (within directory (baseName source))
      status := max status s
    return status

end Reporting.Shell.Utility
