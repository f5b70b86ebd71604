import Reporting.Shell.Permissions
import Reporting.Shell.Utility.Copying
import Reporting.Shell.Utility.Numbers

/-!
Making, removing, measuring and listing files and directories.
-/

namespace Reporting.Shell.Utility

def forEach (operands : List String) (step : String → Act Nat) : Act Nat := do
  let mut status := 0
  for operand in operands do
    let s ← step operand
    status := max status s
  return status

def failed (line : String) : Act Nat := do
  Task.say line
  return 1

section Removing

open OptionForm in
def removeForms : List OptionForm :=
  [named 'd' "dir", named 'f' "force", named 'i' "", named 'I' "", long "interactive" .perhaps,
    long "one-file-system", long "no-preserve-root", long "preserve-root" .perhaps,
    named 'r' "recursive", named 'R' "", named 'v' "verbose"]

def tellRemoved : Nat → String → Location → Act Unit
  | 0, _, _ => return
  | n + 1, path, l => do
    for c in ← Task.childrenAt l do
      match c.2 with
      | .directory => tellRemoved n (within path c.1) (l ++ [Text.gathered c.1])
      | .file _ => Task.print ("removed " ++ quoted (within path c.1) ++ "\n")
    Task.print ("removed directory " ++ quoted path ++ "\n")

def removeOne (g : Given) (path : String) : Act Nat := do
  let isRecursive := g.has "r" || g.has "R"
  if [".", ".."].contains (baseName path) then
    return ← failed ("refusing to remove '.' or '..' directory: skipping " ++ quoted path)
  match ← Task.locate path, ← Task.entry path with
  | .ok [], _ =>
    if isRecursive then
      Task.say "it is dangerous to operate recursively on '/'"
      failed "use --no-preserve-root to override this failsafe"
    else failed ("cannot remove " ++ quoted path ++ ": Is a directory")
  | .ok l, .ok .directory =>
    let inner ← Task.childrenAt l
    if isRecursive then
      if g.has "v" then tellRemoved depth path l
      Task.removeAt l
      return 0
    if !g.has "d" then return ← failed ("cannot remove " ++ quoted path ++ ": Is a directory")
    if !inner.isEmpty then
      return ← failed ("cannot remove " ++ quoted path ++ ": Directory not empty")
    if g.has "v" then Task.print ("removed directory " ++ quoted path ++ "\n")
    Task.removeAt l
    return 0
  | .ok l, .ok (.file _) =>
    if g.last? ["i", "f"] = some "i" then
      Task.sayRaw ((← get).name ++ ": remove regular file " ++ quoted path ++ "? ")
      return 0
    if g.has "v" then Task.print ("removed " ++ quoted path ++ "\n")
    if l ≠ nowhere then Task.removeAt l
    return 0
  | .ok _, .error e => refuse path e
  | .error e, _ => refuse path e
where
  refuse (path : String) (e : FileError) : Act Nat := do
    if g.has "f" && (e = .notFound || e = .notDirectory) then return 0
    failed ("cannot remove " ++ quoted path ++ ": " ++ e.reason)

def rm : Utility := fun args => do
  let g ← Options.read removeForms args
  if g.operands.isEmpty && !g.has "f" then Task.misuse 1 "missing operand"
  forEach g.operands (removeOne g)

def rmdir : Utility := fun args => do
  let g ← Options.read [.named 'p' "parents", .named 'v' "verbose",
    .long "ignore-fail-on-non-empty"] args
  if g.operands.isEmpty then Task.misuse 1 "missing operand"
  forEach g.operands fun path => removeUp g (Path.names path).length path
where
  removeUp (g : Given) : Nat → String → Act Nat
    | 0, _ => return 0
    | n + 1, path => do
      let refuse := fun (reason : String) =>
        failed ("failed to remove " ++ quoted path ++ ": " ++ reason)
      match ← Task.locate path, ← Task.entry path with
      | .ok l, .ok .directory =>
        if !(← Task.childrenAt l).isEmpty then
          return ← if g.has "ignore-fail-on-non-empty" then pure 0
            else refuse "Directory not empty"
        if g.has "v" then Task.print ("rmdir: removing directory, " ++ quoted path ++ "\n")
        Task.removeAt l
        let parent := Path.parent path
        if g.has "p" && !parent.isEmpty && parent ≠ "/" then removeUp g n parent else return 0
      | _, .ok (.file _) => refuse "Not a directory"
      | _, .error e => refuse e.reason
      | .error e, _ => refuse e.reason

end Removing

section Making

def isMode (s : String) : Bool :=
  let cs := s.toList
  let isChange := fun (cs : List Char) =>
    let rest := cs.dropWhile ("ugoa".toList.contains ·)
    match rest with
    | sign :: perms =>
      "+-=".toList.contains sign && perms.all ("rwxXstugo+-=".toList.contains ·)
    | [] => false
  !cs.isEmpty && (cs.all (fun c => '0' ≤ c && c ≤ '7') && cs.length ≤ 5 ||
    (Text.splitOn ',' cs).all isChange)

def makeDirectory (g : Given) (path : String) : Act Nat := do
  let refuse := fun (reason : String) =>
    failed ("cannot create directory " ++ quoted path ++ ": " ++ reason)
  match ← Task.locate path with
  | .error e => refuse e.reason
  | .ok l =>
    match (← get).files.entryAt l with
    | some _ => refuse "File exists"
    | none =>
      match (← get).files.entryAt l.dropLast with
      | some .directory =>
        Task.change fun v => v.makeDirectory l
        if let some mode := g.value? "m" then
          Task.change fun v =>
            v.setMode l ((Permissions.ofText? (v.masked 511) mode 511).getD 493)
        if g.has "v" then
          Task.print ((← get).name ++ ": created directory " ++ quoted path ++ "\n")
        return 0
      | some (.file _) => refuse "Not a directory"
      | none => refuse "No such file or directory"

def makeWay (g : Given) (path : String) : Act Nat := do
  let names := (Path.names path).filter (!·.isEmpty)
  let mut done := if Path.isAbsolute path then "/" else ""
  let last := withoutSlashes path
  for name in names do
    done := if done.isEmpty then name else within done name
    match ← Task.entry done with
    | .ok .directory => pure ()
    | .ok (.file _) =>
      let reason := if done = last then "File exists" else "Not a directory"
      return ← failed ("cannot create directory " ++ quoted done ++ ": " ++ reason)
    | .error _ =>
      let plain := { g with options := g.options.filter (·.1 ≠ "m") }
      let s ← makeDirectory (if done = last then g else plain) done
      if s ≠ 0 then return s
  return 0

def mkdir : Utility := fun args => do
  let g ← Options.read [.named 'm' "mode" .argument, .named 'p' "parents", .named 'v' "verbose",
    .named 'Z' "", .long "context" .perhaps] args
  if let some mode := g.value? "m" then
    if !isMode mode then Task.fail 1 ("invalid mode " ++ quoted mode)
  if g.operands.isEmpty then Task.misuse 1 "missing operand"
  forEach g.operands fun path => if g.has "p" then makeWay g path else makeDirectory g path

def touch : Utility := fun args => do
  let g ← Options.read [.named 'a' "", .named 'c' "no-create", .named 'd' "date" .argument,
    .named 'f' "", .named 'h' "no-dereference", .named 'm' "", .named 'r' "reference" .argument,
    .named 't' "" .argument, .long "time" .argument] args
  if g.operands.isEmpty then Task.misuse 1 "missing file operand"
  forEach g.operands fun path => do
    match ← Task.entry path with
    | .ok _ => return 0
    | .error .notDirectory => failed ("setting times of " ++ quoted path ++ ": Not a directory")
    | .error _ =>
      if g.has "c" then return 0
      match ← Task.writeFile path "" with
      | .ok _ => return 0
      | .error e => failed ("cannot touch " ++ quoted path ++ ": " ++ e.reason)

def changeMode (mode : String) (isTelling tellsChanges : Bool) (path : String) (l : Location) :
    Act Unit := do
  let v := (← get).files
  let old := v.mode l
  let new := (Permissions.ofText? (v.masked 511) mode old).getD old
  Task.change fun v => v.setMode l new
  let shown := fun (n : Nat) =>
    zeroPadded 4 (.ofList (inBase 8 n)) ++ " (" ++ Permissions.row n ++ ")"
  if old ≠ new && tellsChanges then
    Task.print ("mode of " ++ quoted path ++ " changed from " ++ shown old ++ " to " ++ shown new ++
      "\n")
  else if isTelling then
    Task.print ("mode of " ++ quoted path ++ " retained as " ++ shown old ++ "\n")

def chmod : Utility := fun args => do
  let isOption := fun (a : String) =>
    ["-R", "-v", "-c", "-f", "--recursive", "--verbose", "--changes", "--quiet"].contains a
  match args.filter fun a => !isOption a with
  | [] => Task.misuse 1 "missing operand"
  | [mode] => Task.misuse 1 ("missing operand after " ++ quoted mode)
  | mode :: paths =>
    if !isMode mode then Task.misuse 1 ("invalid mode: " ++ quoted mode)
    let isGiven := fun (names : List String) => args.any names.contains
    let isTelling := isGiven ["-v", "--verbose"]
    forEach paths fun path => do
      match ← Task.locate path, ← Task.entry path with
      | .ok l, .ok _ =>
        changeMode mode isTelling (isTelling || isGiven ["-c", "--changes"]) path l
        if isGiven ["-R", "--recursive"] then
          for e in (← get).files.tree.below l do
            changeMode mode isTelling (isTelling || isGiven ["-c", "--changes"])
              (e.1.foldl within path) (l ++ e.1)
        return 0
      | _, .error e => failed ("cannot access " ++ quoted path ++ ": " ++ e.reason)
      | .error e, _ => failed ("cannot access " ++ quoted path ++ ": " ++ e.reason)

def newSize? (old : Nat) (s : String) : Option Nat :=
  match s.toList with
  | '+' :: cs => (size? (.ofList cs)).map (old + ·)
  | '-' :: cs => (size? (.ofList cs)).map (old - ·)
  | '<' :: cs => (size? (.ofList cs)).map (min old ·)
  | '>' :: cs => (size? (.ofList cs)).map (max old ·)
  | '/' :: cs => (size? (.ofList cs)).map fun n => old / n * n
  | '%' :: cs => (size? (.ofList cs)).map fun n => (old + n - 1) / n * n
  | _ => size? s

def truncate : Utility := fun args => do
  let g ← Options.read [.named 'c' "no-create", .named 'o' "io-blocks",
    .named 'r' "reference" .argument, .named 's' "size" .argument] args
  match g.value? "s" with
  | none => Task.misuse 1 "you must specify either '--size' or '--reference'"
  | some size =>
    if (newSize? 0 size).isNone then Task.fail 1 ("Invalid number: " ++ quoted size)
    if g.operands.isEmpty then Task.misuse 1 "missing file operand"
    forEach g.operands fun path => do
      let refuse := fun (e : FileError) =>
        failed ("cannot open " ++ quoted path ++ " for writing: " ++ e.reason)
      match ← Task.readFile path with
      | .error .notFound =>
        if g.has "c" then return 0
        resize path [] size refuse
      | .error e => refuse e
      | .ok text => resize path text size refuse
where
  resize (path : String) (text : List Char) (size : String) (refuse : FileError → Act Nat) :
      Act Nat := do
    let n := (newSize? text.length size).getD 0
    let text := text.take n ++ List.replicate (n - text.length) '\x00'
    match ← Task.writeFile path (.ofList text) with
    | .ok _ => return 0
    | .error e => refuse e

end Making

section Listing

def describe (path : String) (x : FileEntry) (mode placeCount : Nat) : List Char → List Char
  | '%' :: c :: cs =>
    let size := match x with
      | .file bytes => bytes.size
      | .directory => 4096
    let text :=
      if c = 'n' then path
      else if c = 's' then Text.ofNat size
      else if c = 'F' then
        match x with
        | .directory => "directory"
        | .file bytes => if bytes.isEmpty then "regular empty file" else "regular file"
      else if c = 'N' then quotedIfNeeded path
      else if c = 'a' then .ofList (inBase 8 mode)
      else if c = 'A' then (if x matches .directory then "d" else "-") ++ Permissions.row mode
      else if c = 'h' then Text.ofNat placeCount
      else if c = '%' then "%"
      else "?"
    text.toList ++ describe path x mode placeCount cs
  | c :: cs => c :: describe path x mode placeCount cs
  | [] => []

def stat : Utility := fun args => do
  let g ← Options.read [.named 'c' "format" .argument, .long "printf" .argument,
    .named 'L' "dereference", .named 't' "terse"] args
  if g.operands.isEmpty then Task.misuse 1 "missing operand"
  forEach g.operands fun path => do
    match ← Task.entry path with
    | .error e => failed ("cannot statx " ++ quoted path ++ ": " ++ e.reason)
    | .ok x =>
      let v := (← get).files
      let (mode, placeCount) := match ← Task.locate path with
        | .ok l => (v.mode l, v.placeCount l)
        | .error _ => (0, 0)
      let form := ((g.value? "c").getD "%n").toList
      Task.print (.ofList (describe path x mode placeCount form) ++ "\n")
      return 0

open OptionForm in
def listForms : List OptionForm :=
  [named 'a' "all", named 'A' "almost-all", named 'd' "directory", named 'F' "",
    long "classify" .perhaps, named 'p' "", named 'r' "reverse", named 'R' "recursive",
    named 'B' "ignore-backups", named 'Q' "quote-name", named 'U' "", named 'S' "", named 'm' "",
    long "color" .perhaps, long "group-directories-first", long "sort" .argument] ++
    flags "1bcCfgGhHiklLnNoqstuvxX"

structure Item where
  name : String
  place : Location
  entry : FileEntry

namespace Item

def size (i : Item) : Nat :=
  match i.entry with
  | .file bytes => bytes.size
  | .directory => 4096

def isDirectory (i : Item) : Bool := i.entry matches .directory

def shown (g : Given) (v : Volume) (i : Item) : String :=
  let mark :=
    if i.isDirectory then (if g.has "F" || g.has "p" || g.has "classify" then "/" else "")
    else if (g.has "F" || g.has "classify") && v.isRunnable i.place then "*"
    else ""
  (if g.has "Q" then "\"" ++ i.name ++ "\"" else i.name) ++ mark

def placeCount (v : Volume) (i : Item) : Nat :=
  -- A directory stands in itself and in its own ones, too.
  if i.isDirectory then
    2 + ((v.children i.place).filter fun c => c.2 matches .directory).length
  else v.placeCount i.place

def blocks (i : Item) : Nat := (i.size + 4095) / 4096 * 4

end Item

def longLines (g : Given) (v : Volume) (items : List Item) : List String :=
  let widest := fun (f : Item → Nat) =>
    (items.map fun i => (Text.ofNat (f i)).length).foldl max 0
  let owner := if g.has "n" then "0 " else "root "
  items.map fun i =>
    (if i.isDirectory then "d" else "-") ++ Permissions.row (v.mode i.place) ++ " " ++
      padded (widest (·.placeCount v)) (Text.ofNat (i.placeCount v)) ++ " " ++
      (if g.has "g" then "" else owner) ++ (if g.has "o" || g.has "G" then "" else owner) ++
      padded (widest (·.size)) (Text.ofNat i.size) ++ " Jan  1 00:00 " ++ i.shown g v

def isLong (g : Given) : Bool := ["l", "g", "n", "o"].any g.has

def shownItems (g : Given) (l : Location) : Act (List Item) := do
  let inner := (← Task.childrenAt l).map fun c => Item.mk c.1 (l ++ [Text.gathered c.1]) c.2
  let isHidden := fun (i : Item) => i.name.toList.head? == some '.'
  let inner := if g.has "a" || g.has "A" || g.has "f" then inner
    else inner.filter fun i => !isHidden i
  let inner := if g.has "B" then inner.filter fun i => i.name.toList.getLast? ≠ some '~' else inner
  let dots := if g.has "a" || g.has "f" then
      [⟨".", l, .directory⟩, ⟨"..", l.dropLast, .directory⟩]
    else []
  let all := dots ++ inner
  let all := if g.has "S" then all.mergeSort fun a b => decide (b.size ≤ a.size) else all
  return if g.has "r" then all.reverse else all

def printItems (g : Given) (items : List Item) : Act Unit := do
  let v := (← get).files
  let names := if isLong g then longLines g v items else items.map (·.shown g v)
  if g.has "m" && !isLong g then
    if !names.isEmpty then Task.print (", ".intercalate names ++ "\n")
  else for name in names do Task.print (name ++ "\n")

def listDirectory (g : Given) : Nat → Bool → String → Location → Act Unit
  | 0, _, _, _ => return
  | n + 1, isNamed, path, l => do
    if isNamed then Task.print (path ++ ":\n")
    let items ← shownItems g l
    if isLong g then
      Task.print ("total " ++ Text.ofNat ((items.map Item.blocks).foldl (· + ·) 0) ++ "\n")
    printItems g items
    if g.has "R" then
      for i in items do
        if i.isDirectory && i.name ≠ "." && i.name ≠ ".." then
          Task.print "\n"
          listDirectory g n true (within path i.name) i.place

def ls : Utility := fun args => do
  let g ← Options.read listForms args 2
  let operands := if g.operands.isEmpty then ["."] else g.operands
  let mut status := 0
  let mut files := []
  let mut directories := []
  for path in operands.mergeSort (· ≤ ·) do
    match ← Task.locate path, ← Task.entry path with
    | .ok l, .ok .directory =>
      if g.has "d" then files := files ++ [Item.mk path l .directory]
      else directories := directories ++ [(path, l)]
    | .ok l, .ok x => files := files ++ [Item.mk path l x]
    | .error e, _ => status ← refuse path e
    | _, .error e => status ← refuse path e
  printItems g (if g.has "r" then files.reverse else files)
  let isNamed := operands.length > 1 || g.has "R"
  let mut isFirst := files.isEmpty
  for (path, l) in if g.has "r" then directories.reverse else directories do
    if !isFirst then Task.print "\n"
    listDirectory g depth isNamed path l
    isFirst := false
  return status
where
  refuse (path : String) (e : FileError) : Act Nat := do
    Task.say ("cannot access " ++ quoted path ++ ": " ++ e.reason)
    return 2

end Listing

end Reporting.Shell.Utility
