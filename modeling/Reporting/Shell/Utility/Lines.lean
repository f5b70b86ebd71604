import Reporting.Shell.Utility.Numbers

/-!
Programs that pass text on, line by line: joined, cut short, counted, turned around or sorted.
-/

namespace Reporting.Shell.Utility

def orInput (operands : List String) : List String :=
  if operands.isEmpty then ["-"] else operands

def forContents (operands : List String) (complaint : String → FileError → String)
    (use : String → List Char → Act Unit) : Act Nat := do
  let mut status := 0
  for path in orInput operands do
    match ← Task.readOperand path with
    | .ok text => use path text
    | .error e =>
      Task.say (complaint path e)
      status := 1
  return status

def plainComplaint (path : String) (e : FileError) : String :=
  quotedIfNeeded path ++ ": " ++ e.reason

def printChars (cs : List Char) : Act Unit := Task.print (.ofList cs)

/-! ## Joining -/

def visible (showsTabs : Bool) (c : Char) : List Char :=
  let n := c.toNat
  let low := fun (n : Nat) =>
    if n = 127 then ['^', '?']
    else if n < 32 then ['^', Char.ofNat (n + 64)]
    else [Char.ofNat n]
  if c = '\n' then [c]
  else if c = '\t' then (if showsTabs then ['^', 'I'] else [c])
  else if n < 128 then low n
  else ['M', '-'] ++ low (n - 128)

structure Showing where
  numbersAll : Bool
  numbersFilled : Bool
  squeezes : Bool
  marksEnds : Bool
  showsTabs : Bool
  showsHidden : Bool

def shownLines (x : Showing) : Nat → Bool → List (List Char) → List Char
  | _, _, [] => []
  | n, wasEmpty, l :: ls =>
    let isEmpty := l = ['\n']
    if x.squeezes && isEmpty && wasEmpty then shownLines x n true ls
    else
      let isNumbered := if x.numbersFilled then !isEmpty else x.numbersAll
      let n := if isNumbered then n + 1 else n
      let number := if isNumbered then (padded 6 (Text.ofNat n)).toList ++ ['\t'] else []
      let body := l.flatMap fun c =>
        if c = '\n' then (if x.marksEnds then ['$', '\n'] else ['\n'])
        else if c = '\t' then (if x.showsTabs then ['^', 'I'] else ['\t'])
        else if x.showsHidden then visible x.showsTabs c
        else [c]
      number ++ body ++ shownLines x n isEmpty ls

open OptionForm in
def cat : Utility := fun args => do
  let g ← Options.read [named 'A' "show-all", named 'b' "number-nonblank", named 'e' "",
    named 'E' "show-ends", named 'n' "number", named 's' "squeeze-blank", named 't' "",
    named 'T' "show-tabs", named 'u' "", named 'v' "show-nonprinting"] args
  let x : Showing :=
    { numbersAll := g.has "n"
      numbersFilled := g.has "b"
      squeezes := g.has "s"
      marksEnds := g.has "E" || g.has "A" || g.has "e"
      showsTabs := g.has "T" || g.has "A" || g.has "t"
      showsHidden := g.has "v" || g.has "A" || g.has "e" || g.has "t" }
  let mut status := 0
  let mut all := []
  for path in orInput g.operands do
    if 0 < (← Task.outputSize? path).getD 0 then
      Task.say (quotedIfNeeded path ++ ": input file is output file")
      status := 1
      continue
    match ← Task.readOperand path with
    | .ok text =>
      if g.options.isEmpty then Task.printNow (.ofList text) else all := all ++ text
    | .error e =>
      Task.say (plainComplaint path e)
      status := 1
  printChars (shownLines x 0 false (keptLines all))
  return status

def tac : Utility := fun args => do
  let g ← Options.read [.named 'b' "before", .named 'r' "regex",
    .named 's' "separator" .argument] args
  forContents g.operands
    (fun path e =>
      if e = .isDirectory then quotedIfNeeded path ++ ": read error: Is a directory"
      else "failed to open " ++ quoted path ++ " for reading: " ++ e.reason)
    fun _ text => printChars (keptLines text).reverse.flatten

def rev : Utility := fun args => do
  let g ← Options.read [.named '0' "zero"] args
  forContents g.operands (fun path e => "cannot open " ++ path ++ ": " ++ e.reason) fun _ text =>
    printChars ((keptLines text).flatMap fun l =>
      if l.getLast? = some '\n' then l.dropLast.reverse ++ ['\n'] else l.reverse)

def tee : Utility := fun args => do
  let g ← Options.read [.named 'a' "append", .named 'i' "ignore-interrupts", .named 'p' "",
    .long "output-error" .perhaps] args
  let text ← Task.takeInput
  Task.printNow (.ofList text)
  let mut status := 0
  for path in g.operands do
    let old ← match g.has "a", ← Task.readFile path with
      | true, .ok old => pure old
      | _, _ => pure []
    if let .error e ← Task.writeFile path (.ofList (old ++ text)) then
      Task.say (plainComplaint path e)
      status := 1
  return status

/-! ## Beginnings and endings -/

structure Measure where
  isBytes : Bool
  isFromEnd : Bool
  amount : Nat

def expandCounts : List String → List String
  | arg :: args =>
    match arg.toList with
    | '-' :: c :: cs =>
      if c.isDigit then
        let ds := (c :: cs).takeWhile Char.isDigit
        match (c :: cs).dropWhile Char.isDigit with
        | [] => "-n" :: .ofList ds :: args
        | ['c'] => "-c" :: .ofList ds :: args
        | _ => arg :: args
      else arg :: args
    | _ => arg :: args
  | [] => []

def measure (g : Given) (sign : Char) : Act Measure := do
  let isBytes := g.last? ["n", "c"] = some "c"
  match g.value? (if isBytes then "c" else "n") with
  | none => return ⟨false, false, 10⟩
  | some text =>
    let (isFromEnd, digits) := match text.toList with
      | c :: cs => if c = sign then (true, String.ofList cs)
        else if c = '-' || c = '+' then (false, .ofList cs) else (false, text)
      | [] => (false, text)
    match size? digits with
    | some n => return ⟨isBytes, isFromEnd, n⟩
    | none =>
      Task.fail 1 ("invalid number of " ++ (if isBytes then "bytes" else "lines") ++ ": " ++
        quoted text)

def Measure.head (m : Measure) (text : List Char) : List Char :=
  let size := fun (whole : Nat) => if m.isFromEnd then whole - m.amount else m.amount
  if m.isBytes then text.take (size text.length)
  else
    let ls := keptLines text
    (ls.take (size ls.length)).flatten

def Measure.tail (m : Measure) (text : List Char) : List Char :=
  let skipped := fun (whole : Nat) => if m.isFromEnd then m.amount - 1 else whole - m.amount
  if m.isBytes then text.drop (skipped text.length)
  else
    let ls := keptLines text
    (ls.drop (skipped ls.length)).flatten

def showParts (g : Given) (part : String → List Char → Act (List Char))
    (complaint : String → FileError → String) : Act Nat := do
  let operands := orInput g.operands
  let isNamed := (operands.length > 1 || g.has "v") && !g.has "q"
  let mut isFirst := true
  let mut status := 0
  for path in operands do
    let title := (if isFirst then "" else "\n") ++ "==> " ++
      (if path = "-" then "standard input" else path) ++ " <==\n"
    match ← Task.readOperand path with
    | .ok text =>
      if isNamed then Task.print title
      printChars (← part path text)
      isFirst := false
    | .error e =>
      if e = .isDirectory && isNamed then
        Task.print title
        isFirst := false
      Task.say (complaint path e)
      status := 1
  return status

open OptionForm in
def partForms : List OptionForm :=
  [named 'n' "lines" .argument, named 'c' "bytes" .argument, named 'q' "quiet", long "silent",
    named 'v' "verbose", named 'z' "zero-terminated"]

def openComplaint (path : String) (e : FileError) : String :=
  if e = .isDirectory then "error reading " ++ quoted path ++ ": " ++ e.reason
  else "cannot open " ++ quoted path ++ " for reading: " ++ e.reason

def head : Utility := fun args => do
  let g ← Options.read partForms (expandCounts args)
  let m ← measure g '-'
  showParts g
    (fun path text => do
      let part := m.head text
      let rest := text.drop part.length
      if path = "-" && ((← get).isFileInput || m.isBytes && !m.isFromEnd) then
        modify fun t => { t with input := rest }
      return part)
    openComplaint

open OptionForm in
def tail : Utility := fun args => do
  let args := match args with
    | arg :: rest =>
      match arg.toList with
      | '+' :: c :: cs => if c.isDigit then "-n" :: .ofList ('+' :: c :: cs) :: rest else args
      | _ => expandCounts args
    | [] => args
  let g ← Options.read (partForms ++ [named 'f' "", named 'F' "", long "follow" .perhaps,
    long "retry", named 's' "sleep-interval" .argument, long "pid" .argument]) args
  let m ← measure g '+'
  showParts g (fun _ text => return m.tail text) openComplaint

/-! ## Counting -/

structure Counts where
  lines : Nat := 0
  words : Nat := 0
  bytes : Nat := 0
  longest : Nat := 0

def isSpace (c : Char) : Bool := c = ' ' || 9 ≤ c.toNat && c.toNat ≤ 13

def countWords : Bool → List Char → Nat
  | _, [] => 0
  | isInside, c :: cs =>
    if isSpace c then countWords false cs
    else (if isInside then 0 else 1) + countWords true cs

def lineWidth : Nat → List Char → Nat
  | n, [] => n
  | n, '\t' :: cs => lineWidth (n + (8 - n % 8)) cs
  | n, c :: cs => lineWidth (if 32 ≤ c.toNat && c.toNat < 127 then n + 1 else n) cs

namespace Counts

def ofText (text : List Char) : Counts :=
  { lines := text.count '\n'
    words := countWords false text
    bytes := text.length
    longest := ((plainLines text).map (lineWidth 0)).foldl max 0 }

def add (a b : Counts) : Counts :=
  ⟨a.lines + b.lines, a.words + b.words, a.bytes + b.bytes, max a.longest b.longest⟩

end Counts

open OptionForm in
def wc : Utility := fun args => do
  let g ← Options.read [named 'c' "bytes", named 'm' "chars", named 'l' "lines",
    named 'L' "max-line-length", named 'w' "words", long "files0-from" .argument,
    long "total" .argument] args
  let isAll := ["c", "m", "l", "L", "w"].all fun key => !g.has key
  let isFile ← if g.operands.isEmpty then pure (← get).isFileInput else pure true
  let mut status := 0
  let mut size := 0
  let mut isOdd := !isFile
  for path in g.operands do
    match ← Task.entry path with
    | .ok (.file bytes) => size := size + bytes.size
    | .ok .directory => isOdd := true
    | .error _ => if path = "-" then isOdd := true
  if g.operands.isEmpty then size := (← get).input.length
  let shown := fun (c : Counts) =>
    (if g.has "l" || isAll then [c.lines] else []) ++ (if g.has "w" || isAll then [c.words] else [])
      ++ (if g.has "m" then [c.bytes] else []) ++ (if g.has "c" || isAll then [c.bytes] else [])
      ++ (if g.has "L" then [c.longest] else [])
  let width :=
    if g.operands.length ≤ 1 && (shown {}).length = 1 then 1
    else max (Text.ofNat size).length (if isOdd then 7 else 1)
  let line := fun (c : Counts) (name : Option String) =>
    " ".intercalate ((shown c).map fun n => padded width (Text.ofNat n)) ++
      (match name with | some s => " " ++ s | none => "") ++ "\n"
  let mut total : Counts := {}
  for path in orInput g.operands do
    let name := if g.operands.isEmpty then none else some (quotedIfNeeded path)
    match ← Task.readOperand path with
    | .ok text =>
      let c := Counts.ofText text
      total := total.add c
      Task.print (line c name)
    | .error e =>
      Task.say (plainComplaint path e)
      if e = .isDirectory then Task.print (line {} name)
      status := 1
  if g.operands.length > 1 then Task.print (line total (some "total"))
  return status

/-! ## Sorting -/

structure SortKey where
  fromField : Nat
  fromChar : Nat
  toField : Nat
  toChar : Nat
  options : List Char

def keyNumber (place : String) (s : List Char) : Except String (Nat × List Char) :=
  let ds := s.takeWhile Char.isDigit
  match natural? ds with
  | some n => .ok (n, s.drop ds.length)
  | none =>
    .error ("invalid number " ++ place ++ ": invalid count at start of " ++ quoted (.ofList s))

def keyPlace (place : String) (s : List Char) : Except String (Nat × Nat × List Char) := do
  let (n, rest) ← keyNumber place s
  match rest with
  | '.' :: more =>
    let (m, rest) ← keyNumber "after '.'" more
    return (n, m, rest)
  | rest => return (n, 0, rest)

def keyLetters : List Char := "bdfghiMnRrV".toList

def sortKey (s : String) : Except String SortKey := do
  let wrong := fun (e : String) =>
    Except.error (α := SortKey) (e ++ ": invalid field specification " ++ quoted s)
  let (f, c, rest) ← keyPlace "at field start" s.toList
  if f = 0 then wrong "field number is zero"
  else if c = 0 && ('.' ∈ s.toList.takeWhile (· ≠ ',')) then wrong "character offset is zero"
  else
    let letters := rest.takeWhile keyLetters.contains
    match rest.drop letters.length with
    | [] => return ⟨f, max c 1, 0, 0, letters⟩
    | ',' :: more =>
      let (g, d, more) ← keyPlace "after ','" more
      if g = 0 then wrong "field number is zero"
      else if more.all keyLetters.contains then return ⟨f, max c 1, g, d, letters ++ more⟩
      else wrong "stray character in field spec"
    | _ => wrong "stray character in field spec"

def blankFieldsFrom : Bool → List Char → List (List Char)
  | _, [] => []
  | isInside, c :: cs =>
    let isBlank := c = ' ' || c = '\t'
    match blankFieldsFrom (!isBlank) cs with
    | [] => [[c]]
    | f :: fs => if isInside && isBlank then [] :: (c :: f) :: fs else (c :: f) :: fs

def fieldsOf (separator : Option Char) (line : List Char) : List (List Char) :=
  match separator with
  | some c => Text.splitOn c line
  | none => (blankFieldsFrom false line).filter (!·.isEmpty)

def SortKey.part (k : SortKey) (separator : Option Char) (line : List Char) : List Char :=
  let fs := fieldsOf separator line
  let join := fun (fs : List (List Char)) =>
    match separator with
    | some c => [c].intercalate fs
    | none => fs.flatten
  let drop := fun (cs : List Char) =>
    (if k.options.contains 'b' then cs.dropWhile isSpace else cs).drop (k.fromChar - 1)
  if k.toField = 0 then drop (join (fs.drop (k.fromField - 1)))
  else
    let middle := (fs.take k.toField).drop (k.fromField - 1)
    let middle := if k.toChar = 0 then middle
      else middle.dropLast ++ (middle.getLast?.toList.map fun f => f.take k.toChar)
    drop (join middle)

def numberAt (cs : List Char) : Int :=
  let cs := cs.dropWhile isSpace
  let (isNegative, cs) := match cs with
    | '-' :: cs => (true, cs)
    | cs => (false, cs)
  let ds := cs.takeWhile Char.isDigit
  let decimals := match cs.drop ds.length with
    | '.' :: more => (more.takeWhile Char.isDigit).take 12
    | _ => []
  let padded := decimals ++ List.replicate (12 - decimals.length) '0'
  let n := (natural? (ds ++ padded)).getD 0
  if isNegative then -(n : Int) else n

/--
The size that stands at the beginning of a text: how great the unit behind it is, and the number;
both count the other way for negative numbers.
-/
def sizeAt (cs : List Char) : Int × Int :=
  let n := numberAt cs
  let digits := (cs.dropWhile isSpace).dropWhile fun c => c = '-' || c = '.' || c.isDigit
  let rank : Int :=
    match digits.head?.bind "KMGTPEZYRQ".toList.idxOf? with
    | some i => i + 1
    | none => if digits.head? = some 'k' then 1 else 0
  (if n < 0 then -rank else if n = 0 then 0 else rank, n)

def versionRank : Option Char → Int
  -- No character counts more than a tilde.
  | none => -1
  | some '~' => -2
  | some c => if c.isDigit then 0 else if c.isAlpha then c.toNat else c.toNat + 256

def compareVersions : Nat → List Char → List Char → Ordering
  | 0, _, _ => .eq
  | _, [], [] => .eq
  | n + 1, a, b =>
    let isText := fun (cs : List Char) => cs.head?.any fun c => !c.isDigit
    if isText a || isText b then
      (compare (versionRank a.head?) (versionRank b.head?)).then
        (compareVersions n a.tail b.tail)
    else
      let number := fun (cs : List Char) => (natural? (cs.takeWhile Char.isDigit)).getD 0
      let rest := fun (cs : List Char) => cs.dropWhile Char.isDigit
      (compare (number a) (number b)).then (compareVersions n (rest a) (rest b))

def compareBy (options : List Char) (a b : List Char) : Ordering :=
  let adapt := fun (cs : List Char) =>
    let cs := if options.contains 'b' then cs.dropWhile isSpace else cs
    let cs := if options.contains 'd' then cs.filter fun c => c.isAlphanum || c = ' ' || c = '\t'
      else cs
    if options.contains 'f' then cs.map Char.toUpper else cs
  let order :=
    if options.contains 'n' || options.contains 'g' then compare (numberAt a) (numberAt b)
    else if options.contains 'h' then
      let x := sizeAt a
      let y := sizeAt b
      (compare x.1 y.1).then (compare x.2 y.2)
    else if options.contains 'V' then compareVersions (a.length + b.length + 1) a b
    else
      let x := adapt a
      let y := adapt b
      if x < y then .lt else if y < x then .gt else .eq
  if options.contains 'r' then order.swap else order

open OptionForm in
def sortForms : List OptionForm :=
  [named 'b' "ignore-leading-blanks", named 'd' "dictionary-order", named 'f' "ignore-case",
    named 'g' "general-numeric-sort", named 'n' "numeric-sort", named 'r' "reverse",
    named 'c' "check" .perhaps, named 'C' "", named 'k' "key" .argument, named 'm' "merge",
    named 'o' "output" .argument, named 's' "stable", named 't' "field-separator" .argument,
    named 'u' "unique", named 'z' "zero-terminated", named 'h' "human-numeric-sort",
    named 'V' "version-sort", named 'M' "month-sort", named 'i' "ignore-nonprinting"]

def sort : Utility := fun args => do
  let g ← Options.read (sortForms.map fun f => if f.letter = some 'c' then
    { f with takes := .nothing } else f) args 2
  let isCommon := fun (o : String × String) =>
    ["b", "d", "f", "g", "h", "n", "r", "V"].contains o.1
  let common := (g.options.filter isCommon).map fun o => o.1.toList.headD ' '
  if let some t := g.value? "t" then
    if t.isEmpty then Task.fail 2 "empty tab"
    if t.length > 1 && t ≠ "\\0" then Task.fail 2 ("multi-character tab " ++ quoted t)
  let separator := (g.value? "t").bind fun s => s.toList.head?
  let mut keys := []
  for (name, text) in g.options do
    if name = "k" then
      match sortKey text with
      | .ok k =>
        let options := if k.options.isEmpty then common else k.options
        keys := keys ++ [{ k with options := options }]
      | .error e => Task.fail 2 e
  let mut text := []
  for path in orInput g.operands do
    match ← Task.readOperand path with
    | .ok more => text := text ++ (if endsLine text then more else '\n' :: more)
    | .error .isDirectory => Task.fail 2 ("read failed: " ++ path ++ ": Is a directory")
    | .error e => Task.fail 2 ("cannot read: " ++ path ++ ": " ++ e.reason)
  let ls := plainLines text
  let byKeys := fun (a b : List Char) =>
    match keys with
    | [] => compareBy common a b
    | ks =>
      ks.foldl (fun o (k : SortKey) =>
        o.then (compareBy k.options (k.part separator a) (k.part separator b))) .eq
  let order := fun (a b : List Char) =>
    let o := byKeys a b
    if g.has "s" || g.has "u" then o
    else o.then (compareBy (if common.contains 'r' then ['r'] else []) a b)
  if g.has "c" || g.has "C" then
    let pairs := ls.zip ls.tail
    match pairs.zipIdx.find? fun p =>
        order p.1.1 p.1.2 = .gt || g.has "u" && byKeys p.1.1 p.1.2 = .eq with
    | some (p, i) =>
      if g.has "c" then
        let path := (orInput g.operands).headD "-"
        Task.say (path ++ ":" ++ Text.ofNat (i + 2) ++ ": disorder: " ++ .ofList p.2)
      return 1
    | none => return 0
  let sorted := ls.mergeSort fun a b => order a b ≠ .gt
  let distinct := sorted.foldr (fun l kept =>
    match kept with
    | m :: _ => if byKeys l m = .eq then l :: kept.tail else l :: kept
    | [] => [l]) []
  let out := (if g.has "u" then distinct else sorted).flatMap (· ++ ['\n'])
  match g.value? "o" with
  | some path =>
    match ← Task.writeFile path (.ofList out) with
    | .ok _ => return 0
    | .error e => Task.fail 2 ("open failed: " ++ path ++ ": " ++ e.reason)
  | none =>
    printChars out
    return 0

/-! ## Repeated lines -/

def groupsBy (isSame : List Char → List Char → Bool) : List (List Char) → List (List (List Char))
  | [] => []
  | l :: ls =>
    match groupsBy isSame ls with
    | (m :: ms) :: gs => if isSame l m then (l :: m :: ms) :: gs else [l] :: (m :: ms) :: gs
    | gs => [l] :: gs

def skipFields : Nat → List Char → List Char
  | 0, cs => cs
  | n + 1, cs =>
    let isBlank := fun c => c = ' ' || c = '\t'
    skipFields n ((cs.dropWhile isBlank).dropWhile fun c => !isBlank c)

open OptionForm in
def uniq : Utility := fun args => do
  let g ← Options.read [named 'c' "count", named 'd' "repeated", named 'D' "",
    named 'u' "unique", named 'i' "ignore-case", named 'f' "skip-fields" .argument,
    named 's' "skip-chars" .argument, named 'w' "check-chars" .argument,
    named 'z' "zero-terminated"] args
  let number := fun (key : String) => (g.value? key).bind fun s => natural? s.toList
  match g.operands with
  | _ :: _ :: extra :: _ => Task.misuse 1 ("extra operand " ++ quoted extra)
  | _ =>
    let path := (orInput g.operands).headD "-"
    match ← Task.readOperand path with
    | .error e => Task.fail 1 (plainComplaint path e)
    | .ok text =>
      let keyOf := fun (l : List Char) =>
        let l := (skipFields ((number "f").getD 0) l).drop ((number "s").getD 0)
        let l := match number "w" with
          | some n => l.take n
          | none => l
        if g.has "i" then l.map Char.toLower else l
      let groups := groupsBy (fun a b => keyOf a = keyOf b) (plainLines text)
      let out := groups.flatMap fun ls =>
        let isShown := if g.has "d" then ls.length > 1
          else if g.has "u" then ls.length = 1 else true
        if g.has "D" then (if ls.length > 1 then ls.flatMap (· ++ ['\n']) else [])
        else if isShown then
          (if g.has "c" then (padded 7 (Text.ofNat ls.length) ++ " ").toList else []) ++
            ls.headD [] ++ ['\n']
        else []
      match g.operands with
      | [_, target] =>
        match ← Task.writeFile target (.ofList out) with
        | .ok _ => return 0
        | .error e => Task.fail 1 (plainComplaint target e)
      | _ =>
        printChars out
        return 0

/-! ## Columns -/

structure Span where
  first : Nat
  last : Option Nat

def Span.has (s : Span) (n : Nat) : Bool := s.first ≤ n && s.last.all (n ≤ ·)

def span? (cs : List Char) : Option Span :=
  match Text.cutAt '-' cs with
  | none => (natural? cs).map fun n => ⟨n, some n⟩
  | some ([], last) => (natural? last).map fun n => ⟨1, some n⟩
  | some (first, []) => (natural? first).map fun n => ⟨n, none⟩
  | some (first, last) => do return ⟨← natural? first, some (← natural? last)⟩

open OptionForm in
def cutForms : List OptionForm :=
  [named 'b' "bytes" .argument, named 'c' "characters" .argument, named 'f' "fields" .argument,
    named 'd' "delimiter" .argument, named 's' "only-delimited", named 'n' "", long "complement",
    long "output-delimiter" .argument, named 'z' "zero-terminated"]

def cut : Utility := fun args => do
  let g ← Options.read cutForms args
  match g.options.find? fun o => ["b", "c", "f"].contains o.1 with
  | none => Task.misuse 1 "you must specify a list of bytes, characters, or fields"
  | some (kind, text) =>
    let isFields := kind = "f"
    let what := if isFields then "field" else "byte/character"
    let parts := (Text.splitOn ',' text.toList).flatMap (Text.splitOn ' ')
    let mut spans := []
    for part in parts do
      match span? part with
      | some s =>
        if s.first = 0 then
          Task.misuse 1 ((if isFields then "fields" else "byte/character positions") ++
            " are numbered from 1")
        if s.last.any (· < s.first) then Task.misuse 1 "invalid decreasing range"
        spans := spans ++ [s]
      | none =>
        if part = ['-'] then Task.misuse 1 "invalid range with no endpoint: -"
        Task.misuse 1 ("invalid " ++ (if isFields then "field value" else what ++ " position") ++
          " " ++ quoted (.ofList part))
    if !isFields && g.has "d" then
      Task.misuse 1 "an input delimiter may be specified only when operating on fields"
    if let some d := g.value? "d" then
      if d.length > 1 then Task.misuse 1 "the delimiter must be a single character"
    let separator := ((g.value? "d").bind fun s => s.toList.head?).getD '\t'
    let joint := match g.value? "output-delimiter" with
      | some s => s.toList
      | none => if isFields then [separator] else []
    let isWanted := fun (n : Nat) => (spans.any fun s => s.has n) != g.has "complement"
    let pick := fun (xs : List (List Char)) =>
      joint.intercalate ((xs.zipIdx 1).filterMap fun x => if isWanted x.2 then some x.1 else none)
    forContents g.operands plainComplaint fun _ text =>
      for l in plainLines text do
        if isFields then
          if l.contains separator then printChars (pick (Text.splitOn separator l) ++ ['\n'])
          else if !g.has "s" then printChars (l ++ ['\n'])
        else printChars (pick (l.map fun c => [c]) ++ ['\n'])

def separators : List Char → List (List Char)
  | '\\' :: 'n' :: cs => ['\n'] :: separators cs
  | '\\' :: 't' :: cs => ['\t'] :: separators cs
  | '\\' :: '0' :: cs => [] :: separators cs
  | '\\' :: c :: cs => [c] :: separators cs
  | c :: cs => [c] :: separators cs
  | [] => []

def joinInTurn (separators : List (List Char)) (texts : List (List Char)) : List Char :=
  (texts.zipIdx.map fun (t, i) =>
    (if i = 0 then [] else separators[(i - 1) % separators.length]?.getD []) ++ t).flatten

def dealt (columns : Nat) (lines : List (List Char)) : List (List (List Char)) :=
  (List.range columns).map fun i =>
    (lines.zipIdx.filter fun l => l.2 % columns = i).map Prod.fst

def paste : Utility := fun args => do
  let g ← Options.read [.named 'd' "delimiters" .argument, .named 's' "serial",
    .named 'z' "zero-terminated"] args
  let marks := separators ((g.value? "d").getD "\t").toList
  let marks := if marks.isEmpty then [[]] else marks
  let paths := orInput g.operands
  let isSerial := g.has "s"
  let mut shares := []
  if !isSerial then
    let count := (paths.filter (· = "-")).length
    if count > 1 then shares := dealt count (plainLines (← Task.takeInput))
  let mut columns := []
  for path in paths do
    match path, shares with
    | "-", share :: rest =>
      columns := columns ++ [share]
      shares := rest
    | _, _ =>
      match ← Task.readOperand path with
      | .ok text => columns := columns ++ [plainLines text]
      | .error e => Task.fail 1 (plainComplaint path e)
  if isSerial then for c in columns do printChars (joinInTurn marks c ++ ['\n'])
  else
    let height := (columns.map List.length).foldl max 0
    for i in List.range height do
      printChars (joinInTurn marks (columns.map fun column => column[i]?.getD []) ++ ['\n'])
  return 0

/-! ## Numbers and widths of lines -/

def nl : Utility := fun args => do
  let g ← Options.read (OptionForm.valued "bdfhilnsvw" ++ [.named 'p' ""]) args
  let number := fun (key : String) (usual : Nat) =>
    ((g.value? key).bind fun s => natural? s.toList).getD usual
  let style := (g.value? "b").getD "t"
  let mark := ((g.value? "s").getD "\t").toList
  let width := number "w" 6
  let mut n := number "v" 1
  let mut status := 0
  for path in orInput g.operands do
    match ← Task.readOperand path with
    | .error e =>
      Task.say (plainComplaint path e)
      status := 1
    | .ok text =>
      for l in plainLines text do
        if style = "a" || style = "t" && !l.isEmpty then
          let digits := Text.ofNat n
          let shown := match g.value? "n" with
            | some "ln" => digits ++ String.ofList (List.replicate (width - digits.length) ' ')
            | some "rz" => zeroPadded width digits
            | _ => padded width digits
          printChars (shown.toList ++ mark ++ l ++ ['\n'])
          n := n + number "i" 1
        else printChars (List.replicate (width + mark.length) ' ' ++ l ++ ['\n'])
  return status

def foldLine (width : Nat) (atBlanks : Bool) : Nat → List Char → List (List Char)
  | 0, cs => [cs]
  | n + 1, cs =>
    if cs.length ≤ width then [cs]
    else
      let part := cs.take width
      let upToBlank := (part.reverse.dropWhile fun c => c ≠ ' ' && c ≠ '\t').reverse
      let part := if atBlanks && !upToBlank.isEmpty then upToBlank else part
      part :: foldLine width atBlanks n (cs.drop part.length)

def fold : Utility := fun args => do
  let args := match args with
    | arg :: rest =>
      match arg.toList with
      | '-' :: c :: cs => if (c :: cs).all Char.isDigit then "-w" :: String.ofList (c :: cs) :: rest
        else args
      | _ => args
    | [] => args
  let g ← Options.read [.named 'b' "bytes", .named 's' "spaces", .named 'w' "width" .argument] args
  let text := (g.value? "w").getD "80"
  match (natural? text.toList).filter (0 < ·) with
  | none => Task.fail 1 ("invalid number of columns: " ++ quoted text)
  | some width =>
    forContents g.operands plainComplaint fun _ text =>
      for l in keptLines text do
        let isEnded := l.getLast? = some '\n'
        let body := if isEnded then l.dropLast else l
        printChars (['\n'].intercalate (foldLine width (g.has "s") body.length body) ++
          if isEnded then ['\n'] else [])

end Reporting.Shell.Utility
