import Reporting.Shell.Pattern
import Reporting.Shell.Utility.Lines

/-!
Programs that work on single bytes: putting some for others, showing them by their numbers, coding,
comparing and copying them.
-/

namespace Reporting.Shell.Utility

/-! ## Exchange of characters -/

inductive SetPart where
  | one (c : Char)
  | many (cs : List Char)
  | letters (name : String)
  | fill (c : Char)
  deriving Repr

def unescapedFrom : Nat → List Char → List (Char × Bool)
  | 0, _ => []
  | _, [] => []
  | n + 1, '\\' :: c :: cs =>
    if '0' ≤ c && c ≤ '7' then
      let (value, rest) := octalPrefix 3 (c :: cs)
      (.ofNat (value % 256), true) :: unescapedFrom n rest
    else
      let d :=
        match c with
        | 'a' => .ofNat 7
        | 'b' => .ofNat 8
        | 'f' => .ofNat 12
        | 'n' => '\n'
        | 'r' => '\r'
        | 't' => '\t'
        | 'v' => .ofNat 11
        | c => c
      (d, true) :: unescapedFrom n cs
  | n + 1, c :: cs => (c, false) :: unescapedFrom n cs

def bytes256 : List Char := (List.range 256).map .ofNat

def bracketPart? (cs : List (Char × Bool)) :
    Option (Except String SetPart × List (Char × Bool)) :=
  let chars := cs.map Prod.fst
  match cs with
  | (':', false) :: more =>
    let name := (more.map Prod.fst).takeWhile (· ≠ ':')
    match more.drop name.length with
    | (':', _) :: (']', _) :: rest =>
      let name := String.ofList name
      some (if classNames.contains name then .ok (.letters name)
        else .error ("invalid character class " ++ quoted name), rest)
    | _ => none
  | ('=', false) :: (c, _) :: ('=', _) :: (']', _) :: rest => some (.ok (.one c), rest)
  | (c, _) :: ('*', false) :: more =>
    let digits := (chars.drop 2).takeWhile Char.isDigit
    match more.drop digits.length with
    | (']', _) :: rest =>
      let n := match digits with
        | '0' :: ds => (octalPrefix ds.length ds).1
        | ds => (natural? ds).getD 0
      some (.ok (if n = 0 then .fill c else .many (List.replicate n c)), rest)
    | _ => none
  | _ => none

def setPartsFrom : Nat → List (Char × Bool) → Except String (List SetPart)
  | 0, _ => .ok []
  | _, [] => .ok []
  | n + 1, c :: cs =>
    let plain : Except String (List SetPart) :=
      match cs with
      | ('-', false) :: (d, _) :: rest =>
        if d < c.1 then
          .error ("range-endpoints of '" ++ .singleton c.1 ++ "-" ++ .singleton d ++
            "' are in reverse collating sequence order")
        else do
          let range := (List.range (d.toNat + 1 - c.1.toNat)).map fun k => .ofNat (c.1.toNat + k)
          return .many range :: (← setPartsFrom n rest)
      | cs => do return .one c.1 :: (← setPartsFrom n cs)
    if c = ('[', false) then
      match bracketPart? cs with
      | some (part, rest) => do return (← part) :: (← setPartsFrom n rest)
      | none => plain
    else plain

def setParts (s : String) : Except String (List SetPart) :=
  let cs := unescapedFrom s.length s.toList
  setPartsFrom cs.length cs

def expandSet (length : Nat) (parts : List SetPart) : List Char :=
  let size := fun (p : SetPart) =>
    match p with
    | .one _ => 1
    | .many cs => cs.length
    | .letters name => (bytes256.filter (isInClass name)).length
    | .fill _ => 0
  let fixed := (parts.map size).foldl (· + ·) 0
  parts.flatMap fun p =>
    match p with
    | .one c => [c]
    | .many cs => cs
    | .letters name => bytes256.filter (isInClass name)
    | .fill c => List.replicate (length - fixed) c

def squeezed (isIn : Char → Bool) : Option Char → List Char → List Char
  | _, [] => []
  | before, c :: cs =>
    if before = some c && isIn c then squeezed isIn before cs else c :: squeezed isIn (some c) cs

open OptionForm in
def tr : Utility := fun args => do
  let g ← Options.read [named 'c' "complement", named 'C' "", named 'd' "delete",
    named 's' "squeeze-repeats", named 't' "truncate-set1"] args 1 true
  let deletes := g.has "d"
  let squeezes := g.has "s"
  let most := if deletes && !squeezes then 1 else 2
  let least := if deletes = squeezes then 2 else 1
  match g.operands with
  | [] => Task.misuse 1 "missing operand"
  | first :: more =>
    if g.operands.length < least then
      Task.misuse 1 ("missing operand after " ++ quoted first ++ "\n" ++
        (if squeezes then "Two strings must be given when both deleting and squeezing repeats."
          else "Two strings must be given when translating."))
    if let some extra := g.operands[most]? then
      Task.misuse 1 ("extra operand " ++ quoted extra ++
        if deletes && g.operands.length = 2 then
          "\nOnly one string may be given when deleting without squeezing repeats." else "")
    let read := fun (s : String) => do
      match setParts s with
      | .ok parts => pure parts
      | .error e => Task.fail 1 e
    let firstSet := expandSet 0 (← read first)
    let isComplement := g.has "c" || g.has "C"
    let firstSet := if isComplement then bytes256.filter fun c => !firstSet.contains c else firstSet
    let secondParts ← match more with
      | second :: _ => read second
      | [] => pure []
    let secondSet := expandSet firstSet.length secondParts
    let translates := !deletes && !more.isEmpty
    if translates && secondSet.isEmpty && !g.has "t" then
      Task.fail 1 "when not truncating set1, string2 must be non-empty"
    let text ← Task.takeInput
    let firstSet := if g.has "t" && translates then firstSet.take secondSet.length else firstSet
    let table : Array Char := firstSet.zipIdx.foldl
      (fun table (c, i) =>
        table.set! c.toNat ((secondSet[i]?.or secondSet.getLast?).getD c)) bytes256.toArray
    let text :=
      if deletes then text.filter fun c => !firstSet.contains c
      else if translates then text.map fun c => table[c.toNat]?.getD c
      else text
    let squeezeSet := if more.isEmpty then firstSet else secondSet
    printChars (if squeezes then squeezed squeezeSet.contains none text else text)
    return 0

/-! ## Bytes by their numbers -/

structure UnitForm where
  size : Nat
  width : Nat
  show_ : Nat → String
  showsText : Bool := false

def namedByte (n : Nat) : String :=
  match (Char.ofNat n) with
  | '\x00' => "\\0"
  | '\n' => "\\n"
  | '\t' => "\\t"
  | '\r' => "\\r"
  | c =>
    if n = 7 then "\\a" else if n = 8 then "\\b" else if n = 11 then "\\v" else if n = 12 then "\\f"
    else if 32 ≤ n && n < 127 then .singleton c
    else .ofList (octal3 n)

def signed (size n : Nat) : String :=
  if 2 * n < Nat.pow 256 size then Text.ofNat n
  else Text.ofInt ((n : Int) - (Nat.pow 256 size : Nat))

def unitForm? (letter : Char) (size : Nat) : Option UnitForm :=
  let digits := fun (base : Nat) => (inBase base (Nat.pow 256 size - 1)).length
  match letter with
  | 'x' => some ⟨size, digits 16, fun n => zeroPadded (digits 16) (.ofList (inBase 16 n)), false⟩
  | 'o' => some ⟨size, digits 8, fun n => zeroPadded (digits 8) (.ofList (inBase 8 n)), false⟩
  | 'u' => some ⟨size, digits 10, Text.ofNat, false⟩
  | 'd' => some ⟨size, (signed size (Nat.pow 256 size / 2)).length, signed size, false⟩
  | 'c' => some ⟨1, 3, namedByte, false⟩
  | _ => none

def unitFormsFrom : Nat → List Char → Option (List UnitForm)
  | 0, _ => none
  | _, [] => some []
  | n + 1, letter :: cs => do
    let ds := cs.takeWhile Char.isDigit
    let (size, rest) := match cs with
      | 'C' :: rest => (1, rest)
      | 'S' :: rest => (2, rest)
      | 'I' :: rest => (4, rest)
      | 'L' :: rest => (8, rest)
      | _ => ((natural? ds).getD 4, cs.drop ds.length)
    let f ← unitForm? letter size
    let (f, rest) := match rest with
      | 'z' :: rest => ({ f with showsText := true }, rest)
      | rest => (f, rest)
    return f :: (← unitFormsFrom n rest)

def chunks (size : Nat) : Nat → List Char → List (List Char)
  | 0, _ => []
  | _, [] => []
  | n + 1, cs => cs.take size :: chunks size n (cs.drop size)

def littleEndian (cs : List Char) : Nat := cs.foldr (fun c n => c.toNat + 256 * n) 0

def dumpLine (f : UnitForm) (perLine : Nat) (cs : List Char) : String :=
  let units := chunks f.size cs.length cs
  let text := String.join (units.map fun u => " " ++ padded f.width (f.show_ (littleEndian u)))
  if f.showsText then
    let rest := (perLine / f.size - units.length) * (f.width + 1)
    text ++ .ofList (List.replicate rest ' ') ++ "  >" ++
      .ofList (cs.map fun c => if 32 ≤ c.toNat && c.toNat < 127 then c else '.') ++ "<"
  else text

open OptionForm in
def od : Utility := fun args => do
  let g ← Options.read ([named 'A' "address-radix" .argument, named 'j' "skip-bytes" .argument,
    named 'N' "read-bytes" .argument, named 't' "format" .argument,
    named 'v' "output-duplicates", named 'w' "width" .perhaps] ++ flags "abcdfilosxz") args
  let described := g.options.filterMap fun (key, value) =>
    match key with
    | "t" => some value
    | "c" => some "c"
    | "b" => some "o1"
    | "x" => some "x2"
    | "o" => some "o2"
    | "d" => some "u2"
    | "s" => some "d2"
    | "i" => some "d4"
    | _ => none
  let mut forms := []
  for text in if described.isEmpty then ["o2"] else described do
    match unitFormsFrom (text.length + 1) text.toList with
    | some fs => forms := forms ++ fs
    | none => Task.fail 1 ("invalid type string " ++ quoted text)
  let perLine := match g.value? "w" with
    | some w => (natural? w.toList).getD 32
    | none => 16
  let mut text := []
  let mut status := 0
  for path in orInput g.operands do
    match ← Task.readOperand path with
    | .ok more => text := text ++ more
    | .error e =>
      Task.say (plainComplaint path e)
      status := 1
  let skipped := ((g.value? "j").bind size?).getD 0
  text := text.drop skipped
  if let some n := (g.value? "N").bind size? then text := text.take n
  let address := fun (n : Nat) =>
    match g.value? "A" with
    | some "n" => ""
    | some "d" => zeroPadded 7 (Text.ofNat n)
    | some "x" => zeroPadded 6 (.ofList (inBase 16 n))
    | _ => zeroPadded 7 (.ofList (inBase 8 n))
  let gap := .ofList (List.replicate (address 0).length ' ')
  let wide := (forms.map fun f => perLine / f.size * (f.width + 1)).foldl max 0
  let mut before : Option (List Char) := none
  let mut isMarked := false
  let mut place := skipped
  for line in chunks perLine text.length text do
    if before = some line && line.length = perLine && !g.has "v" then
      if !isMarked then Task.print "*\n"
      isMarked := true
    else
      let shown := forms.map fun f =>
        let count := perLine / f.size
        dumpLine { f with width := wide / count - 1 } perLine line
      for (s, i) in shown.zipIdx do Task.print ((if i = 0 then address place else gap) ++ s ++ "\n")
      isMarked := false
    before := some line
    place := place + line.length
  if (address 0).length > 0 then Task.print (address place ++ "\n")
  return status

/-! ## Coding -/

def alphabet : List Char :=
  "ABCDEFGHIJKLMNOPQRSTUVWXYZabcdefghijklmnopqrstuvwxyz0123456789+/".toList

def encode64 : List Char → List Char
  | a :: b :: c :: cs =>
    let n := a.toNat * 65536 + b.toNat * 256 + c.toNat
    [n / 262144, n / 4096 % 64, n / 64 % 64, n % 64].map (alphabet[·]?.getD '=') ++ encode64 cs
  | [a, b] =>
    let n := a.toNat * 65536 + b.toNat * 256
    [n / 262144, n / 4096 % 64, n / 64 % 64].map (alphabet[·]?.getD '=') ++ ['=']
  | [a] =>
    let n := a.toNat * 65536
    [n / 262144, n / 4096 % 64].map (alphabet[·]?.getD '=') ++ ['=', '=']
  | [] => []

def decode64 : List Char → List Char × Bool
  | [] => ([], true)
  | a :: b :: c :: d :: cs =>
    match alphabet.idxOf? a, alphabet.idxOf? b, alphabet.idxOf? c, alphabet.idxOf? d with
    | some w, some x, some y, some z =>
      let n := w * 262144 + x * 4096 + y * 64 + z
      let (rest, isGood) := decode64 cs
      (([n / 65536, n / 256 % 256, n % 256].map Char.ofNat) ++ rest, isGood)
    | some w, some x, some y, none =>
      let n := w * 262144 + x * 4096 + y * 64
      ([n / 65536, n / 256 % 256].map Char.ofNat, d = '=' && cs.isEmpty)
    | some w, some x, none, _ =>
      ([Char.ofNat ((w * 64 + x) / 16)], c = '=' && d = '=' && cs.isEmpty)
    | _, _, _, _ => ([], false)
  | a :: b :: more =>
    match alphabet.idxOf? a, alphabet.idxOf? b with
    | some w, some x =>
      let second := match more.head?.bind alphabet.idxOf? with
        | some y => [Char.ofNat ((x * 64 + y) / 4 % 256)]
        | none => []
      (Char.ofNat ((w * 64 + x) / 16) :: second, false)
    | _, _ => ([], false)
  | [_] => ([], false)

def base64 : Utility := fun args => do
  let g ← Options.read [.named 'd' "decode", .named 'i' "ignore-garbage",
    .named 'w' "wrap" .argument] args
  let path := (orInput g.operands).headD "-"
  match ← Task.readOperand path with
  | .error e => Task.fail 1 (plainComplaint path e)
  | .ok text =>
    if g.has "d" then
      let letters := text.filter fun c => if g.has "i" then alphabet.contains c || c = '='
        else c ≠ '\n'
      let (out, isGood) := decode64 letters
      printChars out
      if !isGood then
        modify Task.flushed
        Task.fail 1 "invalid input"
      return 0
    match natural? ((g.value? "w").getD "76").toList with
    | none => Task.fail 1 ("invalid wrap size: " ++ quoted ((g.value? "w").getD ""))
    | some 0 => printChars (encode64 text)
    | some width =>
      let out := encode64 text
      printChars ((chunks width out.length out).flatMap (· ++ ['\n']))
    return 0

/-! ## Comparing and copying -/

def cmp : Utility := fun args => do
  let g ← Options.read [.named 'b' "print-bytes", .named 'l' "verbose", .named 's' "quiet",
    .long "silent", .named 'i' "ignore-initial" .argument, .named 'n' "bytes" .argument] args 2
  match g.operands with
  | [] => Task.fail 2 ("missing operand after " ++ quoted (← get).name ++ "\n" ++
      (← get).name ++ ": " ++ (← Task.hint))
  | first :: more =>
    let second := more.headD "-"
    let read := fun (path : String) => do
      match ← Task.readOperand path with
      | .ok text => return match (g.value? "n").bind size? with
          | some n => text.take n
          | none => text
      | .error e =>
        if g.has "s" then throw 2
        Task.fail 2 (path ++ ": " ++ e.reason)
    let a ← read first
    let b ← read second
    let different := (a.zip b).zipIdx.filter fun p => p.1.1 ≠ p.1.2
    let short := if a.length < b.length then first else second
    let size := min a.length b.length
    if g.has "l" then
      let width := (Text.ofNat (max a.length b.length)).length
      for (p, i) in different do
        let oct := fun (c : Char) => padded 3 (.ofList (inBase 8 c.toNat))
        Task.print (padded width (Text.ofNat (i + 1)) ++ " " ++ oct p.1 ++ " " ++ oct p.2 ++ "\n")
    match different with
    | (_, i) :: _ =>
      if !g.has "s" && !g.has "l" then
        Task.print (first ++ " " ++ second ++ " differ: char " ++ Text.ofNat (i + 1) ++ ", line " ++
          Text.ofNat ((a.take i).count '\n' + 1) ++ "\n")
      if g.has "l" && a.length ≠ b.length then
        Task.say ("EOF on " ++ short ++ " after byte " ++ Text.ofNat size)
      return 1
    | [] =>
      if a.length = b.length then return 0
      if !g.has "s" then
        let lines := (a.take size).count '\n'
        let place :=
          if size = 0 then " which is empty"
          else " after byte " ++ Text.ofNat size ++
            if g.has "l" then ""
            else if (a.take size).getLast? = some '\n' then ", line " ++ Text.ofNat lines
            else ", in line " ++ Text.ofNat (lines + 1)
        Task.say ("EOF on " ++ short ++ place)
      return 1

def dd : Utility := fun args => do
  let names := ["if", "of", "bs", "ibs", "obs", "cbs", "count", "skip", "seek", "conv", "status",
    "iflag", "oflag"]
  let mut given : List (String × String) := []
  for arg in args do
    match Text.cutAt '=' arg.toList with
    | some (name, value) =>
      if !names.contains (.ofList name) then
        Task.misuse 1 ("unrecognized operand " ++ quoted arg)
      given := (.ofList name, .ofList value) :: given
    | none => Task.misuse 1 ("unrecognized operand " ++ quoted arg)
  let mut sizes : List (String × Nat) := []
  for (name, value) in given do
    if ["bs", "ibs", "obs", "count", "skip", "seek"].contains name then
      match size? value with
      | some n => sizes := (name, n) :: sizes
      | none => Task.fail 1 ("invalid number: " ++ quoted value)
  let size := fun (name : String) (usual : Nat) => (sizes.lookup name).getD usual
  let conversions := Text.splitOn ',' ((given.lookup "conv").getD "").toList
  let converts := fun (name : String) => conversions.contains name.toList
  let text ← match given.lookup "if" with
    | none => Task.takeInput
    | some path =>
      match ← Task.readFile path with
      | .ok text => pure text
      | .error .isDirectory => Task.fail 1 ("error reading " ++ quoted path ++ ": Is a directory")
      | .error e => Task.fail 1 ("failed to open " ++ quoted path ++ ": " ++ e.reason)
  let block := size "bs" (size "ibs" 512)
  let rest := text.drop (size "skip" 0 * block)
  let part := match sizes.lookup "count" with
    | some n => rest.take (n * block)
    | none => rest
  if (given.lookup "if").isNone then modify fun t => { t with input := rest.drop part.length }
  let part := if converts "ucase" then part.map Char.toUpper
    else if converts "lcase" then part.map Char.toLower
    else part
  match given.lookup "of" with
  | none => printChars part
  | some path =>
    let start := size "seek" 0 * size "bs" (size "obs" 512)
    let old ← match ← Task.readFile path with
      | .ok old => pure old
      | .error _ => pure []
    let before := old.take start ++ List.replicate (start - old.length) '\x00'
    let after := if converts "notrunc" then old.drop (start + part.length) else []
    if let .error e ← Task.writeFile path (.ofList (before ++ part ++ after)) then
      Task.fail 1 ("failed to open " ++ quoted path ++ ": " ++ e.reason)
  if given.lookup "status" ≠ some "none" then
    let blocks := Text.ofNat (part.length / block) ++ "+" ++
      (if part.length % block = 0 then "0" else "1")
    Task.sayRaw (blocks ++ " records in\n" ++ blocks ++ " records out\n")
  return 0

end Reporting.Shell.Utility
