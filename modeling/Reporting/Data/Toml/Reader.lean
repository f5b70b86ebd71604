import Reporting.Data.Toml.Scalar
import Reporting.Data.Toml.Strings
import Reporting.Data.Toml.Tree

/-!
Reading TOML text: lines with entries under dotted keys and with headers of tables. Text that is not
of the format is refused as a whole.
-/

namespace Reporting.Toml

/-- What follows a comment or a gap up to the end of its line, if the comment is well formed. -/
def dropComment? (cs : List Char) : Option (List Char) :=
  match cs.dropWhile isGap with
  | '#' :: cs =>
    let rest := cs.dropWhile fun c => !isControl c
    match rest with
    | [] => some []
    | '\n' :: _ => some rest
    | '\r' :: '\n' :: _ => some rest
    | _ => none
  | rest => some rest

def dropBlank? : Nat → List Char → Option (List Char)
  | 0, _ => none
  | fuel + 1, cs =>
    match dropComment? cs with
    | some ('\n' :: cs) => dropBlank? fuel cs
    | some ('\r' :: '\n' :: cs) => dropBlank? fuel cs
    | some cs => some cs
    | none => none

def isWordChar (c : Char) : Bool :=
  "=,[]\x7b\x7d \t#\r\n".toList.all (· ≠ c)

/-- Whether a word goes on behind a gap, as a date does with a time; a text in quotes is another. -/
def goesOn (cs : List Char) : Bool :=
  (cs.dropWhile isGap).head?.any fun c => isWordChar c && c ≠ '\x22' && c ≠ '\x27'

def word : List Char → List Char × List Char
  | [] => ([], [])
  | c :: cs =>
    if isWordChar c || isGap c && goesOn cs then
      let (w, rest) := word cs
      (c :: w, rest)
    else ([], c :: cs)

mutual

def value? : Nat → Nat → List Char → Option (Node × List Char)
  | 0, _, _ => none
  | fuel + 1, depth, cs =>
    match cs with
    | '[' :: cs =>
      if depth = 0 then none
      else (items? fuel (depth - 1) cs).map fun (ns, rest) => (.list ns .closed, rest)
    | '\x7b' :: cs =>
      if depth = 0 then none
      else
        (entries? fuel (depth - 1) [] cs).map fun (bs, rest) => (.ofEntries (branchNodes bs), rest)
    | '\x22' :: _ => (string? cs).map fun (s, rest) => (.string (.ofList s), rest)
    | '\x27' :: _ => (string? cs).map fun (s, rest) => (.string (.ofList s), rest)
    | cs =>
      let (w, rest) := word cs
      (scalar? w).map fun n => (n, rest)

/-- The items of a list up to its closing bracket; a comma may stand after the last one. -/
def items? : Nat → Nat → List Char → Option (List Node × List Char)
  | 0, _, _ => none
  | fuel + 1, depth, cs =>
    match dropBlank? (cs.length + 1) cs with
    | none => none
    | some (']' :: rest) => some ([], rest)
    | some cs =>
      match value? fuel depth cs with
      | none => none
      | some (n, rest) =>
        match dropBlank? (rest.length + 1) rest with
        | some (']' :: rest) => some ([n], rest)
        | some (',' :: rest) => (items? fuel depth rest).map fun (ns, rest) => (n :: ns, rest)
        | _ => none

/--
The entries of an inline table up to its closing brace; a comma may stand after the last one. Blanks
may stand between all parts of it, but not within a key.
-/
def entries? : Nat → Nat → Branches → List Char → Option (Branches × List Char)
  | 0, _, _, _ => none
  | fuel + 1, depth, bs, cs =>
    match dropBlank? (cs.length + 1) cs with
    | none => none
    | some ('\x7d' :: rest) => some (bs, rest)
    | some cs =>
      match entry? fuel depth bs cs with
      | none => none
      | some (bs, rest) =>
        match dropBlank? (rest.length + 1) rest with
        | some ('\x7d' :: rest) => some (bs, rest)
        | some (',' :: rest) => entries? fuel depth bs rest
        | _ => none

def entry? : Nat → Nat → Branches → List Char → Option (Branches × List Char)
  | 0, _, _, _ => none
  | fuel + 1, depth, bs, cs =>
    match key? cs with
    | none => none
    | some (path, rest) =>
      match dropBlank? (rest.length + 1) rest with
      | some ('=' :: rest) =>
        match (dropBlank? (rest.length + 1) rest).bind (value? fuel depth) with
        | none => none
        | some (n, rest) => (addEntry path n .header bs).map fun bs => (bs, rest)
      | _ => none

end

structure Draft where
  root : Branches
  path : List String

namespace Draft

def statement? (d : Draft) (cs : List Char) : Option (Draft × List Char) :=
  let fuel := 2 * cs.length + 1
  match cs with
  | '[' :: '[' :: cs =>
    match key? cs with
    | some (path, ']' :: ']' :: rest) =>
      (openFurther path d.root).map fun root => (⟨root, path⟩, rest)
    | _ => none
  | '[' :: cs =>
    match key? cs with
    | some (path, ']' :: rest) => (openTable path d.root).map fun root => (⟨root, path⟩, rest)
    | _ => none
  | cs =>
    match key? cs with
    | some (path, '=' :: rest) =>
      match value? fuel depthLimit (rest.dropWhile isGap) with
      | none => none
      | some (n, rest) =>
        (changeAt false (addEntry path n) d.path .header d.root).map fun root =>
          ({ d with root := root }, rest)
    | _ => none

def run : Nat → Draft → List Char → Option Draft
  | 0, _, _ => none
  | fuel + 1, d, cs =>
    match dropBlank? (cs.length + 1) cs with
    | none => none
    | some [] => some d
    | some cs =>
      match d.statement? cs with
      | none => none
      | some (d, rest) =>
        match dropComment? rest with
        | some [] => some d
        | some ('\n' :: rest) => run fuel d rest
        | some ('\r' :: '\n' :: rest) => run fuel d rest
        | _ => none

end Draft

def read? (s : String) : Option Node :=
  -- A byte-order mark may come first.
  let cs :=
    match s.toList with
    | '\uFEFF' :: cs => cs
    | cs => cs
  (Draft.run (cs.length + 1) ⟨[], []⟩ cs).map fun d => (Node.ofEntries (branchNodes d.root)).sorted

end Reporting.Toml
