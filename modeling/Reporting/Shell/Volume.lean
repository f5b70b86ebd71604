import Reporting.Files.Tree

/-!
Files as the programs of a shell share them. One content can stand at several places, and it stays
as long as a channel leads to it, even where it stands nowhere any more.
-/

namespace Reporting.Shell

def nowhere : Location := ["dev", "null"]

structure Volume where
  tree : Tree
  /-- The numbers of files by where they stand. A file without a number stands at one place. -/
  numbers : Entries Location Nat := .empty
  unplaced : Entries Nat ByteArray := .empty
  modes : Entries Nat Nat := .empty
  nextNumber : Nat := 0
  mask : Nat := 18

namespace Volume

def entryAt (v : Volume) (l : Location) : Option FileEntry := v.tree.entryAt l

def locate (v : Volume) (path : String) : Except FileError Location := v.tree.locate path

def lookup (v : Volume) (path : String) : Except FileError FileEntry := v.tree.lookup path

def hasEntry (v : Volume) (path : String) : Bool := v.tree.hasEntry path

def read (v : Volume) (path : String) : Except FileError ByteArray := v.tree.read path

def children (v : Volume) (l : Location) : List (String × FileEntry) := v.tree.children l

/-! ## Numbers -/

def numbered (v : Volume) (l : Location) : Nat × Volume :=
  match v.numbers.get? l with
  | some n => (n, v)
  | none =>
    (v.nextNumber,
      { v with numbers := v.numbers.insert l v.nextNumber, nextNumber := v.nextNumber + 1 })

def places (v : Volume) (n : Nat) : List Location :=
  v.numbers.toList.filterMap fun e => if e.2 = n then some e.1 else none

def isSame (v : Volume) (l m : Location) : Bool :=
  l = m || (v.numbers.get? l).any fun n => v.numbers.get? m = some n

def placeCount (v : Volume) (l : Location) : Nat :=
  match v.numbers.get? l with
  | some n => (v.places n).length
  | none => 1

def content (v : Volume) (n : Nat) : ByteArray :=
  match (v.places n).head?.bind v.tree.entryAt with
  | some (.file bytes) => bytes
  | _ => (v.unplaced.get? n).getD .empty

def setContent (v : Volume) (n : Nat) (bytes : ByteArray) : Volume :=
  match v.places n with
  | [] => { v with unplaced := v.unplaced.insert n bytes }
  | ls => { v with tree := ls.foldl (fun t l => t.put l (.file bytes)) v.tree }

/-! ## Permissions -/

def mode (v : Volume) (l : Location) : Nat :=
  match (v.numbers.get? l).bind v.modes.get? with
  | some perms => perms
  | none => if v.tree.entryAt l matches some .directory then 493 else 420

def setMode (v : Volume) (l : Location) (perms : Nat) : Volume :=
  if v.mode l = perms then v
  else
    let (n, v) := v.numbered l
    { v with modes := v.modes.insert n perms }

def masked (v : Volume) (perms : Nat) : Nat := Nat.xor (perms ||| v.mask) v.mask

def isRunnable (v : Volume) (l : Location) : Bool := v.mode l &&& 73 ≠ 0

def ofTree (t : Tree) : Volume :=
  t.entries.toList.foldl
    (fun v e => match e.2 with
      | .file _ => v.setMode e.1 384
      | .directory => v) { tree := t }

/-! ## Changes -/

def makeDirectory (v : Volume) (l : Location) : Volume :=
  let w := { v with tree := v.tree.put l .directory }
  w.setMode l (v.masked 511)

def fill (v : Volume) (l : Location) (bytes : ByteArray) : Volume :=
  match v.tree.entryAt l, v.numbers.get? l with
  | some _, some n => v.setContent n bytes
  | some _, none => { v with tree := v.tree.put l (.file bytes) }
  | none, _ =>
    let w := { v with tree := v.tree.put l (.file bytes) }
    w.setMode l (v.masked 438)

def write (v : Volume) (path : String) (bytes : ByteArray) : Except FileError Volume :=
  match v.locate path with
  | .error e => .error e
  | .ok l =>
    match v.entryAt l with
    | some .directory => .error .isDirectory
    | _ => .ok (v.fill l bytes)

def cut (v : Volume) (l : Location) : Volume :=
  let left := v.numbers.filterKeys fun m => !l.isPrefixOf m
  let gone := (v.numbers.toList.filter fun e => l.isPrefixOf e.1).map Prod.snd
  let last := gone.filter fun n => !left.values.contains n
  { v with
    tree := v.tree.cut l
    numbers := left
    unplaced := last.foldl (fun us n => us.insert n (v.content n)) v.unplaced }

def move (v : Volume) (l m : Location) : Volume :=
  match v.entryAt l with
  | none => v
  | some top =>
    let v := v.cut m
    let place := fun (k : Location) => m ++ k.drop l.length
    let (moved, rest) := v.numbers.toList.partition fun e => l.isPrefixOf e.1
    { v with
      tree := (v.tree.below l).foldl (fun t e => t.put (m ++ e.1) e.2) ((v.tree.cut l).put m top)
      numbers := .ofList (rest ++ moved.map fun e => (place e.1, e.2)) }

def link (v : Volume) (l m : Location) : Volume :=
  match v.entryAt l with
  | none => v
  | some x =>
    let (n, v) := v.numbered l
    { v with tree := v.tree.put m x, numbers := v.numbers.insert m n }

end Volume

end Reporting.Shell
