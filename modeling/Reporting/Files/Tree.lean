import Reporting.Entries
import Reporting.Files.Path
import Reporting.Powers

/-!
Trees of files: directories and files by where they stand, and the operations on them that a report
needs. A file can be made only where its directory exists.
-/

namespace Reporting

inductive FileError where
  | notFound
  | notDirectory
  | isDirectory
  | nameTooLong
  | nulByte
  | notText
  | denied
  deriving DecidableEq, Repr

namespace FileError

def reason : FileError → String
  | notFound => "No such file or directory"
  | notDirectory => "Not a directory"
  | isDirectory => "Is a directory"
  | nameTooLong => "File name too long"
  | nulByte => "file name contained an unexpected NUL byte"
  | notText => "stream did not contain valid UTF-8"
  | denied => "Permission denied"

def number? : FileError → Option Nat
  | notFound => some 2
  | notDirectory => some 20
  | isDirectory => some 21
  | nameTooLong => some 36
  | nulByte => none
  | notText => none
  | denied => some 13

def message (e : FileError) : String :=
  match e.number? with
  | some n => e.reason ++ " (os error " ++ Text.ofNat n ++ ")"
  | none => e.reason

end FileError

def textOf (bytes : ByteArray) : Except FileError String :=
  match String.fromUTF8? bytes with
  | some s => .ok s
  | none => .error .notText

abbrev Location := List String

inductive FileEntry where
  | directory
  | file (content : ByteArray)

structure Tree where
  entries : Entries Location FileEntry

namespace Tree

def empty : Tree := ⟨.empty⟩

instance : Inhabited Tree := ⟨empty⟩

def entryAt (t : Tree) (l : Location) : Option FileEntry :=
  if l.isEmpty then some .directory else t.entries.get? l

/-- Goes from a directory along names, each of which has to be looked up in a directory. -/
def follow (t : Tree) : Location → List String → Except FileError Location
  | here, [] => .ok here
  | here, name :: names =>
    match t.entryAt here with
    | none => .error .notFound
    | some (.file _) => .error .notDirectory
    | some .directory =>
      if Path.isIdle name then follow t here names
      else if name = ".." then follow t here.dropLast names
      else if Path.nameLimit < name.utf8ByteSize then .error .nameTooLong
      else follow t (here ++ [name]) names

/-- Where a path leads, starting from the root; nothing need be there, except for the way to it. -/
def locate (t : Tree) (path : String) : Except FileError Location :=
  if path.isEmpty then .error .notFound
  else if '\x00' ∈ path.toList then .error .nulByte
  else if Path.isTooLong path then .error .nameTooLong
  else t.follow [] (Path.names path)

def lookup (t : Tree) (path : String) : Except FileError FileEntry :=
  match t.locate path with
  | .error e => .error e
  | .ok l =>
    match t.entryAt l with
    | some x => .ok x
    | none => .error .notFound

def hasEntry (t : Tree) (path : String) : Bool :=
  match t.lookup path with
  | .ok _ => true
  | .error _ => false

def read (t : Tree) (path : String) : Except FileError ByteArray :=
  match t.lookup path with
  | .ok (.file content) => .ok content
  | .ok .directory => .error .isDirectory
  | .error e => .error e

def readText (t : Tree) (path : String) : Except FileError String :=
  match t.read path with
  | .ok bytes => textOf bytes
  | .error e => .error e

def put (t : Tree) (l : Location) (x : FileEntry) : Tree := ⟨t.entries.insert l x⟩

@[simp] theorem entryAt_root (t : Tree) : t.entryAt [] = some .directory := rfl

theorem entryAt_put_self (t : Tree) {l : Location} (x : FileEntry) (h : l ≠ []) :
    (t.put l x).entryAt l = some x := by
  have hl : l.isEmpty = false := List.isEmpty_eq_false_iff.mpr h
  simp [entryAt, put, hl]

theorem entryAt_put_of_ne (t : Tree) {l m : Location} (x : FileEntry) (h : m ≠ l) :
    (t.put l x).entryAt m = t.entryAt m := by
  unfold entryAt put
  rw [Entries.get?_insert_of_ne _ _ h]

def write (t : Tree) (path : String) (content : ByteArray) : Except FileError Tree :=
  match t.locate path with
  | .error e => .error e
  | .ok l =>
    match t.entryAt l with
    | some .directory => .error .isDirectory
    | _ => .ok (t.put l (.file content))

def remove (t : Tree) (path : String) : Tree :=
  -- Where there is no file, nothing changes.
  match t.locate path with
  | .error _ => t
  | .ok l =>
    match t.entryAt l with
    | some (.file _) => ⟨t.entries.erase l⟩
    | _ => t

def cut (t : Tree) (l : Location) : Tree := ⟨t.entries.filterKeys fun m => !l.isPrefixOf m⟩

def makeAlong (t : Tree) : Location → List String → Except FileError Unit × Tree
  | _, [] => (.ok (), t)
  | here, name :: names =>
    if Path.isIdle name then makeAlong t here names
    else if name = ".." then makeAlong t here.dropLast names
    else if Path.nameLimit < name.utf8ByteSize then (.error .nameTooLong, t)
    else
      match t.entryAt (here ++ [name]) with
      | some (.file _) => (.error .notDirectory, t)
      | some .directory => makeAlong t (here ++ [name]) names
      | none => makeAlong (t.put (here ++ [name]) .directory) (here ++ [name]) names

def makeDirectories (t : Tree) (path : String) : Except FileError Unit × Tree :=
  if '\x00' ∈ path.toList then (.error .nulByte, t)
  else if Path.isTooLong path then (.error .nameTooLong, t)
  else t.makeAlong [] (Path.names path)

def copy (t : Tree) (source target : String) : Except FileError (Nat × Tree) :=
  match t.read source with
  | .error e => .error e
  | .ok content =>
    match t.write target content with
    | .error e => .error e
    | .ok t => .ok (content.size, t)

def children (t : Tree) (l : Location) : List (String × FileEntry) :=
  t.entries.toList.filterMap fun e =>
    match e.1.getLast? with
    | some name => if e.1.dropLast = l then some (name, e.2) else none
    | none => none

/-- All that stands below a place, by the way from there; a directory comes before its content. -/
def below (t : Tree) (l : Location) : List (Location × FileEntry) :=
  let es := t.entries.toList.filterMap fun e =>
    if l.isPrefixOf e.1 && l ≠ e.1 then some (e.1.drop l.length, e.2) else none
  es.mergeSort fun a b => !decide (b.1 < a.1)

def serialWidth : Nat := 6

def serial (n : Nat) : String :=
  let ds := Text.digits n
  .ofList (List.replicate (serialWidth - ds.length) '0' ++ ds)

def names (t : Tree) : List String := t.entries.keys.flatten

def nameSize (t : Tree) : Nat := (t.names.map String.length).foldr (· + ·) 0

def freshSerial? (t : Tree) : Option Nat :=
  (List.range (t.nameSize + 1)).find? fun n =>
    t.names.all fun name => !Text.occursIn (serial n).toList name.toList

/--
A path in a directory, with the given start and ending of its name. The serial number in it is part
of no name; one with more digits than all names together always is.
-/
def freshPath (t : Tree) (directory start ending : String) : String :=
  let path := fun n => Path.join directory (start ++ serial n ++ ending)
  match t.freshSerial? with
  | some n => path n
  | none => path (tenTo t.nameSize)

def writeFresh (t : Tree) (directory start ending : String) (content : ByteArray) :
    Except FileError (String × Tree) :=
  let path := t.freshPath directory start ending
  match t.write path content with
  | .error e => .error e
  | .ok t => .ok (path, t)

end Tree

end Reporting
