import Reporting.Definition
import Reporting.Files.Tree

/-!
Managed storage of generated reports. A file is kept under the report it was made from and the
record that owns it, in a name made from the title.
-/

namespace Reporting

inductive StorageError where
  | createFolder (path : String) (cause : FileError)
  | copy (source : String) (cause : FileError)
  | missingSource (path : String)
  deriving DecidableEq, Repr

def StorageError.message : StorageError → String
  | createFolder path cause => "Failed to create folder " ++ path ++ ": " ++ cause.message
  | copy source cause => "Failed to copy " ++ source ++ " into storage: " ++ cause.message
  | missingSource path => "Source file " ++ path ++ " does not exist"

structure StoredFile where
  path : String
  fullPath : String
  size : Nat
  deriving DecidableEq, Repr

/-- A place where reports are kept; either operation may fail and still leave its traces. -/
structure Archive where
  folder : Option Nat → Nat → Tree → Except StorageError String × Tree
  store : String → String → String → Tree → Except StorageError StoredFile × Tree

namespace Archive

def reportsFolder : String := "advanced-reports"

def previewFolder : String := "preview"

def folderPath (reportId : Option Nat) (owner : Nat) : String :=
  let report :=
    match reportId with
    | some id => Text.ofNat id
    | none => previewFolder
  Path.join (Path.join reportsFolder report) (Text.ofNat owner)

def makeFolder (root : String) (reportId : Option Nat) (owner : Nat) (t : Tree) :
    Except StorageError String × Tree :=
  let folder := folderPath reportId owner
  let full := Path.join root folder
  match t.makeDirectories full with
  | (.ok (), t) => (.ok folder, t)
  | (.error e, t) => (.error (.createFolder full e), t)

def storeFile (root folder name source : String) (t : Tree) :
    Except StorageError StoredFile × Tree :=
  -- The folder is made once more, since nobody else need have made it.
  if !t.hasEntry source then (.error (.missingSource source), t)
  else
    let path := Path.join folder name
    let full := Path.join root path
    let parent := Path.parent full
    match t.makeDirectories parent with
    | (.error e, t) => (.error (.createFolder parent e), t)
    | (.ok (), t) =>
      match t.copy source full with
      | .error e => (.error (.copy source e), t)
      | .ok (size, t) => (.ok ⟨path, full, size⟩, t)

def inDirectory (root : String) : Archive := ⟨makeFolder root, storeFile root⟩

end Archive

namespace StoredName

def isSafe (c : Char) : Bool := c.isAlphanum || c = '.' || c = '+' || c = '_' || c = '-'

def dashed : Bool → List Char → List Char
  | _, [] => []
  | inRun, c :: cs =>
    if c = ' ' then if inRun then dashed true cs else '-' :: dashed true cs
    else c :: dashed false cs

def stem (title : String) : List Char :=
  match (dashed false (Text.trim title.toList)).filter isSafe with
  | [] => "report".toList
  | cs => cs

def ofTitle (title : String) (format : OutputFormat) : String :=
  .ofList (stem title ++ '.' :: format.name.toList)

end StoredName

end Reporting
