import Reporting.Text.Split

/-!
Paths as texts: names with slashes between them. A path that begins with a slash starts at the root.
-/

namespace Reporting.Path

/-- The names between the slashes; an empty one and a dot stand for where the path has come to. -/
def names (path : String) : List String := (Text.splitOn '/' path.toList).map .ofList

def ofNames (ns : List String) : String := "/".intercalate ns

def isAbsolute (path : String) : Bool := path.toList.head? == some '/'

def join (base path : String) : String :=
  if isAbsolute path || base.isEmpty then path
  else if base.toList.getLast? == some '/' then base ++ path
  else base ++ "/" ++ path

def isIdle (name : String) : Bool := name.isEmpty || name == "."

def dropIdle (ns : List String) : List String := (ns.reverse.dropWhile isIdle).reverse

def parent (path : String) : String :=
  let rest := dropIdle (dropIdle (names path)).dropLast
  if rest.isEmpty && isAbsolute path then "/" else ofNames rest

def fileName (path : String) : String := (dropIdle (names path)).getLast?.getD ""

def extension? (path : String) : Option String :=
  let name := (fileName path).toList
  let after := name.reverse.takeWhile (· ≠ '.')
  if after.length + 1 < name.length && fileName path != ".." then some (.ofList after.reverse)
  else none

def nameLimit : Nat := 255

def limit : Nat := 4095

def isTooLong (path : String) : Bool := limit < path.utf8ByteSize

end Reporting.Path
