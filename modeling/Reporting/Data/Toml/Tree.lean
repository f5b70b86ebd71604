import Reporting.Data.Node

/-!
Tables under construction. How a table came to be decides what may still be added to it: a table
that a header or an entry has written out is not opened a second time.
-/

namespace Reporting.Toml

inductive Maker where
  | inner
  | dotted
  | header
  deriving DecidableEq, Repr

inductive Tree where
  | value (n : Node)
  | table (by_ : Maker) (entries : List (String × Tree))
  | tables (latest : List (String × Tree)) (earlier : List (List (String × Tree)))

abbrev Branches := List (String × Tree)

def replaceAt (key : String) (t : Tree) : Branches → Branches
  | [] => []
  | b :: bs => if b.1 = key then (key, t) :: bs else b :: replaceAt key t bs

/--
Changes the table at the end of a path, making the tables on the way that are missing. `dotted` says
that the path is a dotted key, which may not lead through a table with a header of its own.
-/
def changeAt (dotted : Bool) (change : Maker → Branches → Option Branches) :
    List String → Maker → Branches → Option Branches
  | [], maker, bs => change maker bs
  | key :: path, _, bs =>
    match bs.lookup key with
    | none =>
      let maker : Maker := if dotted then .dotted else .inner
      (changeAt dotted change path maker []).map fun inside => bs ++ [(key, .table maker inside)]
    | some (.value _) => none
    | some (.table maker inside) =>
      if dotted && maker = .header then none
      else
        (changeAt dotted change path maker inside).map fun inside =>
          replaceAt key (.table maker inside) bs
    | some (.tables latest earlier) =>
      (changeAt dotted change path .header latest).map fun latest =>
        replaceAt key (.tables latest earlier) bs

/-- Adds a value under a dotted key; the table it goes into must not have been made otherwise. -/
def addEntry (path : List String) (n : Node) (maker : Maker) (bs : Branches) : Option Branches :=
  match path.getLast? with
  | none => none
  | some key =>
    let parents := path.dropLast
    let add := fun (maker : Maker) (bs : Branches) =>
      if decide (maker = .dotted) == parents.isEmpty || (bs.lookup key).isSome then none
      else some (bs ++ [(key, .value n)])
    changeAt true add parents maker bs

def openTable (path : List String) (root : Branches) : Option Branches :=
  match path.getLast? with
  | none => none
  | some key =>
    let start := fun (_ : Maker) (bs : Branches) =>
      match bs.lookup key with
      | none => some (bs ++ [(key, .table .header [])])
      | some (.table .inner inside) => some (replaceAt key (.table .header inside) bs)
      | some _ => none
    changeAt false start path.dropLast .header root

def openFurther (path : List String) (root : Branches) : Option Branches :=
  match path.getLast? with
  | none => none
  | some key =>
    let start := fun (_ : Maker) (bs : Branches) =>
      match bs.lookup key with
      | none => some (bs ++ [(key, .tables [] [])])
      | some (.tables latest earlier) => some (replaceAt key (.tables [] (latest :: earlier)) bs)
      | some _ => none
    changeAt false start path.dropLast .header root

mutual

def Tree.node : Tree → Node
  | .value n => n
  | .table _ bs => .ofEntries (branchNodes bs)
  | .tables latest earlier => .list (tableNodes earlier [.ofEntries (branchNodes latest)]) .closed

def branchNodes : List (String × Tree) → List (String × Node)
  | [] => []
  | (key, t) :: bs => (key, t.node) :: branchNodes bs

def tableNodes : List (List (String × Tree)) → List Node → List Node
  | [], done => done
  | bs :: rest, done => tableNodes rest (.ofEntries (branchNodes bs) :: done)

end

end Reporting.Toml
