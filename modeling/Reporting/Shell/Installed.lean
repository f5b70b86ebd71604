import Reporting.Shell.Utility

/-!
The programs that are there from the start, and the tree of files in which they stand.
-/

namespace Reporting.Shell

inductive Launcher where
  | shell
  | env
  | timeout
  | nice
  | nohup
  | xargs
  | which
  deriving DecidableEq, Repr

inductive Program where
  | utility (u : Utility)
  | launcher (l : Launcher)
  /-- A file that is read by another program of some name, which gets these words before others. -/
  | script (reader : Program) (name : String) (words : List String)

namespace Program

def launchers : List (String × Launcher) :=
  [("sh", .shell), ("dash", .shell), ("env", .env), ("timeout", .timeout), ("nice", .nice),
    ("nohup", .nohup), ("xargs", .xargs), ("which", .which)]

def all : List (String × Program) :=
  Utility.all.map (fun p => (p.1, utility p.2)) ++ launchers.map fun p => (p.1, launcher p.2)

def homes : List Location := [["bin"], ["usr", "bin"]]

def at? (l : Location) : Option Program :=
  match l.getLast? with
  | some name => if homes.contains l.dropLast then all.lookup name else none
  | none => none

def directories : List Location :=
  homes ++ [["usr"], ["usr", "sbin"], ["usr", "local"], ["usr", "local", "bin"], ["usr", "lib"],
    ["usr", "share"], ["sbin"], ["dev"], ["etc"], ["tmp"], ["root"], ["var"], ["var", "tmp"],
    ["home"], ["proc"], ["opt"], ["lib"], ["mnt"], ["run"], ["srv"], ["sys"]]

def zeros : ByteArray := ⟨Array.replicate 65536 0⟩

def users : ByteArray := "root:x:0:0:root:/root:/bin/bash\n".toUTF8

def files : List (Location × ByteArray) :=
  [(nowhere, .empty), (["dev", "stdin"], .empty), (["dev", "zero"], zeros),
    (["etc", "passwd"], users)] ++
    homes.flatMap fun home => all.map fun p => (home ++ [p.1], .empty)

def addTo (v : Volume) : Volume :=
  let add := fun (t : Tree) (l : Location) (x : FileEntry) =>
    if (t.entryAt l).isSome then t else t.put l x
  let t := directories.foldl (fun t l => add t l .directory) v.tree
  { v with tree := files.foldl (fun t f => add t f.1 (.file f.2)) t }

def readerOf (text : List Char) : String × List String :=
  -- A script without such a line is for the shell.
  match text with
  | '#' :: '!' :: cs =>
    let isGap := fun c => c = ' ' || c = '\t'
    let line := (cs.takeWhile (· ≠ '\n')).dropWhile isGap
    let word := ((line.dropWhile fun c => !isGap c).dropWhile isGap).reverse.dropWhile isGap
    (.ofList (line.takeWhile fun c => !isGap c),
      if word.isEmpty then [] else [.ofList word.reverse])
  | _ => ("/bin/sh", [])

end Program

end Reporting.Shell
