import Reporting.Shell.Options

/-!
Numbers in the arguments of programs, and how they are written.
-/

namespace Reporting.Shell

def natural? (cs : List Char) : Option Nat :=
  if !cs.isEmpty && cs.all Char.isDigit then
    some (cs.foldl (fun n c => 10 * n + (c.toNat - 48)) 0)
  else none

def multiplier? (s : String) : Option Nat :=
  let letters := ["K", "M", "G", "T", "P"]
  if s.isEmpty then some 1
  else if s = "b" then some 512
  else if s = "k" then some 1024
  else if s = "kB" then some 1000
  else
    letters.zipIdx.findSome? fun (l, i) =>
      if s = l || s = l ++ "iB" then some (Nat.pow 1024 (i + 1))
      else if s = l ++ "B" then some (Nat.pow 1000 (i + 1))
      else none

def size? (s : String) : Option Nat := do
  let cs := s.toList
  let n ← natural? (cs.takeWhile Char.isDigit)
  let m ← multiplier? (.ofList (cs.dropWhile Char.isDigit))
  return n * m

def padded (width : Nat) (s : String) : String :=
  .ofList (List.replicate (width - s.length) ' ') ++ s

def zeroPadded (width : Nat) (s : String) : String :=
  .ofList (List.replicate (width - s.length) '0') ++ s

def inBase (base n : Nat) : List Char := Nat.toDigits base n

def octalPrefix (most : Nat) (cs : List Char) : Nat × List Char :=
  let ds := (cs.take most).takeWhile fun c => '0' ≤ c && c ≤ '7'
  (ds.foldl (fun n c => 8 * n + (c.toNat - 48)) 0, cs.drop ds.length)

def keptLines : List Char → List (List Char)
  | [] => []
  | c :: cs =>
    if c = '\n' then ['\n'] :: keptLines cs
    else
      match keptLines cs with
      | [] => [[c]]
      | l :: ls => (c :: l) :: ls

def plainLines (cs : List Char) : List (List Char) :=
  (keptLines cs).map fun l => if l.getLast? = some '\n' then l.dropLast else l

def endsLine (cs : List Char) : Bool := cs.isEmpty || cs.getLast? = some '\n'

end Reporting.Shell
