import Reporting.Binary64.Decimal
import Reporting.Text.Shown

/-!
Trees of data as readers of text deliver them. A reader that works from left to right puts its
faults where it met them, so that whoever walks the tree in order meets the first fault first.
-/

namespace Reporting

inductive Ending where
  | closed
  /-- The rest is well formed, but a key in it has no value as a text. -/
  | unreadable
  | malformed
  deriving DecidableEq, Repr

inductive Node where
  | null
  | bool (b : Bool)
  | int (n : Int)
  | float (x : Binary64)
  | string (s : String)
  | list (items : List Node) (ending : Ending)
  | table (entries : List (String × Node)) (ending : Ending)
  | moment
  | unreadable
  /-- A number, whole or not, that no value holds; a fault wherever it is met. -/
  | noNumber (isWhole : Bool)
  | malformed
  deriving Repr, Inhabited

namespace Node

def strings (ss : List String) : Node := .list (ss.map .string) .closed

def ofEntries (es : List (String × Node)) : Node := .table es .closed

def ofOption {α : Type} (write : α → Node) : Option α → Node
  | some a => write a
  | none => .null

def get? : Node → String → Option Node
  | table es _, key => es.lookup key
  | _, _ => none

mutual

def isMalformed : Node → Bool
  | malformed => true
  | noNumber _ => true
  | list items ending => ending == .malformed || anyMalformed items
  | table es ending => ending == .malformed || anyEntryMalformed es
  | _ => false

def anyMalformed : List Node → Bool
  | [] => false
  | n :: ns => n.isMalformed || anyMalformed ns

def anyEntryMalformed : List (String × Node) → Bool
  | [] => false
  | (_, n) :: es => n.isMalformed || anyEntryMalformed es

end

mutual

def deeperThan : Nat → Node → Bool
  | 0, list .. => true
  | 0, table .. => true
  | limit + 1, list items _ => anyDeeperThan limit items
  | limit + 1, table es _ => anyEntryDeeperThan limit es
  | _, _ => false

def anyDeeperThan (limit : Nat) : List Node → Bool
  | [] => false
  | n :: ns => n.deeperThan limit || anyDeeperThan limit ns

def anyEntryDeeperThan (limit : Nat) : List (String × Node) → Bool
  | [] => false
  | (_, n) :: es => n.deeperThan limit || anyEntryDeeperThan limit es

end

/-- Puts an entry before the first greater key; an entry under the same key is replaced. -/
def insertSorted (key : String) (n : Node) : List (String × Node) → List (String × Node)
  | [] => [(key, n)]
  | e :: es =>
    if key = e.1 then (key, n) :: es
    else if key < e.1 then (key, n) :: e :: es
    else e :: insertSorted key n es

mutual

/-- All tables in the order of their keys; of two entries under one key the later counts. -/
def sorted : Node → Node
  | list items ending => list (sortedItems items) ending
  | table es ending => table (sortedEntries [] es) ending
  | n => n

def sortedItems : List Node → List Node
  | [] => []
  | n :: ns => n.sorted :: sortedItems ns

def sortedEntries (done : List (String × Node)) : List (String × Node) → List (String × Node)
  | [] => done
  | (key, n) :: es => sortedEntries (insertSorted key n.sorted done) es

end

end Node

end Reporting
