import Reporting.Cell
import Reporting.Text.Casing

/-!
Display formats of cells: grouped numbers, amounts of money, letter case and truncation. A numeric
format leaves a cell without a number as it is.
-/

namespace Reporting

def groupThousands : List Char → List Char
  | [] => []
  | c :: cs =>
    if cs.length % 3 = 0 && !cs.isEmpty then c :: ',' :: groupThousands cs
    else c :: groupThousands cs

def groupUnsigned (cs : List Char) : List Char :=
  match Text.cutAt '.' cs with
  | some (whole, fraction) => groupThousands whole ++ '.' :: fraction
  | none => groupThousands cs

def groupFixed : List Char → List Char
  | '-' :: cs => '-' :: groupUnsigned cs
  | cs => groupUnsigned cs

inductive Format where
  | number (decimals : Nat)
  | currency (symbol : String) (decimals : Nat)
  | upper
  | lower
  | truncate (length : Nat)
  deriving DecidableEq, Repr

namespace Format

def grouped (decimals : Nat) (x : Binary64) : List Char := groupFixed (x.fixed decimals)

def amount (symbol : String) (decimals : Nat) (x : Binary64) : List Char :=
  -- A negative amount has its minus before the symbol.
  if x.isNegative then '-' :: symbol.toList ++ grouped decimals x.neg
  else symbol.toList ++ grouped decimals x

def cut (length : Nat) (cs : List Char) : List Char :=
  if cs.length ≤ length then cs else cs.take length ++ ['…']

def apply (format : Format) (cell : Cell) : String :=
  match format with
  | number decimals =>
    match cell.number? with
    | some x => .ofList (grouped decimals x)
    | none => cell.display
  | currency symbol decimals =>
    match cell.number? with
    | some x => .ofList (amount symbol decimals x)
    | none => cell.display
  | upper => Text.upper cell.display
  | lower => Text.lower cell.display
  | truncate length => .ofList (cut length cell.display.toList)

end Format

end Reporting
