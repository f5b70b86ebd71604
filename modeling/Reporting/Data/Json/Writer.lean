import Reporting.Data.Node

/-!
Writing a tree as JSON text without blanks.
-/

namespace Reporting.Json

def escape (c : Char) : List Char :=
  if c = '\x22' then ['\\', '\x22']
  else if c = '\\' then ['\\', '\\']
  else if c = '\n' then ['\\', 'n']
  else if c = '\r' then ['\\', 'r']
  else if c = '\t' then ['\\', 't']
  else if c = '\x08' then ['\\', 'b']
  else if c = '\x0c' then ['\\', 'f']
  else if c.toNat < 0x10 then ['\\', 'u', '0', '0', '0'] ++ Text.hexDigits c.toNat
  else if c.toNat < 0x20 then ['\\', 'u', '0', '0'] ++ Text.hexDigits c.toNat
  else [c]

def quoted (s : String) : List Char := '\x22' :: s.toList.flatMap escape ++ ['\x22']

mutual

def write : Node → List Char
  -- What no text stands for is written as a missing value.
  | .bool true => ['t', 'r', 'u', 'e']
  | .bool false => ['f', 'a', 'l', 's', 'e']
  | .int n => (Text.ofInt n).toList
  | .float x =>
    match x with
    | .finite negative mantissa exponent _ =>
      Binary64.signed negative (Binary64.shortest .even mantissa exponent).compact
    | _ => ['n', 'u', 'l', 'l']
  | .string s => quoted s
  | .list [] _ => ['[', ']']
  | .list (n :: ns) _ => '[' :: write n ++ writeItems ns ++ [']']
  | .table [] _ => ['\x7b', '\x7d']
  | .table ((key, n) :: es) _ =>
    '\x7b' :: quoted key ++ ':' :: write n ++ writeEntries es ++ ['\x7d']
  | _ => ['n', 'u', 'l', 'l']

def writeItems : List Node → List Char
  | [] => []
  | n :: ns => ',' :: write n ++ writeItems ns

def writeEntries : List (String × Node) → List Char
  | [] => []
  | (key, n) :: es => ',' :: quoted key ++ ':' :: write n ++ writeEntries es

end

def text (n : Node) : String := .ofList (write n)

end Reporting.Json
