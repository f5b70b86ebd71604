import Reporting.Text.Split

/-!
Permissions of files as numbers of nine bits, three for each class of users, and changes of them in
octal or by letters.
-/

namespace Reporting.Shell.Permissions

/-- Permissions after one sign and the bits behind it, for the classes at some shifts; bits beyond
the limit stay as they are, unless the sign sets all bits. -/
def afterSign (limit : Nat) (shifts : List Nat) (sign : Char) (bits perms : Nat) : Nat :=
  let spread := fun (n : Nat) => shifts.foldl (fun all k => all ||| Nat.shiftLeft n k) 0
  let meant := spread bits &&& limit
  let without := fun (n : Nat) => Nat.xor (perms ||| n) n
  match sign with
  | '+' => perms ||| meant
  | '-' => without meant
  | _ => without (spread 7) ||| meant

def ofClass (shift perms : Nat) : Nat := Nat.shiftRight perms shift % 8

def bit? (perms : Nat) : Char → Option Nat
  | 'r' => some 4
  | 'w' => some 2
  | 'x' => some 1
  | 'X' => some (if perms &&& 73 = 0 then 0 else 1)
  | 's' => some 0
  | 'u' => some (ofClass 6 perms)
  | 'g' => some (ofClass 3 perms)
  | 'o' => some (ofClass 0 perms)
  | _ => none

def afterSigns? (apply : Char → Nat → Nat → Nat) :
    Option Char → Nat → List Char → Nat → Option Nat
  | none, _, [], _ => none
  | some sign, bits, [], perms => some (apply sign bits perms)
  | sign?, bits, c :: cs, perms =>
    if c = '+' || c = '-' || c = '=' then
      afterSigns? apply (some c) 0 cs ((sign?.map fun sign => apply sign bits perms).getD perms)
    else
      match sign?, bit? perms c with
      | some sign, some bit => afterSigns? apply (some sign) (bits ||| bit) cs perms
      | _, _ => none

def afterChange? (limit : Nat) (change : List Char) (perms : Nat) : Option Nat :=
  -- A change that names no class is for all of them, but only as far as the limit goes.
  let classes := change.takeWhile ("ugoa".toList.contains ·)
  let isNamed := fun (c : Char) => classes.isEmpty || classes.contains 'a' || classes.contains c
  let shifts := [('u', 6), ('g', 3), ('o', 0)].filterMap fun (c, k) =>
    if isNamed c then some k else none
  let limit := if classes.isEmpty then limit else 511
  afterSigns? (afterSign limit shifts) none 0 (change.drop classes.length) perms

def changed? (limit : Nat) (changes : List Char) (perms : Nat) : Option Nat :=
  (Text.splitOn ',' changes).foldlM (fun perms change => afterChange? limit change perms) perms

def octalDigit? (c : Char) : Option Nat :=
  if '0' ≤ c && c ≤ '7' then some (c.toNat - 48) else none

def octal? (cs : List Char) : Option Nat :=
  if cs.isEmpty then none else (cs.mapM octalDigit?).map fun ds => ds.foldl (8 * · + ·) 0

def ofText? (limit : Nat) (s : String) (perms : Nat) : Option Nat :=
  match octal? s.toList with
  | some n => if n < 4096 then some n else none
  | none => if s.isEmpty then none else changed? limit s.toList perms

def rights (n : Nat) : String :=
  (if n &&& 4 = 0 then "" else "r") ++ (if n &&& 2 = 0 then "" else "w") ++
    (if n &&& 1 = 0 then "" else "x")

def byClass (perms : Nat) : String :=
  "u=" ++ rights (ofClass 6 perms) ++ ",g=" ++ rights (ofClass 3 perms) ++ ",o=" ++
    rights (ofClass 0 perms)

def row (perms : Nat) : String :=
  let letter := fun (place : Nat) (c : Char) =>
    if Nat.testBit perms place then c else '-'
  .ofList ("rwxrwxrwx".toList.zipIdx.map fun (c, i) => letter (8 - i) c)

end Reporting.Shell.Permissions
