/-!
Texts and their bytes. A text can be spread out so that each of its characters stands for one byte,
which is how programs see it that know nothing of letters. Bytes that are no text are read with a
replacement for what cannot be understood.
-/

namespace Reporting.Text

def replacement : Char := '\uFFFD'

/-- The beginning of a character of several bytes: the number that its bytes give so far, how many
bytes are owed, and the least and the greatest that the next can be. -/
structure Begun where
  value : Nat
  owed : Nat
  low : Nat := 0x80
  high : Nat := 0xBF

inductive Lead where
  | whole (c : Char)
  | part (p : Begun)
  | none

def lead (b : Nat) : Lead :=
  if b < 0x80 then .whole (.ofNat b)
  else if b < 0xC2 then .none
  else if b < 0xE0 then .part ⟨b - 0xC0, 1, 0x80, 0xBF⟩
  else if b = 0xE0 then .part ⟨0, 2, 0xA0, 0xBF⟩
  else if b = 0xED then .part ⟨0xD, 2, 0x80, 0x9F⟩
  else if b < 0xF0 then .part ⟨b - 0xE0, 2, 0x80, 0xBF⟩
  else if b = 0xF0 then .part ⟨0, 3, 0x90, 0xBF⟩
  else if b < 0xF4 then .part ⟨b - 0xF0, 3, 0x80, 0xBF⟩
  else if b = 0xF4 then .part ⟨4, 3, 0x80, 0x8F⟩
  else .none

/--
The characters of some bytes, perhaps in the middle of one. What cannot be the beginning of a
character, as far as it could have been one, makes a single replacement.
-/
def decodeFrom : Option Begun → List Nat → List Char
  | none, [] => []
  | some _, [] => [replacement]
  | p, b :: bs =>
    let anew :=
      match lead b with
      | .whole c => c :: decodeFrom none bs
      | .part p => decodeFrom (some p) bs
      | .none => replacement :: decodeFrom none bs
    match p with
    | none => anew
    | some p =>
      if p.low ≤ b && b ≤ p.high then
        let value := p.value * 64 + b % 64
        if p.owed = 1 then .ofNat value :: decodeFrom none bs
        else decodeFrom (some { value := value, owed := p.owed - 1 }) bs
      else replacement :: anew

def ofBytes (bytes : ByteArray) : String :=
  .ofList (decodeFrom none (bytes.toList.map UInt8.toNat))

def spreadBytes (bytes : ByteArray) : String :=
  .ofList (bytes.toList.map fun b => .ofNat b.toNat)

def bytesOfSpread (s : String) : ByteArray := ⟨(s.toList.map fun c => c.toNat.toUInt8).toArray⟩

def spread (s : String) : String := spreadBytes s.toUTF8

def gathered (s : String) : String := ofBytes (bytesOfSpread s)

end Reporting.Text
