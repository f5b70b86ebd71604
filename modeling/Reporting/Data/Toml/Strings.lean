import Reporting.Data.Json.Token

/-!
Strings and keys of TOML text. Every reader takes the characters from where it starts and hands back
what follows.
-/

namespace Reporting.Toml

/-- Control characters other than the tab may stand neither in strings nor in comments. -/
def isControl (c : Char) : Bool := (c.toNat < 0x20 && c ≠ '\t') || c.toNat = 0x7F

def escaped? : Char → Option Char
  | 'b' => some '\x08'
  | 't' => some '\t'
  | 'n' => some '\n'
  | 'f' => some '\x0c'
  | 'r' => some '\r'
  | 'e' => some '\x1b'
  | '\x22' => some '\x22'
  | '\\' => some '\\'
  | _ => none

def charOfHex? (cs : List Char) : Option Char :=
  (Json.hexNumber? cs).bind fun n => if n.isValidChar then some (Char.ofNat n) else none

def consTo {α : Type} (c : Char) (p : List Char × α) : List Char × α := (c :: p.1, p.2)

def basicBody : List Char → Option (List Char × List Char)
  | [] => none
  | '\x22' :: cs => some ([], cs)
  | '\\' :: 'x' :: a :: b :: cs =>
    (charOfHex? [a, b]).bind fun x => (basicBody cs).map (consTo x)
  | '\\' :: 'u' :: a :: b :: c :: d :: cs =>
    (charOfHex? [a, b, c, d]).bind fun x => (basicBody cs).map (consTo x)
  | '\\' :: 'U' :: a :: b :: c :: d :: e :: f :: g :: h :: cs =>
    (charOfHex? [a, b, c, d, e, f, g, h]).bind fun x => (basicBody cs).map (consTo x)
  | '\\' :: c :: cs => (escaped? c).bind fun x => (basicBody cs).map (consTo x)
  | c :: cs => if isControl c || c = '\\' then none else (basicBody cs).map (consTo c)

def literalBody : List Char → Option (List Char × List Char)
  | [] => none
  | '\x27' :: cs => some ([], cs)
  | c :: cs => if isControl c then none else (literalBody cs).map (consTo c)

def isGap (c : Char) : Bool := c = ' ' || c = '\t'

def startsBreak (cs : List Char) : Bool :=
  match cs.dropWhile isGap with
  | '\n' :: _ => true
  | '\r' :: '\n' :: _ => true
  | _ => false

/--
A string of several lines in triple double quotes, with line breaks as they are. `joining` holds
after a backslash at the end of a line: gaps and line breaks are passed over. One or two quotes may
stand before the closing ones.
-/
def basicLines : Bool → List Char → Option (List Char × List Char)
  | _, [] => none
  | _, '\x22' :: '\x22' :: '\x22' :: '\x22' :: '\x22' :: cs => some (['\x22', '\x22'], cs)
  | _, '\x22' :: '\x22' :: '\x22' :: '\x22' :: cs => some (['\x22'], cs)
  | _, '\x22' :: '\x22' :: '\x22' :: cs => some ([], cs)
  | _, '\\' :: 'x' :: a :: b :: cs =>
    (charOfHex? [a, b]).bind fun x => (basicLines false cs).map (consTo x)
  | _, '\\' :: 'u' :: a :: b :: c :: d :: cs =>
    (charOfHex? [a, b, c, d]).bind fun x => (basicLines false cs).map (consTo x)
  | _, '\\' :: 'U' :: a :: b :: c :: d :: e :: f :: g :: h :: cs =>
    (charOfHex? [a, b, c, d, e, f, g, h]).bind fun x => (basicLines false cs).map (consTo x)
  | _, '\\' :: c :: cs =>
    if startsBreak (c :: cs) then basicLines true cs
    else (escaped? c).bind fun x => (basicLines false cs).map (consTo x)
  | joining, '\r' :: '\n' :: cs =>
    if joining then basicLines true cs
    else (basicLines false cs).map fun p => consTo '\r' (consTo '\n' p)
  | joining, c :: cs =>
    if joining && (isGap c || c = '\n') then basicLines true cs
    else if c = '\\' || (isControl c && c ≠ '\n') then none
    else (basicLines false cs).map (consTo c)

def literalLines : List Char → Option (List Char × List Char)
  | [] => none
  | '\x27' :: '\x27' :: '\x27' :: '\x27' :: '\x27' :: cs => some (['\x27', '\x27'], cs)
  | '\x27' :: '\x27' :: '\x27' :: '\x27' :: cs => some (['\x27'], cs)
  | '\x27' :: '\x27' :: '\x27' :: cs => some ([], cs)
  | '\r' :: '\n' :: cs => (literalLines cs).map fun p => consTo '\r' (consTo '\n' p)
  | c :: cs => if isControl c && c ≠ '\n' then none else (literalLines cs).map (consTo c)

def dropBreak : List Char → List Char
  | '\n' :: cs => cs
  | '\r' :: '\n' :: cs => cs
  | cs => cs

def string? : List Char → Option (List Char × List Char)
  | '\x22' :: '\x22' :: '\x22' :: cs => basicLines false (dropBreak cs)
  | '\x22' :: cs => basicBody cs
  | '\x27' :: '\x27' :: '\x27' :: cs => literalLines (dropBreak cs)
  | '\x27' :: cs => literalBody cs
  | _ => none

def isBare (c : Char) : Bool := c.isAlphanum || c = '_' || c = '-'

def simpleKey? : List Char → Option (List Char × List Char)
  | '\x22' :: cs => basicBody cs
  | '\x27' :: cs => literalBody cs
  | cs =>
    let word := cs.takeWhile isBare
    if word.isEmpty then none else some (word, cs.dropWhile isBare)

/-- No key has more parts than this, just as values do not stand deeper within each other. -/
def depthLimit : Nat := 80

/-- Simple keys with dots between them, at most `room`, and what follows the last and its gap. -/
def keyWithin? : Nat → List Char → Option (List String × List Char)
  | 0, _ => none
  | room + 1, cs =>
    (simpleKey? (cs.dropWhile isGap)).bind fun (k, rest) =>
      match rest.dropWhile isGap with
      | '.' :: rest => (keyWithin? room rest).map fun (ks, rest) => (.ofList k :: ks, rest)
      | rest => some ([.ofList k], rest)

def key? (cs : List Char) : Option (List String × List Char) := keyWithin? depthLimit cs

end Reporting.Toml
