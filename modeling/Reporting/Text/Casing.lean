import Reporting.Text.CaseTable

/-!
Upper and lower case of whole texts. A capital sigma at the end of a word becomes a final sigma; all
other characters are mapped one by one.
-/

namespace Reporting.Text

def mapped (runs : List CaseRun) (expansions : List (Nat × List Nat)) (c : Char) : List Char :=
  match expansions.lookup c.toNat with
  | some cs => cs.map Char.ofNat
  | none => [(runs.findSome? fun r => r.apply? c.toNat).getD c]

def upperChar (c : Char) : List Char :=
  if c.toNat < 0x80 then [c.toUpper] else mapped upperRuns upperExpansions c

def lowerChar (c : Char) : List Char :=
  if c.toNat < 0x80 then [c.toLower] else mapped lowerRuns lowerExpansions c

def startsCased (cs : List Char) : Bool :=
  match cs.dropWhile fun c => inRanges caseIgnorableRanges c.toNat with
  | [] => false
  | c :: _ => inRanges casedRanges c.toNat

def lowerFrom : List Char → List Char → List Char
  | _, [] => []
  | before, c :: cs =>
    let low :=
      if c = 'Σ' then [if startsCased before && !startsCased cs then 'ς' else 'σ']
      else lowerChar c
    low ++ lowerFrom (c :: before) cs

def upper (s : String) : String := .ofList (s.toList.flatMap upperChar)

def lower (s : String) : String := .ofList (lowerFrom [] s.toList)

end Reporting.Text
