import Reporting.Data.Json.Token

/-!
Reading JSON text as a tree. The reader goes on as far as the text is well formed; where it is not,
the tree has a malformed node or a malformed ending, and all that would follow is missing.
-/

namespace Reporting.Json

def worse : Ending → Ending → Ending
  | .malformed, _ => .malformed
  | _, .malformed => .malformed
  | .unreadable, _ => .unreadable
  | .closed, e => e

mutual

/-- The value at the head of the tokens and what follows it, unless the text is malformed there. -/
def value : Nat → List Token → Node × Option (List Token)
  | 0, _ => (.malformed, none)
  | fuel + 1, ts =>
    match ts with
    | .null :: ts => (.null, some ts)
    | .bool b :: ts => (.bool b, some ts)
    | .int n :: ts => (.int n, some ts)
    | .float x :: ts => (.float x, some ts)
    | .string s :: ts => (.string s, some ts)
    | .unreadableString :: ts => (.unreadable, some ts)
    | .unreadableNumber :: ts => (.unreadable, some ts)
    | .beginList :: .endList :: ts => (.list [] .closed, some ts)
    | .beginList :: ts =>
      let (items, ending, rest) := items fuel ts
      (.list items ending, rest)
    | .beginTable :: .endTable :: ts => (.table [] .closed, some ts)
    | .beginTable :: ts =>
      let (entries, ending, rest) := entries fuel ts
      (.table entries ending, rest)
    | _ => (.malformed, none)

def items : Nat → List Token → List Node × Ending × Option (List Token)
  | 0, _ => ([], .malformed, none)
  | fuel + 1, ts =>
    match value fuel ts with
    | (v, some (.comma :: ts)) =>
      let (vs, ending, rest) := items fuel ts
      (v :: vs, ending, rest)
    | (v, some (.endList :: ts)) => ([v], .closed, some ts)
    | (v, _) => ([v], .malformed, none)

def entries : Nat → List Token → List (String × Node) × Ending × Option (List Token)
  | 0, _ => ([], .malformed, none)
  | fuel + 1, ts =>
    match ts with
    | .string key :: .colon :: ts =>
      let (v, es, ending, rest) := entryAndRest fuel ts
      ((key, v) :: es, ending, rest)
    | .string key :: _ => ([(key, .malformed)], .malformed, none)
    | .unreadableString :: .colon :: ts =>
      let (v, es, ending, rest) := entryAndRest fuel ts
      let hidden := v.isMalformed || Node.anyEntryMalformed es
      ([], worse .unreadable (if hidden then .malformed else ending), rest)
    | _ => ([], .malformed, none)

def entryAndRest : Nat → List Token → Node × List (String × Node) × Ending × Option (List Token)
  | 0, _ => (.malformed, [], .malformed, none)
  | fuel + 1, ts =>
    match value fuel ts with
    | (v, some (.comma :: ts)) =>
      let (es, ending, rest) := entries fuel ts
      (v, es, ending, rest)
    | (v, some (.endTable :: ts)) => (v, [], .closed, some ts)
    | (v, _) => (v, [], .malformed, none)

end

def read (s : String) : Node × Bool :=
  let ts := tokens s
  let (v, rest) := value (2 * ts.length + 1) ts
  (v, rest == some [])

end Reporting.Json
