import Reporting.Sheet.Csv
import Reporting.Sheet.Html
import Reporting.Text.Shown

/-!
Renderers by the name of the format they write. A format that no renderer writes may be rendered as
another one and converted.
-/

namespace Reporting

inductive RenderError where
  | write (reason : String)
  | csv (reason : String)
  | flush (reason : String)
  | encoding (reason : String)
  deriving DecidableEq, Repr

def RenderError.message : RenderError → String
  | write reason => "Failed writing report text: " ++ reason
  | csv reason => "Failed writing CSV: " ++ reason
  | flush reason => "Failed flushing CSV: " ++ reason
  | encoding reason => "CSV output is not UTF-8: " ++ reason

structure Renderer where
  render : Sheet → Except RenderError String

namespace Renderer

def html : Renderer := ⟨fun s => .ok (Html.render s)⟩

def csv : Renderer := ⟨fun s => .ok (Csv.render s)⟩

end Renderer

structure Renderers where
  byName : Entries String Renderer
  small : ∀ name ∈ byName.keys, Text.lowerAscii name = name

namespace Renderers

def empty : Renderers := ⟨.empty, nofun⟩

def register (rs : Renderers) (name : String) (r : Renderer) : Renderers where
  byName := rs.byName.insert (Text.lowerAscii name) r
  small := by
    intro other hother
    rw [Entries.keys_insert] at hother
    split at hother
    · exact rs.small other hother
    · rcases List.mem_append.mp hother with hother | hother
      · exact rs.small other hother
      · rw [List.mem_singleton.mp hother, Text.lowerAscii_lowerAscii]

def get? (rs : Renderers) (name : String) : Option Renderer := rs.byName.get? (Text.lowerAscii name)

def standard : Renderers := (empty.register "html" .html).register "csv" .csv

def names (rs : Renderers) : List String := rs.byName.keys.mergeSort

def summary (rs : Renderers) : String :=
  "FormatterRegistry \x7b formats: [" ++ ", ".intercalate (rs.names.map Text.shown) ++ "] \x7d"

end Renderers

def conversions : List (String × String) := [("pdf", "html")]

/-- The format that is rendered for a requested one, and whether it is converted afterwards. -/
def renderFormat (format : String) : String × Bool :=
  match conversions.lookup (Text.lowerAscii format) with
  | some rendered => (rendered, true)
  | none => (format, false)

end Reporting
