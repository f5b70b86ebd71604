import Reporting.Sheet

/-!
Sheets as HTML documents that stand alone: one table for each section, then one for the totals.
-/

namespace Reporting.Html

def references : List (Char × String) :=
  [('&', "&amp;"), ('<', "&lt;"), ('>', "&gt;"), ('\x22', "&quot;"), ('\x27', "&#39;")]

def escaped (s : String) : List Char :=
  references.foldl (fun cs p => Text.replaceFrom [p.1] p.2.toList 0 cs) s.toList

def escapedLines (s : String) : List Char :=
  Text.replaceFrom ['\n'] "<br>\n".toList 0 (escaped s)

def styles : String :=
  "body\x7bfont-family:sans-serif;margin:2em;color:#222\x7d" ++
  "table\x7bborder-collapse:collapse;width:100%;margin-bottom:1.5em\x7d" ++
  "th,td\x7bborder:1px solid #ccc;padding:4px 8px;text-align:left\x7d" ++
  "th\x7bbackground:#f0f0f0\x7d" ++
  "tr.totals td\x7bfont-weight:bold;border-top:2px solid #888\x7d" ++
  ".generated\x7bcolor:#888;font-size:small\x7d"

def element (tag : String) (s : String) : List Char :=
  "<".toList ++ tag.toList ++ ">".toList ++ escaped s ++ "</".toList ++ tag.toList ++ ">".toList

def head (s : Sheet) : List Char :=
  "<!DOCTYPE html>\n<html>\n<head>\n<meta charset=\"utf-8\">\n".toList ++
    element "title" s.title ++ "\n<style>".toList ++ styles.toList ++
    "</style>\n</head>\n<body>\n".toList

def titles (s : Sheet) : List Char :=
  element "h1" s.title ++ ['\n'] ++
    if s.description.isEmpty then []
    else "<p class=\"description\">".toList ++ escapedLines s.description ++ "</p>\n".toList

def row (texts : List String) : List Char := texts.flatMap (element "td")

def sectionTable (s : Sheet) (x : Section) : List Char :=
  (match x.title with
    | some title => element "h2" title ++ ['\n']
    | none => []) ++
    "<table>\n<thead>\n<tr>".toList ++ s.columns.flatMap (fun c => element "th" c.2) ++
    "</tr>\n</thead>\n<tbody>\n".toList ++
    x.rows.flatMap (fun r => "<tr>".toList ++ row (s.texts r) ++ "</tr>\n".toList) ++
    "</tbody>\n</table>\n".toList

def totals (s : Sheet) : List Char :=
  match s.report.totals with
  | some r =>
    "<table class=\"totals\">\n<tbody>\n<tr class=\"totals\">".toList ++ row (s.texts r) ++
      "</tr>\n</tbody>\n</table>\n".toList
  | none => []

def foot (s : Sheet) : List Char :=
  "<p class=\"generated\">Generated ".toList ++ s.generatedAt.text.toList ++
    "</p>\n</body>\n</html>\n".toList

def chars (s : Sheet) : List Char :=
  head s ++ titles s ++ s.report.sections.flatMap (sectionTable s) ++ totals s ++ foot s

def render (s : Sheet) : String := .ofList (chars s)

end Reporting.Html
