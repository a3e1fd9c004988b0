import CallHandle.Fault
import CallHandle.Report.Source

/-!
Reports of faults. A report has the fault's code and message, an excerpt of the source with a label
under the place of the fault, and the hint if there is one.
-/

namespace CallHandle.Report

/-- Cuts a span of offsets to a size. An empty span is widened by one, unless it is at the end. -/
def clamp (size start stop : Nat) : Nat × Nat :=
  let start := min start size
  let stop := max (min stop size) start
  if start = stop then (start, min (stop + 1) size) else (start, stop)

/-- The span that the label marks. -/
def span (source : String) (start stop : Nat) : Nat × Nat :=
  clamp source.utf8ByteSize start stop

/-- The part of a report beside the source: the width of the line numbers decides its columns. -/
structure Margin where
  numberWidth : Nat

namespace Margin

def spaces (n : Nat) : String :=
  String.ofList (List.replicate n ' ')

def rule (n : Nat) : String :=
  String.ofList (List.replicate n '─')

def pad (m : Margin) : String :=
  spaces (m.numberWidth + 2)

/-- The margin of a row without a line number. -/
def blank (m : Margin) : String :=
  m.pad ++ "│ "

/-- The margin of a source line. Lines count from one. -/
def numbered (m : Margin) (index : Nat) : String :=
  let number := (index + 1).repr
  " " ++ spaces (m.numberWidth - number.length) ++ number ++ " │ "

/-- Where the excerpt is from. -/
def opening (m : Margin) (line column : Nat) : List String :=
  [m.pad ++ "╭─[ <unknown>:" ++ (line + 1).repr ++ ":" ++ (column + 1).repr ++ " ]", m.pad ++ "│"]

def closing (m : Margin) : String :=
  rule (m.numberWidth + 2) ++ "╯"

end Margin

/-- The underline below a line, with an arm at `arm` for the label to hang on. An empty span has an
arm alone. -/
def underline (line : Line) (start stop arm column : Nat) : String :=
  let width := line.width column
  if start ≤ column ∧ column < stop then
    (if column = arm then "┬" else "─") ++ Margin.rule (width - 1)
  else if column = arm then
    "│" ++ Margin.spaces (width - 1)
  else
    Margin.spaces width

/-- The line from the arm to the label. -/
def connector (line : Line) (arm column : Nat) : String :=
  let width := line.width column
  if column < arm then
    Margin.spaces width
  else if column = arm then
    "╰" ++ Margin.rule (width - 1)
  else
    Margin.rule width

/-- The excerpt for a span within one line. Nothing is shown of a span that reaches beyond the end
of the line. -/
def singleLine (m : Margin) (index : Nat) (line : Line) (start stop : Nat) (label : String) :
    List String :=
  if line.stop < stop then
    [m.blank]
  else
    let arm := (start + stop) / 2 - line.offset
    let columns := List.range (stop - line.offset + 2)
    [m.numbered index ++ String.ofList line.shown,
      m.blank ++ String.join (columns.map
        (underline line (start - line.offset) (stop - line.offset) arm)),
      m.blank ++ String.join (columns.map (connector line arm)) ++ " " ++ label]

/-- The excerpt for a span over several lines: the first and the last one. The last one is not shown
of a span that reaches beyond its end. -/
def multiLine (m : Margin) (first last : Nat) (firstLine lastLine : Line) (stop : Nat)
    (label : String) : List String :=
  let opened := m.numbered first ++ "╭─▶ " ++ String.ofList firstLine.shown
  let gap := m.pad ++ "┆ ┆   "
  if lastLine.stop < stop then
    [opened, gap]
  else
    let columns := List.range (lastLine.chars.length + 2)
    let width := columns.foldl (fun width column => width + lastLine.width column) 0
    [opened] ++ (if first + 1 < last then [gap] else []) ++
      [m.numbered last ++ "├─▶ " ++ String.ofList lastLine.shown,
        m.blank ++ "│   " ++ Margin.spaces width,
        m.blank ++ "╰───" ++ Margin.rule width ++ " " ++ label]

/-- What stands between the margin and the hint. -/
def hintIndent (source : String) (first last start : Nat) : String :=
  if first = last then
    ""
  else if ((lines source).head?.map fun line => line.chars.length) = some start then
    "│   "
  else
    "    "

/-- A line without a carriage return at its end. -/
def dropCarriageReturn (line : String) : String :=
  let chars := line.toList
  String.ofList (if chars.getLast? = some '\r' then chars.dropLast else chars)

/-- The lines of a text, without the carriage return that may stand before a line break. -/
def textLines (text : String) : List String :=
  let pieces := text.splitOn "\n"
  pieces.dropLast.map dropCarriageReturn ++ pieces.getLast?.toList

/-- The rows of a hint, after an empty one. -/
def hintRows (m : Margin) (indent hint : String) : List String :=
  match textLines hint with
  | [] => []
  | row :: rows =>
    [m.blank ++ indent, m.blank ++ indent ++ "Help: " ++ row] ++
      rows.map fun row => m.blank ++ indent ++ "      " ++ row

/-- The excerpt of a source around a span, with the label and the hint. There is none if an end of
the span lies on no line. -/
def excerpt (source : String) (start stop : Nat) (label : String) (hint? : Option String) :
    List String :=
  let found := do
    let first ← lineAt? source start
    let last ← if start = stop then some first else lineAt? source (stop - 1)
    let firstLine ← (lines source)[first]?
    let lastLine ← (lines source)[last]?
    return (first, last, firstLine, lastLine)
  match found with
  | none => []
  | some (first, last, firstLine, lastLine) =>
    let m : Margin := ⟨(last + 1).repr.length⟩
    let rows :=
      if first = last then
        singleLine m first firstLine start stop label
      else
        multiLine m first last firstLine lastLine stop label
    let hint :=
      match hint? with
      | none => []
      | some hint => hintRows m (hintIndent source first last start) hint
    m.opening first (start - firstLine.offset) ++ rows ++ hint ++ [m.closing]

/-- The rows of a report on a fault at a span of the source. -/
def rows (fault : Fault) (source : String) (start stop : Nat) : List String :=
  let (start, stop) := span source start stop
  ("[" ++ fault.code ++ "] Error: " ++ fault.message) ::
    excerpt source start stop fault.label fault.hint?

/-- The text of a report. Every row ends in a line break. -/
def text (fault : Fault) (source : String) (start stop : Nat) : String :=
  String.join ((rows fault source start stop).map fun row => row ++ "\n")

end CallHandle.Report
