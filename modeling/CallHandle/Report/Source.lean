import CallHandle.Text.Blank

/-!
Source text as a report shows it: lines with the offset of their first character, and the width
that each character takes. A tab reaches to the next column that is a multiple of four.
-/

namespace CallHandle.Report

/-- A line of source. `chars` holds the line break too, if the line has one. -/
structure Line where
  offset : Nat
  chars : List Char
  deriving DecidableEq

/-- Whether a character ends a line. -/
def isLineBreak (c : Char) : Bool :=
  ['\n', '\x0b', '\x0c', '\r', '\u0085', '\u2028', '\u2029'].contains c

/-- The characters up to and with the first line break, and those after it. A carriage return with a
line feed is one line break. -/
def splitLine : List Char → List Char × List Char
  | [] => ([], [])
  | '\r' :: '\n' :: cs => (['\r', '\n'], cs)
  | c :: cs =>
    if isLineBreak c then
      ([c], cs)
    else
      let (line, rest) := splitLine cs
      (c :: line, rest)

theorem length_splitLine (cs : List Char) :
    (splitLine cs).1.length + (splitLine cs).2.length = cs.length := by
  fun_induction splitLine cs with
  | case1 => rfl
  | case2 cs =>
    simp only [List.length_cons, List.length_nil]
    omega
  | case3 c cs _ _ => simp [Nat.add_comm]
  | case4 c cs _ _ line rest hs ih =>
    simp only [hs, List.length_cons] at ih ⊢
    omega

theorem length_splitLine_pos {cs : List Char} (h : cs ≠ []) : 0 < (splitLine cs).1.length := by
  fun_cases splitLine cs <;> simp_all

/-- The lines of a text that starts at an offset. A line break at the end starts no line. -/
def linesFrom (offset : Nat) : List Char → List Line
  | [] => []
  | c :: cs =>
    let split := splitLine (c :: cs)
    ⟨offset, split.1⟩ :: linesFrom (offset + split.1.length) split.2
termination_by cs => cs.length
decreasing_by
  have := length_splitLine (c :: cs)
  have := length_splitLine_pos (List.cons_ne_nil c cs)
  omega

/-- The lines of a source. An empty source is one empty line. -/
def lines (source : String) : List Line :=
  match source.toList with
  | [] => [⟨0, []⟩]
  | cs => linesFrom 0 cs

/-- The index of the line that an offset lies on. The end of the source lies on the last line, and
nothing beyond the end lies on any. -/
def lineAt? (source : String) (offset : Nat) : Option Nat :=
  if source.length < offset then
    none
  else
    some (((lines source).filter fun line => line.offset ≤ offset).length - 1)

namespace Line

/-- The offset after the line. -/
def stop (line : Line) : Nat :=
  line.offset + line.chars.length

/-- The characters that are shown: all but the blanks at the end. -/
def trimmed (line : Line) : List Char :=
  (line.chars.reverse.dropWhile Text.isBlank).reverse

/-- The width of what is shown in a column. Beyond the shown characters every column has width
one. -/
def width (line : Line) (column : Nat) : Nat :=
  match line.trimmed[column]? with
  | some '\t' => 4 - column % 4
  | _ => 1

/-- The line with its blanks as spaces. -/
def shown (line : Line) : List Char :=
  line.trimmed.zipIdx.flatMap fun (c, column) =>
    if Text.isBlank c then List.replicate (line.width column) ' ' else [c]

end Line

end CallHandle.Report
