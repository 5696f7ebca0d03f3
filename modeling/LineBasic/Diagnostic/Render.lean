import LineBasic.Diagnostic
import LineBasic.Text.Lines
import LineBasic.Unicode.Width

/-!
# Rendered diagnostics

A diagnostic for a terminal, in colour: a headline, the offending line in a
frame with the faulty characters underlined, the message at the underline and
the help below it.

The frame shows one line of the source text. A source of several lines is cut
at every line terminator of Unicode, and the line where the span starts is the
one shown. Tabs are shown as spaces up to the next multiple of four, and
underlines follow the display width of the characters above them.
-/

namespace LineBasic

/-- Text in a terminal colour. -/
def paint (colour text : String) : String :=
  "\x1b[" ++ colour ++ "m" ++ text ++ "\x1b[0m"

/-- The colour of a stage. -/
def Stage.colour : Stage → String
  | .lexical => "31"
  | .grammar => "33"
  | .runtime => "35"

/-- The heading of a stage. -/
def Stage.title : Stage → String
  | .lexical => "Lexical Error"
  | .grammar => "Syntax Error"
  | .runtime => "Runtime Error"

namespace Diagnostic

/-- The colours of everything that does not depend on the stage. -/
def alertColour : String := "31"
def frameColour : String := "38;5;246"
def sourceColour : String := "38;5;249"
def marginColour : String := "38;5;240"
def noteColour : String := "38;5;115"
def helpColour : String := "36"

/-- The same text several times over. -/
def times (count : Nat) (text : String) : String := String.join (List.replicate count text)

/-! ## The line on show -/

/-- Characters that end a displayed line. A carriage return and a line feed
together end it once. -/
def endsLine (c : Char) : Bool :=
  [0xA, 0xB, 0xC, 0xD, 0x85, 0x2028, 0x2029].contains c.toNat

/-- The displayed lines of a source, each with its terminator. -/
def displayLines : Text → List Text
  | [] => []
  | '\r' :: '\n' :: rest => ['\r', '\n'] :: displayLines rest
  | c :: rest =>
    if endsLine c then [c] :: displayLines rest
    else
      match displayLines rest with
      | [] => [[c]]
      | line :: lines => (c :: line) :: lines

/-- A displayed line, its index and the offset of its first character. -/
structure SourceLine where
  index : Nat
  offset : Nat
  text : Text

/-- The last line that begins at or before the character `place`, when `line`
is one that does and `later` follow it. -/
def SourceLine.locate (place : Nat) (line : SourceLine) : (later : List Text) → SourceLine
  | [] => line
  | following :: later =>
    let offset := line.offset + line.text.length
    if offset ≤ place then locate place ⟨line.index + 1, offset, following⟩ later
    else line

/-! ## Cells

Character `k` of a line takes the cell `k`, some columns wide. -/

/-- What is shown for character `k` of a line, and its width. -/
def cell (k : Nat) (c : Char) : Char × Nat :=
  if c = '\t' then (' ', (k / 4 + 1) * 4 - k)
  else if isWhite c then (' ', 1)
  else (c, displayWidth c)

/-- The cells of a line. -/
def cells (line : Text) : List (Char × Nat) := line.zipIdx.map fun (c, k) => cell k c

/-- The columns of a row beneath a line, one entry for each of `count` cells.
Past the end of the line cells are one column wide. -/
def widths (line : Text) (count : Nat) : List Nat :=
  let known := (cells line).map (·.2)
  (known ++ List.replicate (count - known.length) 1).take count

/-- A row beneath a line: `draw k` gives the first column of cell `k` and all
its further columns. -/
def row (widths : List Nat) (draw : Nat → String × String) : String :=
  String.join (widths.zipIdx.map fun (width, k) =>
    match width with
    | 0 => ""
    | further + 1 => (draw k).1 ++ times further (draw k).2)

/-! ## The parts of a report -/

/-- The first line of a report. -/
def headline (d : Diagnostic) : String :=
  let stage := d.error.cause.stage
  let place := match d.lineNumber with
    | none => ""
    | some number => " on line " ++ toString number
  paint alertColour "Error:" ++ " " ++ paint stage.colour stage.title ++ place ++ ": "
    ++ d.error.cause.message ++ "\n"

/-- The characters of the line, those from `start` up to `stop` marked. -/
def quotedLine (markColour : String) (start stop : Nat) (line : Text) : String :=
  String.join ((cells line).zipIdx.map fun ((shown, width), k) =>
    let colour := if start ≤ k ∧ k < stop then markColour else sourceColour
    times (if shown = ' ' then width else 1) (paint colour (String.singleton shown)))

/-- The underline, with a stem below its middle. -/
def underline (colour : String) (start stop : Nat) (widths : List Nat) : String :=
  let middle := (start + stop) / 2
  row widths fun k =>
    let marked := decide (start ≤ k) && decide (k < stop)
    if k = middle then
      if marked then (paint colour "┬", paint colour "─")
      else (paint colour "│", paint colour " ")
    else if marked then (paint colour "─", paint colour "─")
    else (" ", " ")

/-- The arm that leads from the stem to the message. -/
def arm (colour : String) (start stop : Nat) (widths : List Nat) : String :=
  let middle := (start + stop) / 2
  row widths fun k =>
    if k = middle then (paint colour "╰", paint colour "─")
    else if middle < k then (paint colour "─", paint colour "─")
    else (" ", " ")

/-- The framed part of a report, below the headline. -/
def excerpt (d : Diagnostic) (filename : Text) (line : SourceLine) : String :=
  let colour := d.error.cause.stage.colour
  let (start, stop) := d.error.span.highlight d.source
  let text := dropEndWhile isWhite line.text
  let column := start - line.offset
  let columnEnd := stop - line.offset
  let number := toString (line.index + 1)
  let indent := times (number.length + 2) " "
  let frame := paint frameColour
  let margin := " " ++ paint marginColour (times (number.length + 1) " " ++ "│") ++ " "
  let widths := widths text (columnEnd + 2)
  let help := match d.error.help with
    | none => ""
    | some advice =>
      margin ++ "\n" ++ margin ++ paint noteColour "Note" ++ ": " ++ paint helpColour "help"
        ++ ": " ++ advice ++ "\n"
  indent ++ frame "╭" ++ frame "─" ++ frame "[" ++ String.ofList filename ++ ":" ++ number
    ++ ":" ++ toString (column + 1) ++ frame "]" ++ "\n"
    ++ indent ++ frame "│" ++ "\n"
    ++ " " ++ frame (number ++ " │") ++ " " ++ quotedLine colour column columnEnd text ++ "\n"
    ++ margin ++ underline colour column columnEnd widths ++ "\n"
    ++ margin ++ arm colour column columnEnd widths ++ " " ++ d.error.cause.message ++ "\n"
    ++ help
    ++ frame (times (number.length + 2) "─" ++ "╯") ++ "\n"

/-- A diagnostic as it is written to the terminal. An empty source has no line
to show. -/
def render (d : Diagnostic) (filename : Text) : String :=
  match displayLines d.source with
  | [] => d.headline
  | first :: later =>
    let start := (d.error.span.highlight d.source).1
    d.headline ++ d.excerpt filename (SourceLine.locate start ⟨0, 0, first⟩ later)

end Diagnostic

/-- The name that stands for the source of lines typed at a prompt. -/
def promptName : Text := ['<', 'r', 'e', 'p', 'l', '>']

end LineBasic
