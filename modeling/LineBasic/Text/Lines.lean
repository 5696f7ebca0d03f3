import LineBasic.Text
import LineBasic.Unicode.White

/-!
# Lines

Input is cut into lines at each line feed, before anything is known about the
encoding of the bytes. A cut line keeps its line feed, so that the lines of an
input, one after the other, are the input again (`flatten_rawLines`). How much
of a line's end belongs to its text is the reader's choice: `chomp` takes off
one line feed and one carriage return right before it, `dropLineEnd` all line
feeds and carriage returns at the end.
-/

namespace LineBasic

/-- The byte of a line feed. -/
def lineFeed : UInt8 := 10

/-- The byte of a carriage return. -/
def carriageReturn : UInt8 := 13

/-- The first line of an input, with its line feed, and what follows it. -/
def cutLine : Bytes → Bytes × Bytes
  | [] => ([], [])
  | b :: bytes =>
    if b = lineFeed then ([b], bytes)
    else ((b :: (cutLine bytes).1), (cutLine bytes).2)

theorem cutLine_append (bytes : Bytes) : (cutLine bytes).1 ++ (cutLine bytes).2 = bytes := by
  induction bytes with
  | nil => rfl
  | cons b bytes ih => by_cases h : b = lineFeed <;> simp [cutLine, h, ih]

theorem length_cutLine_snd_le (b : UInt8) (bytes : Bytes) :
    (cutLine (b :: bytes)).2.length ≤ bytes.length := by
  have whole := congrArg List.length (cutLine_append bytes)
  by_cases h : b = lineFeed
  · simp [cutLine, h]
  · simp only [List.length_append] at whole
    simp only [cutLine, h, if_false]
    omega

/-- The lines of an input, each with its line feed. The last one lacks it when
the input does not end in one; there is no empty line after a final one. -/
def rawLines : Bytes → List Bytes
  | [] => []
  | b :: bytes => (cutLine (b :: bytes)).1 :: rawLines (cutLine (b :: bytes)).2
termination_by bytes => bytes.length
decreasing_by
  have := length_cutLine_snd_le b bytes
  simp only [List.length_cons]
  omega

@[simp] theorem flatten_rawLines (bytes : Bytes) : (rawLines bytes).flatten = bytes := by
  fun_induction rawLines bytes with
  | case1 => rfl
  | case2 b bytes ih => rw [List.flatten_cons, ih, cutLine_append]

/-- A line without its line feed and the carriage return right before that. A
line that does not end in a line feed stays as it is. -/
def chomp (line : Bytes) : Bytes :=
  if line.getLast? = some lineFeed then
    let body := line.dropLast
    if body.getLast? = some carriageReturn then body.dropLast else body
  else line

/-- A text without the longest ending of characters with property `p`. -/
def dropEndWhile (p : Char → Bool) (t : Text) : Text := (t.reverse.dropWhile p).reverse

/-- A text without the line feeds and carriage returns at its end. -/
def dropLineEnd (t : Text) : Text := dropEndWhile (fun c => c == '\n' || c == '\r') t

/-- A text without white space at both ends. -/
def trim (t : Text) : Text := dropEndWhile isWhite (t.dropWhile isWhite)

/-- A blank line holds nothing but white space. -/
def isBlank (t : Text) : Bool := t.all isWhite

end LineBasic
