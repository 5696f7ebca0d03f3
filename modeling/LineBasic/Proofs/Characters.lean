import LineBasic.Text
import LineBasic.Unicode.Letter
import LineBasic.Unicode.White
import Mathlib.Data.List.TakeWhile

/-!
# Classes of characters

Letters, digits, gaps and the punctuation of a statement are told apart by
their first character: no two of these classes meet (`isGap_of_isLetter`,
`isLetter_of_isDigit`, `isGap_of_isDigit`, `punctuation_apart`). A run of characters of one class is
**maximal** when the class stops behind it, and a text has only one such run at
its front (`takeWhile_of_stops`, `dropWhile_of_stops`).
-/

namespace LineBasic

/-! ## Disjoint classes -/

/-- A property of all members of the ranges of a table holds of every code
point that the table covers. -/
theorem CodeRange.forall_of_covers {P : Nat → Prop} {least : Nat} {table : List CodeRange}
    (ascending : AscendingFrom least table)
    (members : ∀ r ∈ table, ∀ k < r.2 + 1 - r.1, P (r.1 + k)) {n : Nat}
    (covered : covers table n = true) : P n := by
  obtain ⟨r, member, lower, upper⟩ := (covers_eq_true_iff ascending n).1 covered
  have inside := members r member (n - r.1) (by omega)
  rwa [Nat.add_sub_cancel' lower] at inside

theorem isLetter_of_lt {c : Char} (below : c.toNat < 0x41) : isLetter c = false := by
  unfold isLetter letterRanges
  rw [CodeRange.covers, if_pos below]

theorem isDigit_iff {c : Char} : isDigit c = true ↔ 0x30 ≤ c.toNat ∧ c.toNat ≤ 0x39 := by
  unfold isDigit
  rw [Bool.and_eq_true, decide_eq_true_iff, decide_eq_true_iff]
  exact Iff.rfl

theorem isLetter_of_isDigit {c : Char} (digit : isDigit c = true) : isLetter c = false :=
  isLetter_of_lt (by have := isDigit_iff.1 digit; omega)

/-- White space is neither a letter nor a digit nor punctuation. -/
theorem whiteRanges_apart : ∀ r ∈ whiteRanges, ∀ k < r.2 + 1 - r.1,
    CodeRange.covers letterRanges (r.1 + k) = false ∧
      (r.1 + k < 0x21 ∨ 0x39 < r.1 + k) := by decide +kernel

theorem isGap_apart {c : Char} (gap : isGap c = true) :
    isLetter c = false ∧ (c.toNat < 0x21 ∨ 0x39 < c.toNat) := by
  unfold isGap at gap
  rcases Bool.or_eq_true_iff.1 gap with mark | white
  · have code : c.toNat = 0xFEFF := by simpa using mark
    unfold isLetter
    rw [code]
    exact ⟨by decide +kernel, by omega⟩
  · rw [Bool.and_eq_true] at white
    exact CodeRange.forall_of_covers
      (P := fun n => CodeRange.covers letterRanges n = false ∧ (n < 0x21 ∨ 0x39 < n))
      whiteRanges_ascending whiteRanges_apart white.1

theorem isGap_of_isLetter {c : Char} (letter : isLetter c = true) : isGap c = false := by
  cases gap : isGap c with
  | false => rfl
  | true => rw [(isGap_apart gap).1] at letter; cases letter

theorem isGap_of_isDigit {c : Char} (digit : isDigit c = true) : isGap c = false := by
  have place := isDigit_iff.1 digit
  cases gap : isGap c with
  | false => rfl
  | true => have := (isGap_apart gap).2; omega

theorem isNameChar_of_isLetter {c : Char} (letter : isLetter c = true) : isNameChar c = true := by
  rw [isNameChar, letter, Bool.true_or]

theorem isNameChar_of_isDigit {c : Char} (digit : isDigit c = true) : isNameChar c = true := by
  rw [isNameChar, digit, Bool.or_true]

theorem isGap_of_isNameChar {c : Char} (named : isNameChar c = true) : isGap c = false := by
  rcases Bool.or_eq_true_iff.1 named with letter | digit
  · exact isGap_of_isLetter letter
  · exact isGap_of_isDigit digit

/-- The characters that stand for themselves in the grammar. -/
def punctuation : List Char := ['"', '(', ')', '*', '+', ',', '-', '/', '=']

theorem punctuation_outside :
    punctuation.all (fun c => !isGap c && !isLetter c && !isDigit c) = true := by decide +kernel

/-- Punctuation is not white space and belongs to no word. -/
theorem punctuation_apart {c : Char} (mark : c ∈ punctuation) :
    isGap c = false ∧ isLetter c = false ∧ isDigit c = false := by
  have outside := List.all_eq_true.1 punctuation_outside c mark
  simpa [and_assoc] using outside

theorem isNameChar_of_punctuation {c : Char} (mark : c ∈ punctuation) : isNameChar c = false := by
  obtain ⟨_, letter, digit⟩ := punctuation_apart mark
  rw [isNameChar, letter, digit]
  rfl

theorem ne_quote_of_isNameChar {c : Char} (named : isNameChar c = true) : c ≠ '"' := by
  rintro rfl
  rw [isNameChar_of_punctuation (by decide)] at named
  cases named

/-! ## Maximal runs -/

/-- The text does not go on with a character of the class `p`. -/
def Stops (p : Char → Bool) (t : Text) : Prop := ∀ c ∈ t.head?, p c = false

theorem stops_nil (p : Char → Bool) : Stops p [] := by
  intro c member
  cases member

theorem stops_cons {p : Char → Bool} {c : Char} {t : Text} : Stops p (c :: t) ↔ p c = false := by
  refine ⟨?_, ?_⟩
  · intro stops
    exact stops c rfl
  · intro outside d member
    cases member
    exact outside

theorem Stops.of_head? {p : Char → Bool} {t t' : Text} (stops : Stops p t)
    (same : t'.head? = t.head?) : Stops p t' := by
  unfold Stops
  rw [same]
  exact stops

/-- A gap stops before punctuation. -/
theorem stops_isGap_of_punctuation {c : Char} {t : Text} (mark : c ∈ punctuation) :
    Stops isGap (c :: t) := stops_cons.2 (punctuation_apart mark).1

/-- A name stops before punctuation. -/
theorem stops_isNameChar_of_punctuation {c : Char} {t : Text} (mark : c ∈ punctuation) :
    Stops isNameChar (c :: t) := stops_cons.2 (isNameChar_of_punctuation mark)

theorem stops_dropWhile (p : Char → Bool) (t : Text) : Stops p (t.dropWhile p) := by
  have front := List.head?_dropWhile_not p t
  intro c member
  rw [Option.mem_def] at member
  rw [member] at front
  simpa using front

theorem takeWhile_of_stops {p : Char → Bool} {run rest : Text} (all : ∀ c ∈ run, p c = true)
    (stops : Stops p rest) : (run ++ rest).takeWhile p = run := by
  rw [List.takeWhile_append_of_pos all]
  cases rest with
  | nil => simp
  | cons c rest => rw [List.takeWhile_cons_of_neg (by simp [stops_cons.1 stops]), List.append_nil]

theorem dropWhile_of_stops {p : Char → Bool} {run rest : Text} (all : ∀ c ∈ run, p c = true)
    (stops : Stops p rest) : (run ++ rest).dropWhile p = rest := by
  rw [List.dropWhile_append_of_pos all]
  cases rest with
  | nil => rfl
  | cons c rest => rw [List.dropWhile_cons_of_neg (by simp [stops_cons.1 stops])]

/-- Two maximal runs at the front of one text are the same. -/
theorem run_unique {p : Char → Bool} {run run' rest rest' : Text}
    (all : ∀ c ∈ run, p c = true) (all' : ∀ c ∈ run', p c = true) (stops : Stops p rest)
    (stops' : Stops p rest') (same : run ++ rest = run' ++ rest') : run = run' ∧ rest = rest' := by
  refine ⟨?_, ?_⟩
  · rw [← takeWhile_of_stops all stops, same, takeWhile_of_stops all' stops']
  · rw [← dropWhile_of_stops all stops, same, dropWhile_of_stops all' stops']

/-! ## Words -/

/-- A nonempty text whose first character is in one class and whose others are
in another. -/
def IsWord (first more : Char → Bool) (word : Text) : Prop :=
  ∃ initial tail, word = initial :: tail ∧ first initial = true ∧ ∀ c ∈ tail, more c = true

theorem IsWord.head? {first more : Char → Bool} {word : Text} (isWord : IsWord first more word)
    (rest : Text) : ∃ initial, (word ++ rest).head? = some initial ∧ first initial = true := by
  obtain ⟨initial, tail, rfl, begins, _⟩ := isWord
  exact ⟨initial, rfl, begins⟩

theorem IsWord.all {first more : Char → Bool} {word : Text} (isWord : IsWord first more word)
    (narrower : ∀ c, first c = true → more c = true) : ∀ c ∈ word, more c = true := by
  obtain ⟨initial, tail, rfl, begins, all⟩ := isWord
  intro c member
  rcases List.mem_cons.1 member with rfl | later
  · exact narrower c begins
  · exact all c later

end LineBasic
