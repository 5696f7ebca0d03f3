import LineBasic.Proofs.InputLines
import LineBasic.Proofs.Spacing
import Mathlib.Data.List.DropRight

/-!
# Any spacing will do

A **spacing** says which gaps to put into a line: one at each end, and one in
place of each longest gap outside quotes. The ends may be empty, the gaps in
between may not, as they set tokens apart. Everything else of a line is left as
it is, also what stands in quotes.

* **step** — a text and the same text with its gaps replaced are respaced
  (`respaced_refill`), by induction on the text with one gap held open;
* **line** — hence a line and any spacing of it are loosely related, whatever
  their ends (`Spacing.loose`).

Main result: **`white_space_between_tokens_never_counts`**.
-/

namespace LineBasic

/-- A text with another gap in place of each longest gap outside quotes. The one
that begins at a place, counted in characters, becomes `fill` of that place.
The flags tell whether the text begins inside quotes, after an odd number of
them, and whether it goes on with a gap that has been replaced already. -/
def refill (fill : Nat → Text) : (place : Nat) → (quoted inGap : Bool) → Text → Text
  | _, _, _, [] => []
  | place, quoted, inGap, ch :: rest =>
    if quoted = false ∧ isGap ch = true then
      (if inGap then [] else fill place) ++ refill fill (place + 1) false true rest
    else ch :: refill fill (place + 1) (quoted != (ch == '"')) false rest

/-- The gaps to put into a line. -/
structure Spacing where
  front : Text
  fill : Nat → Text
  back : Text
  front_gap : ∀ ch ∈ front, isGap ch = true
  fill_nonempty : ∀ place, fill place ≠ []
  fill_gap : ∀ place, ∀ ch ∈ fill place, isGap ch = true
  back_gap : ∀ ch ∈ back, isGap ch = true

/-- A line without the gaps at both ends. -/
def stripped (line : Text) : Text := dropEndWhile isGap (line.dropWhile isGap)

/-- A line with another spacing. -/
def Spacing.apply (spacing : Spacing) (line : Text) : Text :=
  spacing.front ++ refill spacing.fill 0 false false (stripped line) ++ spacing.back

/-! ## Replaced gaps -/

section Refill

variable {fill : Nat → Text} {place : Nat} {quoted inGap : Bool} {ch : Char} {rest : Text}

theorem refill_cons_of_gap (gap : isGap ch = true) :
    refill fill place false inGap (ch :: rest) =
      (if inGap then [] else fill place) ++ refill fill (place + 1) false true rest := by
  simp [refill, gap]

theorem refill_cons_of_kept (kept : quoted = true ∨ isGap ch = false) :
    refill fill place quoted inGap (ch :: rest) =
      ch :: refill fill (place + 1) (quoted != (ch == '"')) false rest := by
  rw [refill, if_neg]
  rintro ⟨rfl, gap⟩
  simp [gap] at kept

variable (nonempty : ∀ place, fill place ≠ [])
  (gaps : ∀ place, ∀ ch ∈ fill place, isGap ch = true)
include nonempty gaps

/-- **Step.** Replacing gaps respaces a text, be it at the beginning or within a
gap, of which `g` has been replaced by `g'`. -/
theorem respaced_refill (t : Text) :
    (∀ place quoted, Respaced quoted t (refill fill place quoted false t)) ∧
    ∀ place g g', g ≠ [] → g' ≠ [] → (∀ ch ∈ g, isGap ch = true) → (∀ ch ∈ g', isGap ch = true) →
      Respaced false (g ++ t) (g' ++ refill fill place false true t) := by
  induction t with
  | nil =>
    refine ⟨fun _ quoted => .finish (by simp) (by simp [refill]), ?_⟩
    intro place g g' _ _ all all'
    exact .finish (by simpa using all) (by simpa [refill] using all')
  | cons ch rest ih =>
    obtain ⟨ihOutside, ihWithin⟩ := ih
    refine ⟨?_, ?_⟩
    · intro place quoted
      by_cases kept : quoted = true ∨ isGap ch = false
      · rw [refill_cons_of_kept kept]
        exact .keep kept (ihOutside _ _)
      · obtain ⟨rfl, gap⟩ : quoted = false ∧ isGap ch = true := by simpa using kept
        rw [refill_cons_of_gap gap]
        exact ihWithin (place + 1) [ch] (fill place) (by simp) (nonempty place)
          (by simpa using gap) (gaps place)
    · intro place g g' some_gap some_gap' all all'
      cases gap : isGap ch with
      | true =>
        -- the gap that is held open grows by one character
        have longer := ihWithin (place + 1) (g ++ [ch]) g' (by simp) some_gap'
          (List.forall_mem_append.2 ⟨all, by simpa using gap⟩) all'
        simpa [refill_cons_of_gap gap] using longer
      | false =>
        rw [refill_cons_of_kept (.inr gap)]
        exact .gap some_gap some_gap' all all' (.keep (.inr gap) (ihOutside _ _))

end Refill

/-! ## Spacings of a line -/

theorem stripped_append (line : Text) :
    ∃ tail, (∀ ch ∈ tail, isGap ch = true) ∧ line.dropWhile isGap = stripped line ++ tail :=
  dropEndWhile_append isGap (line.dropWhile isGap)

/-- A line and any spacing of it are loosely related. -/
theorem Spacing.loose (spacing : Spacing) (line : Text) :
    Loose (.start line) (.start (spacing.apply line)) := by
  obtain ⟨tail, all, whole⟩ := stripped_append line
  have inner := (respaced_refill spacing.fill_nonempty spacing.fill_gap (stripped line)).1 0 false
  have respaced := (inner.append all spacing.back_gap).skip
  show Respaced false (line.dropWhile isGap) ((spacing.apply line).dropWhile isGap)
  rw [← whole, List.dropWhile_idempotent] at respaced
  rw [apply, List.append_assoc, List.dropWhile_append_of_pos spacing.front_gap]
  exact respaced

/-- **White space between tokens never counts.** Whatever other gaps a line gets
at its ends and, outside quotes, in place of its own, it has the same effect or
an error with the same cause and help, and leaves the same store. A gap is made
of white space and byte order marks, but not of next-line controls. -/
theorem white_space_between_tokens_never_counts :
    (∀ (store : Store) (line : Text) (spacing : Spacing),
      AnswerInStep anyPlace (execute store line).outcome
          (execute store (spacing.apply line)).outcome ∧
        (execute store (spacing.apply line)).store = (execute store line).store) ∧
    ∀ ch, isGap ch = true ↔
      (isWhite ch = true ∨ ch = '\uFEFF') ∧ ch ≠ '\u0085' := by
  refine ⟨fun store line spacing => (spacing.loose line).execute store, fun ch => ?_⟩
  have mark : ch = '\uFEFF' ↔ ch.toNat = 0xFEFF := Char.toNat_inj.symm
  have control : ch = '\u0085' ↔ ch.toNat = 0x85 := Char.toNat_inj.symm
  rw [isGap, mark, ne_eq, control, Bool.or_eq_true, Bool.and_eq_true, beq_iff_eq, bne_iff_ne]
  constructor
  · rintro (isMark | ⟨white, other⟩)
    · exact ⟨.inr isMark, by omega⟩
    · exact ⟨.inl white, other⟩
  · rintro ⟨white | isMark, other⟩
    · exact .inr ⟨white, other⟩
    · exact .inl isMark

/-- A spacing with gaps of several lengths and of several characters. -/
def Spacing.uneven : Spacing where
  front := ['\t', '\uFEFF']
  fill place := if place % 2 = 0 then [' '] else ['\u00A0', '\t', '\u3000']
  back := ['\uFEFF']
  front_gap := List.all_eq_true.1 (by decide +kernel)
  fill_nonempty place := by split <;> exact List.cons_ne_nil _ _
  fill_gap place := by split <;> exact List.all_eq_true.1 (by decide +kernel)
  back_gap := List.all_eq_true.1 (by decide +kernel)

/-- The gaps of a line that prints are filled unevenly, those in quotes are not, and it
prints the same. -/
theorem uneven_gaps_never_count :
    let line := "print \"a  b\" , 1  + 2 ".toList
    let respaced := Spacing.uneven.apply line
    respaced = "\t\uFEFFprint\u00A0\t\u3000\"a  b\" , 1 +\u00A0\t\u30002\uFEFF".toList ∧
    (execute .empty line).outcome = .ok (.printed "a  b3".toList) ∧
    AnswerInStep anyPlace (execute .empty line).outcome (execute .empty respaced).outcome ∧
    (execute .empty respaced).store = (execute .empty line).store := by
  intro line respaced
  obtain ⟨answer, store⟩ :=
    white_space_between_tokens_never_counts.1 .empty line Spacing.uneven
  exact ⟨by decide +kernel, by decide +kernel, answer, store⟩

end LineBasic
