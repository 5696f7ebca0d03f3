import LineBasic.Proofs.Characters
import LineBasic.Proofs.LowerCase

/-!
# What lower case keeps of a letter

The lower-case form of a character is one character of the same kind: it is
cased, case ignores it, and it is a letter, if that is so of the character
(**`exists_lowerChar`**). The one exception is the dotted capital I, whose form
is a letter and a combining mark (`lowerChar_dotted`).

The tables are checked run by run: the code points of a run and their forms lie
each within one range of a table or between two (`CodeRange.uniform?`), except
for few runs, whose code points are looked at one by one (`CaseRun.piecewise`).
-/

namespace LineBasic

/-! ## Ranges within a table -/

namespace CodeRange

/-- Whether all code points from `first` to `last` are in a table, or none of
them; nothing is said if they are in more than one piece. -/
def uniform? : List CodeRange → (first last : Nat) → Option Bool
  | [], _, _ => some false
  | (low, high) :: rest, first, last =>
    bif Nat.blt high first then uniform? rest first last
    else bif Nat.blt last low then some false
    else bif Nat.ble low first && Nat.ble last high then some true
    else none

theorem covers_of_uniform? {least : Nat} {table : List CodeRange}
    (ascending : AscendingFrom least table) {first last n : Nat} {inside : Bool}
    (uniform : uniform? table first last = some inside) (lower : first ≤ n) (upper : n ≤ last) :
    covers table n = inside := by
  induction table generalizing least with
  | nil => exact Option.some.inj uniform
  | cons head rest ih =>
    obtain ⟨low, high⟩ := head
    obtain ⟨_, nonempty, restAscending⟩ := ascending
    unfold uniform? at uniform
    unfold covers
    simp only [cond_eq_ite, Nat.blt_eq, Bool.and_eq_true, Nat.ble_eq] at uniform
    split at uniform
    · rw [if_neg (by omega), if_neg (by omega)]
      exact ih restAscending uniform
    · split at uniform
      · rw [if_pos (by omega)]
        exact Option.some.inj uniform
      · split at uniform
        · rw [if_neg (by omega), if_pos (by omega)]
          exact Option.some.inj uniform
        · cases uniform

end CodeRange

/-! ## Checks along the runs -/

namespace CaseRun

/-- A check of a range of code points and the range of their forms, both of the
same width, on a whole run at once or else on its code points. -/
def piecewise (check : (first lower width : Nat) → Bool) (run : CaseRun) : Bool :=
  check run.first run.lower (run.last - run.first) ||
    (List.range (run.last + 1 - run.first)).all fun k =>
      k % run.step != 0 || check (run.first + k) (run.lower + k) 0

/-- A run that passes the check is covered by ranges that do. -/
theorem exists_of_piecewise {check : (first lower width : Nat) → Bool} {run : CaseRun}
    (passes : run.piecewise check = true) {k : Nat} (nonempty : run.first ≤ run.last)
    (inRun : k ≤ run.last - run.first) (onStep : k % run.step = 0) :
    ∃ first lower width j, check first lower width = true ∧ j ≤ width ∧
      run.first + k = first + j ∧ run.lower + k = lower + j := by
  rcases Bool.or_eq_true_iff.1 passes with whole | single
  · exact ⟨_, _, _, k, whole, inRun, rfl, rfl⟩
  · have here := List.all_eq_true.1 single k (List.mem_range.2 (by omega))
    rw [onStep] at here
    exact ⟨_, _, 0, 0, here, le_rfl, rfl, rfl⟩

/-- The code points and their forms are all in a table, or none of them is. -/
def together (table : List CodeRange) (inside : Bool) (first lower width : Nat) : Bool :=
  CodeRange.uniform? table first (first + width) == some inside &&
    CodeRange.uniform? table lower (lower + width) == some inside

/-- Code points in a table have their forms in it. -/
def carries (table : List CodeRange) (first lower width : Nat) : Bool :=
  CodeRange.uniform? table first (first + width) == some false ||
    CodeRange.uniform? table lower (lower + width) == some true

section Member

variable {table : List CodeRange} (ascending : CodeRange.AscendingFrom 0 table) {run : CaseRun}
  {k : Nat} (nonempty : run.first ≤ run.last) (inRun : k ≤ run.last - run.first)
  (onStep : k % run.step = 0)

include ascending nonempty inRun onStep

theorem covers_of_together {inside : Bool}
    (passes : run.piecewise (together table inside) = true) :
    CodeRange.covers table (run.first + k) = inside ∧
      CodeRange.covers table (run.lower + k) = inside := by
  obtain ⟨first, lower, width, j, check, within, upper, form⟩ :=
    exists_of_piecewise passes nonempty inRun onStep
  rw [together, Bool.and_eq_true, beq_iff_eq, beq_iff_eq] at check
  rw [upper, form]
  exact ⟨CodeRange.covers_of_uniform? ascending check.1 (by omega) (by omega),
    CodeRange.covers_of_uniform? ascending check.2 (by omega) (by omega)⟩

theorem covers_of_carries (passes : run.piecewise (carries table) = true)
    (covered : CodeRange.covers table (run.first + k) = true) :
    CodeRange.covers table (run.lower + k) = true := by
  obtain ⟨first, lower, width, j, check, within, upper, form⟩ :=
    exists_of_piecewise passes nonempty inRun onStep
  rw [carries, Bool.or_eq_true, beq_iff_eq, beq_iff_eq] at check
  rw [upper] at covered
  rw [form]
  rcases check with none | all
  · rw [CodeRange.covers_of_uniform? ascending none (by omega) (by omega)] at covered
    cases covered
  · exact CodeRange.covers_of_uniform? ascending all (by omega) (by omega)

end Member

end CaseRun

theorem caseRuns_cased :
    caseRuns.all (CaseRun.piecewise (CaseRun.together casedRanges true)) = true := by
  decide +kernel

theorem caseRuns_notIgnorable :
    caseRuns.all (CaseRun.piecewise (CaseRun.together caseIgnorableRanges false)) = true := by
  decide +kernel

theorem caseRuns_letters :
    caseRuns.all (CaseRun.piecewise (CaseRun.carries letterRanges)) = true := by
  decide +kernel

/-! ## Characters -/

/-- The dot above that the dotted capital I leaves behind. -/
def dotAbove : Char := Char.ofNat 0x307

theorem lowerChar_dotted : lowerChar 'İ' = ['i', dotAbove] := rfl

/-- **The lower-case form of a character** is one character of the same kind,
except for the dotted capital I. -/
theorem exists_lowerChar {c : Char} (notDotted : c ≠ 'İ') :
    ∃ l, lowerChar c = [l] ∧ isCased l = isCased c ∧ isCaseIgnorable l = isCaseIgnorable c ∧
      (isLetter c = true → isLetter l = true) := by
  have code : c.toNat ≠ 0x130 := fun same => notDotted (Char.toNat_inj.1 same)
  refine ⟨Char.ofNat (CaseRun.lowerCode caseRuns c.toNat), by rw [lowerChar, if_neg code], ?_⟩
  rcases CaseRun.lowerCode_cases caseRuns c.toNat with
    same | ⟨run, member, k, inRun, onStep, place, nonempty, moved⟩
  · rw [same, Char.ofNat_toNat]
    exact ⟨rfl, rfl, id⟩
  · have cased := CaseRun.covers_of_together casedRanges_ascending nonempty inRun onStep
      (List.all_eq_true.1 caseRuns_cased run member)
    have ignorable := CaseRun.covers_of_together caseIgnorableRanges_ascending nonempty inRun
      onStep (List.all_eq_true.1 caseRuns_notIgnorable run member)
    have letter := CaseRun.covers_of_carries letterRanges_ascending nonempty inRun onStep
      (List.all_eq_true.1 caseRuns_letters run member)
    obtain ⟨_, _, besideSurrogates⟩ := caseRuns_within run member
    have form : (Char.ofNat (run.lower + k)).toNat = run.lower + k := by
      refine toNat_ofNat ?_
      unfold Nat.isValidChar
      omega
    unfold isCased isCaseIgnorable isLetter
    rw [moved, form, place, cased.1, cased.2, ignorable.1, ignorable.2]
    exact ⟨rfl, rfl, letter⟩

theorem lowerChar_of_isDigit {c : Char} (digit : isDigit c = true) : lowerChar c = [c] := by
  have bounds := isDigit_iff.1 digit
  have same : CaseRun.lowerCode caseRuns c.toNat = c.toNat := by
    unfold caseRuns CaseRun.lowerCode
    rw [if_pos (by simp only; omega)]
  rw [lowerChar, if_neg (by omega), same, Char.ofNat_toNat]

/-! ## Characters within a text -/

/-- The lower-case form of a character between `before` and `after`. -/
def formWithin (before : Text) (c : Char) (after : Text) : Text :=
  if c = 'Σ' then [if isFinalSigma before after then 'ς' else 'σ'] else lowerChar c

theorem foldAfter_cons (before : Text) (c : Char) (rest : Text) :
    foldAfter before (c :: rest) = formWithin before c rest ++ foldAfter (c :: before) rest := rfl

theorem lowerChar_sigma : lowerChar 'Σ' = ['σ'] := by decide +kernel

theorem formWithin_eq_lowerChar {before : Text} {c : Char} {after : Text}
    (notFinal : c ≠ 'Σ' ∨ isFinalSigma before after = false) :
    formWithin before c after = lowerChar c := by
  unfold formWithin
  split
  · next sigma =>
    rw [sigma, lowerChar_sigma, notFinal.resolve_left (fun other => other sigma)]
    rfl
  · rfl

theorem isLetter_small_sigma (final : Bool) :
    isLetter (if final then 'ς' else 'σ') = true := by
  cases final <;> decide +kernel

/-- Within a name, letters have letters as their forms and digits stay. -/
theorem exists_formWithin {c : Char} (named : isNameChar c = true) (notDotted : c ≠ 'İ')
    (before after : Text) : ∃ l, formWithin before c after = [l] ∧ isNameChar l = true ∧
      (isLetter c = true → isLetter l = true) := by
  unfold formWithin
  split
  · have letter := isLetter_small_sigma (isFinalSigma before after)
    exact ⟨_, rfl, isNameChar_of_isLetter letter, fun _ => letter⟩
  · rcases Bool.or_eq_true_iff.1 named with letter | digit
    · obtain ⟨l, form, _, _, keeps⟩ := exists_lowerChar notDotted
      exact ⟨l, form, isNameChar_of_isLetter (keeps letter), keeps⟩
    · exact ⟨c, lowerChar_of_isDigit digit, named, id⟩

end LineBasic
