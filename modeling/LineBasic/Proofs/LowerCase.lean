import LineBasic.Unicode.LowerCase

/-!
# Folding twice is folding once

A name is folded where it is read and once more where the store is asked for
it. This does no harm: what folding produces is **settled**, it has no capital
sigma and every character of it is its own lower case (`settled_of_mem_fold`).
A settled text has no sigma whose form could depend on its neighbours, so it
folds to itself (`foldAfter_of_settled`, **`fold_fold`**).
-/

namespace LineBasic

/-! ## Tables of lower-case forms -/

namespace CaseRun

/-- A code point that a table moves is in a run of it. -/
theorem lowerCode_cases (runs : List CaseRun) (n : Nat) :
    lowerCode runs n = n ∨
      ∃ run ∈ runs, ∃ k, k ≤ run.last - run.first ∧ k % run.step = 0 ∧ n = run.first + k ∧
        run.first ≤ run.last ∧ lowerCode runs n = run.lower + k := by
  induction runs with
  | nil => exact .inl rfl
  | cons run rest ih =>
    unfold lowerCode
    split
    · exact .inl rfl
    · split
      · split
        · next _ _ onStep =>
          exact .inr ⟨run, List.mem_cons_self, n - run.first, by omega, onStep, by omega, by omega,
            rfl⟩
        · exact .inl rfl
      · rcases ih with same | ⟨other, member, moved⟩
        · exact .inl same
        · exact .inr ⟨other, List.mem_cons_of_mem _ member, moved⟩

/-- The lower-case forms of one run lie below another run, above it, or between
its members. -/
def apart (run other : CaseRun) : Bool :=
  Nat.blt (run.lower + (run.last - run.first)) other.first || Nat.blt other.last run.lower ||
    (other.step == 2 && (run.step == 2 || run.first == run.last) &&
      (run.lower + other.first) % 2 == 1)

theorem apart_iff {run other : CaseRun} : run.apart other = true ↔
    run.lower + (run.last - run.first) < other.first ∨ other.last < run.lower ∨
      other.step = 2 ∧ (run.step = 2 ∨ run.first = run.last) ∧
        (run.lower + other.first) % 2 = 1 := by
  unfold apart
  simp only [Bool.or_eq_true, Bool.and_eq_true, beq_iff_eq, Nat.blt_eq, or_assoc, and_assoc]

/-- A table does not move a lower-case form of a run that is apart from all of
it. -/
theorem lowerCode_of_apart {runs : List CaseRun} {run : CaseRun} (all : runs.all run.apart = true)
    {k : Nat} (inRun : k ≤ run.last - run.first) (onStep : k % run.step = 0) :
    lowerCode runs (run.lower + k) = run.lower + k := by
  rcases lowerCode_cases runs (run.lower + k) with
    same | ⟨other, member, j, inOther, onStep', place, _, _⟩
  · exact same
  · -- the run that moves it would go on where this run leads
    rcases apart_iff.1 (List.all_eq_true.1 all other member) with
      below | above | ⟨two, sparse, odd⟩
    · omega
    · omega
    · -- both runs take every second code point, from starts of different parity
      rw [two] at onStep'
      rcases sparse with two' | single
      · rw [two'] at onStep
        omega
      · omega

end CaseRun

/-- No run of the table goes on where another one leads. -/
theorem caseRuns_apart : caseRuns.all (fun run => caseRuns.all run.apart) = true := by
  decide +kernel

/-- The forms of a run are characters, and none of the two that the table is
not asked about. -/
theorem caseRuns_within : ∀ run ∈ caseRuns,
    (run.lower + (run.last - run.first) < 0x130 ∨ 0x130 < run.lower) ∧
      (run.lower + (run.last - run.first) < 0x3A3 ∨ 0x3A3 < run.lower) ∧
      (run.lower + (run.last - run.first) < 0xD800 ∨
        0xDFFF < run.lower ∧ run.lower + (run.last - run.first) < 0x110000) := by decide +kernel

/-! ## Settled characters -/

/-- The character is its own lower case wherever it stands. -/
def Settled (c : Char) : Prop := c ≠ 'Σ' ∧ lowerChar c = [c]

theorem toNat_ofNat {n : Nat} (valid : n.isValidChar) : (Char.ofNat n).toNat = n := by
  rw [Char.ofNat, dif_pos valid]
  exact UInt32.toNat_ofNatLT

theorem settled_ofNat {n : Nat} (valid : n.isValidChar) (notDotted : n ≠ 0x130)
    (notSigma : n ≠ 0x3A3) (fixed : CaseRun.lowerCode caseRuns n = n) : Settled (Char.ofNat n) := by
  have code := toNat_ofNat valid
  refine ⟨?_, ?_⟩
  · intro sigma
    rw [sigma] at code
    exact notSigma code.symm
  · rw [lowerChar, code, if_neg notDotted, fixed]

theorem settled_of_mem_lowerChar {c d : Char} (notSigma : c ≠ 'Σ') (member : d ∈ lowerChar c) :
    Settled d := by
  unfold lowerChar at member
  split at member
  · -- the dotted capital I becomes two characters
    rcases List.mem_cons.1 member with rfl | dot
    · exact settled_ofNat (by decide) (by decide) (by decide) (by decide +kernel)
    · rw [List.mem_singleton.1 dot]
      exact settled_ofNat (by decide) (by decide) (by decide) (by decide +kernel)
  · next notDotted =>
    -- a character that the table leaves alone, or the form that it leads to
    rw [List.mem_singleton.1 member]
    rcases CaseRun.lowerCode_cases caseRuns c.toNat with
      same | ⟨run, inTable, k, inRun, onStep, _, _, moved⟩
    · rw [same, Char.ofNat_toNat]
      refine ⟨notSigma, ?_⟩
      rw [lowerChar, if_neg notDotted, same, Char.ofNat_toNat]
    · obtain ⟨besideDotted, besideSigma, besideSurrogates⟩ := caseRuns_within run inTable
      have fixed := CaseRun.lowerCode_of_apart (List.all_eq_true.1 caseRuns_apart run inTable)
        inRun onStep
      have valid : (run.lower + k).isValidChar := by
        unfold Nat.isValidChar
        omega
      rw [moved]
      exact settled_ofNat valid (by omega) (by omega) fixed

/-- Both small forms of sigma are settled. -/
theorem settled_sigma (final : Bool) : Settled (if final then 'ς' else 'σ') := by
  cases final with
  | true => exact ⟨by decide, by decide +kernel⟩
  | false => exact ⟨by decide, by decide +kernel⟩

theorem settled_of_mem_foldAfter {before t : Text} {d : Char} (member : d ∈ foldAfter before t) :
    Settled d := by
  induction t generalizing before with
  | nil => cases member
  | cons c rest ih =>
    rcases List.mem_append.1 member with here | later
    · split at here
      · rw [List.mem_singleton.1 here]
        exact settled_sigma _
      · next notSigma => exact settled_of_mem_lowerChar notSigma here
    · exact ih later

theorem settled_of_mem_fold {t : Text} {d : Char} (member : d ∈ fold t) : Settled d :=
  settled_of_mem_foldAfter member

/-! ## Settled texts -/

theorem foldAfter_of_settled {t : Text} (settled : ∀ c ∈ t, Settled c) (before : Text) :
    foldAfter before t = t := by
  induction t generalizing before with
  | nil => rfl
  | cons c rest ih =>
    obtain ⟨notSigma, lower⟩ := settled c List.mem_cons_self
    have others := ih (fun d member => settled d (List.mem_cons_of_mem _ member)) (c :: before)
    rw [foldAfter, if_neg notSigma, lower, others]
    rfl

/-- **Folding twice is folding once.** -/
@[simp] theorem fold_fold (t : Text) : fold (fold t) = fold t :=
  foldAfter_of_settled (fun _ member => settled_of_mem_fold member) []

end LineBasic
