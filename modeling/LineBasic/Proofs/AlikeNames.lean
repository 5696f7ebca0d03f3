import LineBasic.Proofs.LetterForms
import LineBasic.Proofs.ShortLines

/-!
# Names that are alike letter by letter

Two names are alike if their letters have the same lower-case forms, each on its
own. They are then one variable, unless a capital sigma at the end of a word
faces a small one: that sigma folds to its final form, and the other does not
(`SigmaClash`).

* **one letter** — alike letters are of one kind, so sigmas in alike texts are
  final together (`isFinalSigma_congr`);
* **one name** — alike names fold to the same name exactly if no sigmas clash
  (**`fold_eq_iff`**);
* **the store** — then a value given to one is printed for the other, and both
  have one entry: **`alike_names_share_unless_sigmas_clash`**.
-/

namespace LineBasic

/-- Two characters have the same lower-case form, each on its own. -/
def Alike (c d : Char) : Prop := lowerChar c = lowerChar d

/-- Of two characters at one place of two texts just one is a capital sigma, and
it is final there. The first text goes on from `before`, which is given nearest
character first. -/
inductive SigmaClash : (before a b : Text) → Prop
  | here {before c a d b} : (c = 'Σ' ↔ d ≠ 'Σ') → isFinalSigma before a = true →
      SigmaClash before (c :: a) (d :: b)
  | later {before c a d b} : SigmaClash (c :: before) a b → SigmaClash before (c :: a) (d :: b)

/-! ## Letters -/

/-- Only the dotted capital I has a form of two characters. -/
theorem Alike.dotted_iff {c d : Char} (alike : Alike c d) : c = 'İ' ↔ d = 'İ' := by
  have single {c d : Char} (alike : Alike c d) (dotted : c = 'İ') : d = 'İ' := by
    by_contra notDotted
    obtain ⟨l, form, _⟩ := exists_lowerChar notDotted
    rw [Alike, dotted, form, lowerChar_dotted] at alike
    cases alike
  exact ⟨single alike, single alike.symm⟩

theorem Alike.kind {c d : Char} (alike : Alike c d) :
    isCased c = isCased d ∧ isCaseIgnorable c = isCaseIgnorable d := by
  by_cases dotted : c = 'İ'
  · rw [dotted, alike.dotted_iff.mp dotted]
    exact ⟨rfl, rfl⟩
  · obtain ⟨l, form, cased, ignorable, _⟩ := exists_lowerChar dotted
    obtain ⟨l', form', cased', ignorable', _⟩ :=
      exists_lowerChar (c := d) fun same => dotted (alike.dotted_iff.mpr same)
    rw [Alike, form, form'] at alike
    obtain rfl := List.singleton_inj.mp alike
    exact ⟨cased.symm.trans cased', ignorable.symm.trans ignorable'⟩

theorem meetsCased_congr {a b : Text} (alike : List.Forall₂ Alike a b) :
    meetsCased a = meetsCased b := by
  induction alike with
  | nil => rfl
  | @cons c d a b first _ ih =>
    obtain ⟨cased, ignorable⟩ := first.kind
    unfold meetsCased at ih ⊢
    rw [List.dropWhile_cons, List.dropWhile_cons, ← ignorable]
    cases isCaseIgnorable c with
    | true => exact ih
    | false => exact cased

/-- Sigmas in alike texts are final together. -/
theorem isFinalSigma_congr {before before' a b : Text}
    (alikeBefore : List.Forall₂ Alike before before') (alike : List.Forall₂ Alike a b) :
    isFinalSigma before a = isFinalSigma before' b := by
  rw [isFinalSigma, isFinalSigma, meetsCased_congr alikeBefore, meetsCased_congr alike]

/-! ## Names -/

section Forms

variable {before before' a b : Text} {c d : Char} (first : Alike c d)
  (alikeBefore : List.Forall₂ Alike before before') (alike : List.Forall₂ Alike a b)

include first

theorem length_formWithin : (formWithin before c a).length = (formWithin before' d b).length := by
  have length (before : Text) (c : Char) (after : Text) :
      (formWithin before c after).length = (lowerChar c).length := by
    unfold formWithin
    split
    · next sigma =>
      rw [sigma, lowerChar_sigma]
      rfl
    · rfl
  rw [length, length, first]

include alikeBefore alike

/-- Alike characters in alike texts have the same form, unless just one of them is
a final capital sigma. -/
theorem formWithin_eq_iff : formWithin before c a = formWithin before' d b ↔
    ¬ ((c = 'Σ' ↔ d ≠ 'Σ') ∧ isFinalSigma before a = true) := by
  have together := isFinalSigma_congr alikeBefore alike
  by_cases final : isFinalSigma before a = true
  · have final' : isFinalSigma before' b = true := together.symm.trans final
    by_cases sigma : c = 'Σ'
    · by_cases sigma' : d = 'Σ'
      · simp [formWithin, sigma, sigma', final, final']
      · have form : lowerChar d = ['σ'] := by rw [← first, sigma, lowerChar_sigma]
        simp [formWithin, sigma, sigma', final, form]
    · by_cases sigma' : d = 'Σ'
      · have form : lowerChar c = ['σ'] := by rw [first, sigma', lowerChar_sigma]
        simp [formWithin, sigma, sigma', final, final', form]
      · rw [formWithin, formWithin, if_neg sigma, if_neg sigma', first]
        simp [sigma, sigma']
  · have notFinal : isFinalSigma before a = false := Bool.eq_false_iff.mpr final
    rw [formWithin_eq_lowerChar (.inr notFinal),
      formWithin_eq_lowerChar (.inr (together.symm.trans notFinal)), first]
    simp [notFinal]

end Forms

theorem foldAfter_eq_iff {before before' a b : Text}
    (alikeBefore : List.Forall₂ Alike before before') (alike : List.Forall₂ Alike a b) :
    foldAfter before a = foldAfter before' b ↔ ¬ SigmaClash before a b := by
  induction alike generalizing before before' with
  | nil =>
    refine iff_of_true rfl ?_
    intro clash
    cases clash
  | @cons c d a b first rest ih =>
    have same := formWithin_eq_iff first alikeBefore rest
    have others := ih (.cons first alikeBefore)
    have lengths : (formWithin before c a).length = (formWithin before' d b).length :=
      length_formWithin first
    rw [foldAfter_cons, foldAfter_cons]
    constructor
    · intro whole clash
      obtain ⟨here, later⟩ := List.append_inj whole lengths
      cases clash with
      | here differ final => exact same.mp here ⟨differ, final⟩
      | later clash => exact others.mp later clash
    · intro noClash
      rw [same.mpr fun clash => noClash (.here clash.1 clash.2),
        others.mpr fun clash => noClash (.later clash)]

/-- **Alike names are one name, unless sigmas clash.** -/
theorem fold_eq_iff {a b : Text} (alike : List.Forall₂ Alike a b) :
    fold a = fold b ↔ ¬ SigmaClash [] a b :=
  foldAfter_eq_iff .nil alike

/-! ## Variables -/

/-- Two names have one entry together at most. -/
def Store.OneEntry (store : Store) (a b : Text) : Prop :=
  ∀ entry ∈ store.entries, ∀ other ∈ store.entries,
    (entry.1 = fold a ∨ entry.1 = fold b) → (other.1 = fold a ∨ other.1 = fold b) → entry = other

theorem Store.eq_of_mem_entries {store : Store} {k : Text} {v w : Float}
    (member : (k, v) ∈ store.entries) (member' : (k, w) ∈ store.entries) : v = w := by
  rw [← find?_eq_some_iff store.ascending] at member member'
  exact Option.some.inj (member.symm.trans member')

theorem Store.oneEntry_of_fold_eq {a b : Text} (same : fold a = fold b) (store : Store) :
    store.OneEntry a b := by
  rintro ⟨k, v⟩ member ⟨k', w⟩ member' isName isName'
  rw [← same, or_self] at isName isName'
  obtain rfl : k = fold a := isName
  obtain rfl : k' = fold a := isName'
  rw [eq_of_mem_entries member member']

/-- Names that fold apart can have two entries. -/
theorem Store.not_oneEntry_of_fold_ne {a b : Text} (apart : fold a ≠ fold b) (store : Store)
    (x : Float) : ¬ ((store.assign a x).assign b x).OneEntry a b := by
  intro one
  have second : ((store.assign a x).assign b x).get? b = some x := get?_assign rfl _ _
  have first : ((store.assign a x).assign b x).get? a = some x := by
    rw [get?_assign_of_ne apart.symm]
    exact get?_assign rfl _ _
  rw [get?_eq_some_iff] at first second
  have same := one _ first _ second (.inl rfl) (.inr rfl)
  exact apart (Prod.mk.inj same).1

/-- Names that fold alike print each other's value. -/
theorem outcome_printLine_of_fold_eq {a b : Text} (isName' : IsName b) (same : fold a = fold b)
    {store : Store} {source : Text} {x : Float}
    (stored : (execute store (letLine a source)).outcome = .ok (.assigned (fold a) x)) :
    (execute (execute store (letLine a source)).store (printLine b)).outcome =
      .ok (.printed (displayNumber x)) := by
  have found : (execute store (letLine a source)).store.get? b = some x := by
    rw [store_execute, stored]
    exact Store.get?_assign (by rw [fold_fold, same]) store x
  exact outcome_printLine_name _ isName' found

/-- Of names that fold apart the second stays without a value. -/
theorem outcome_printLine_of_fold_ne {a b digits : Text} (isName : IsName a)
    (isName' : IsName b) (apart : fold a ≠ fold b) (isNumber : IsNumber digits)
    (effect : Effect) :
    (execute (execute .empty (letLine a digits)).store (printLine b)).outcome ≠ .ok effect := by
  intro done
  have isSet := isSet_of_printLine _ isName' done
  rw [store_letLine .empty isName isNumber, Store.isSet, Store.get?_assign_of_ne apart] at isSet
  cases isSet

/-- **Alike names share a variable exactly if no sigmas clash.** Then whatever a
line gives to the first is printed for the second; a first value is printed for
the second in no other case, and two entries are there in no other case. -/
theorem alike_names_share_unless_sigmas_clash {a b : Text} (isName : IsName a)
    (isName' : IsName b) (alike : List.Forall₂ Alike a b) :
    (¬ SigmaClash [] a b → ∀ (store : Store) (source : Text) (x : Float),
      (execute store (letLine a source)).outcome = .ok (.assigned (fold a) x) →
      (execute (execute store (letLine a source)).store (printLine b)).outcome =
        .ok (.printed (displayNumber x))) ∧
    (¬ SigmaClash [] a b ↔ ∀ store, (execute store (letLine a ['1'])).outcome =
        .ok (.assigned (fold a) (literalValue ['1'])) ∧
      (execute (execute store (letLine a ['1'])).store (printLine b)).outcome =
        .ok (.printed ['1'])) ∧
    (¬ SigmaClash [] a b ↔ ∀ store : Store, store.OneEntry a b) := by
  have one : IsNumber ['1'] := ⟨'1', [], rfl, by decide, by simp⟩
  have text : displayNumber (literalValue ['1']) = ['1'] := by decide +kernel
  rw [← fold_eq_iff alike]
  refine ⟨?_, ⟨?_, ?_⟩, ⟨?_, ?_⟩⟩
  · intro same store source x stored
    exact outcome_printLine_of_fold_eq isName' same stored
  · intro same store
    have stored := outcome_letLine store isName one
    refine ⟨stored, ?_⟩
    rw [outcome_printLine_of_fold_eq isName' same stored, text]
  · intro printed
    by_contra apart
    exact outcome_printLine_of_fold_ne isName isName' apart one _ (printed .empty).2
  · exact Store.oneEntry_of_fold_eq
  · intro shared
    by_contra apart
    exact Store.not_oneEntry_of_fold_ne apart .empty 1 (shared _)

/-- Sigmas of either case within the names, and a capital one at the end of both. -/
theorem alike_names_share_with_inner_sigma :
    (execute .empty (letLine ['Σ', 'Α', 'Σ'] ['1'])).outcome =
        .ok (.assigned ['σ', 'α', 'ς'] (literalValue ['1'])) ∧
      (execute (execute .empty (letLine ['Σ', 'Α', 'Σ'] ['1'])).store
        (printLine ['σ', 'α', 'Σ'])).outcome = .ok (.printed ['1']) := by
  have isName : IsName ['Σ', 'Α', 'Σ'] :=
    ⟨'Σ', ['Α', 'Σ'], rfl, by decide +kernel, List.all_eq_true.mp (by decide +kernel)⟩
  have isName' : IsName ['σ', 'α', 'Σ'] :=
    ⟨'σ', ['α', 'Σ'], rfl, by decide +kernel, List.all_eq_true.mp (by decide +kernel)⟩
  have sigma : Alike 'Σ' 'σ' := by rw [Alike]; decide +kernel
  have alpha : Alike 'Α' 'α' := by rw [Alike]; decide +kernel
  have noClash : ¬ SigmaClash [] ['Σ', 'Α', 'Σ'] ['σ', 'α', 'Σ'] := by
    intro clash
    rcases clash with ⟨_, final⟩ | ⟨⟨differ, _⟩ | ⟨⟨differ, _⟩ | later⟩⟩
    · exact absurd final (by decide +kernel)
    · exact absurd differ (by decide)
    · exact absurd differ (by decide)
    · cases later
  have lower : fold ['Σ', 'Α', 'Σ'] = ['σ', 'α', 'ς'] := by decide +kernel
  have shared := (alike_names_share_unless_sigmas_clash isName isName'
    (.cons sigma (.cons alpha (.cons rfl .nil)))).2.1.mp noClash
  rw [lower] at shared
  exact shared .empty

/-- A capital sigma at the end of a name, and a small one there. -/
theorem final_sigmas_keep_names_apart :
    IsName ['Α', 'Σ'] ∧ IsName ['α', 'σ'] ∧ List.Forall₂ Alike ['Α', 'Σ'] ['α', 'σ'] ∧
      (execute .empty (letLine ['Α', 'Σ'] ['1'])).outcome =
        .ok (.assigned ['α', 'ς'] (literalValue ['1'])) ∧
      (execute (execute .empty (letLine ['Α', 'Σ'] ['1'])).store
        (printLine ['α', 'σ'])).outcome = .error (.at (.variableNotFound ['α', 'σ']) ⟨6, 10⟩) := by
  refine ⟨⟨'Α', ['Σ'], rfl, by decide +kernel, List.all_eq_true.mp (by decide +kernel)⟩,
    ⟨'α', ['σ'], rfl, by decide +kernel, List.all_eq_true.mp (by decide +kernel)⟩, ?_, ?_, ?_⟩
  · have sigma : Alike 'Σ' 'σ' := by rw [Alike]; decide +kernel
    have alpha : Alike 'Α' 'α' := by rw [Alike]; decide +kernel
    exact .cons alpha (.cons sigma .nil)
  · decide +kernel
  · decide +kernel

end LineBasic
