import LineBasic.Proofs.LetterForms
import LineBasic.Proofs.Placement
import LineBasic.Proofs.ShortLines

/-!
# Names in lower case as variable names

The names in a store and in an error about a missing variable are in lower case.
They are names of the language again, and of the same variable, unless the
spelling had a dotted capital I: its dot is a combining mark, which no line can
have outside quotes.

* **names** — folding a name gives a name, if no dot is left behind
  (`isName_fold_iff`);
* **lines** — what stands outside quotes is part of a word, white space or
  punctuation (`DerivesLine.ordinary`), so a dot is rejected
  (`not_accepted_of_dotAbove`);
* **missing variables** — only a variable without a value is missing, and the
  help of the error names it (`ReadsLine.grounded`);
* **runs** — every entry of a store was assigned under a name
  (`exists_spelling_of_entry`).

Main result: **`folded_names_usable_unless_dotted`**.
-/

namespace LineBasic

/-! ## Folding a name -/

theorem isNameChar_dotAbove : isNameChar dotAbove = false := by decide +kernel

theorem mem_foldAfter_of_name {before t : Text} (named : ∀ c ∈ t, isNameChar c = true) :
    (∀ c ∈ foldAfter before t, isNameChar c = true ∨ c = dotAbove) ∧
      (dotAbove ∈ foldAfter before t ↔ 'İ' ∈ t) := by
  induction t generalizing before with
  | nil => simp [foldAfter]
  | cons c t ih =>
    have rest : ∀ d ∈ t, isNameChar d = true := fun d member =>
      named d (List.mem_cons_of_mem c member)
    obtain ⟨chars, dot⟩ := @ih (c :: before) rest
    rw [foldAfter_cons, List.forall_mem_append, List.mem_append, List.mem_cons, dot]
    by_cases dotted : c = 'İ'
    · have form : formWithin before c t = ['i', dotAbove] := by rw [dotted]; rfl
      have letter : isNameChar 'i' = true := by decide +kernel
      rw [form]
      refine ⟨⟨by simp [letter], chars⟩, by simp [dotted]⟩
    · obtain ⟨l, form, named', _⟩ := exists_formWithin (named c List.mem_cons_self) dotted before t
      have other : dotAbove ≠ l := by
        rintro rfl
        rw [isNameChar_dotAbove] at named'
        cases named'
      rw [form]
      exact ⟨⟨by simp [named'], chars⟩, by simp [other, Ne.symm dotted]⟩

section Name

variable {word : Text} (isName : IsName word)

include isName

theorem mem_fold_of_name {c : Char} (member : c ∈ fold word) :
    isNameChar c = true ∨ c = dotAbove :=
  (mem_foldAfter_of_name (isName.all fun _ => isNameChar_of_isLetter)).1 c member

/-- A dotted capital I, and nothing else, leaves a dot behind. -/
theorem dotAbove_mem_fold_iff : dotAbove ∈ fold word ↔ 'İ' ∈ word :=
  (mem_foldAfter_of_name (isName.all fun _ => isNameChar_of_isLetter)).2

/-- **A name in lower case is a name**, unless a dot is left behind. -/
theorem isName_fold_iff : IsName (fold word) ↔ dotAbove ∉ fold word := by
  constructor
  · intro isName' member
    have named := isName'.all (fun _ => isNameChar_of_isLetter) dotAbove member
    rw [isNameChar_dotAbove] at named
    cases named
  · intro noDot
    have chars : ∀ c ∈ fold word, isNameChar c = true := by
      intro c member
      rcases mem_fold_of_name isName member with named | rfl
      · exact named
      · exact absurd member noDot
    have notDotted : 'İ' ∉ word := fun member => noDot ((dotAbove_mem_fold_iff isName).mpr member)
    obtain ⟨initial, tail, rfl, letter, _⟩ := isName
    obtain ⟨l, form, _, keeps⟩ := exists_formWithin (isNameChar_of_isLetter letter)
      (fun same => notDotted (same ▸ List.mem_cons_self)) [] tail
    have whole : fold (initial :: tail) = l :: foldAfter [initial] tail := by
      rw [fold, foldAfter_cons, form]
      rfl
    rw [whole] at chars ⊢
    exact ⟨l, _, rfl, keeps letter, fun c member => chars c (List.mem_cons_of_mem l member)⟩

end Name

/-! ## Characters outside quotes -/

/-- A character of a word, white space or punctuation. -/
def Ordinary (c : Char) : Prop := isNameChar c = true ∨ isGap c = true ∨ c ∈ punctuation

theorem not_ordinary_dotAbove : ¬ Ordinary dotAbove := by
  have gap : isGap dotAbove = false := by decide +kernel
  rintro (named | white | mark)
  · rw [isNameChar_dotAbove] at named
    cases named
  · rw [gap] at white
    cases white
  · exact absurd mark (by decide)

/-- The text `s` up to `t` has ordinary characters only. -/
def OrdinaryTo (s t : Text) : Prop := ∃ front, (∀ c ∈ front, Ordinary c) ∧ s = front ++ t

namespace OrdinaryTo

variable {s t u : Text}

theorem refl (t : Text) : OrdinaryTo t t := ⟨[], by simp, rfl⟩

theorem trans (first : OrdinaryTo s t) (rest : OrdinaryTo t u) : OrdinaryTo s u := by
  obtain ⟨front, all, rfl⟩ := first
  obtain ⟨behind, all', rfl⟩ := rest
  exact ⟨front ++ behind, List.forall_mem_append.mpr ⟨all, all'⟩, (List.append_assoc ..).symm⟩

theorem of_gap (gap : Gap s t) : OrdinaryTo s t := by
  obtain ⟨front, white, rfl⟩ := gap
  exact ⟨front, fun c member => .inr (.inl (white c member)), rfl⟩

theorem of_punctuation {c : Char} (mark : c ∈ punctuation) (t : Text) : OrdinaryTo (c :: t) t :=
  ⟨[c], by simpa using .inr (.inr mark), rfl⟩

theorem of_word {first more : Char → Bool} {word : Text} (isWord : IsWord first more word)
    (narrower : ∀ c, first c = true → more c = true)
    (named : ∀ c, more c = true → isNameChar c = true) (t : Text) : OrdinaryTo (word ++ t) t :=
  ⟨word, fun c member => .inl (named c (isWord.all narrower c member)), rfl⟩

theorem mem (leads : OrdinaryTo s t) {c : Char} (member : c ∈ t) : c ∈ s := by
  obtain ⟨front, _, rfl⟩ := leads
  exact List.mem_append_right front member

theorem all (leads : OrdinaryTo s t) (rest : ∀ c ∈ t, Ordinary c) : ∀ c ∈ s, Ordinary c := by
  obtain ⟨front, all, rfl⟩ := leads
  exact List.forall_mem_append.mpr ⟨all, rest⟩

end OrdinaryTo

open OrdinaryTo

theorem Derives.ordinary {category : Category} {s t : Text} {e : Expr}
    (derived : Derives category s e t) : OrdinaryTo s t := by
  induction derived with
  | number isNumber => exact of_word isNumber (fun _ => id) (fun _ => isNameChar_of_isDigit) _
  | name isName => exact of_word isName (fun _ => isNameChar_of_isLetter) (fun _ => id) _
  | @group s inner e after t gap _ closing ih =>
    have opened : OrdinaryTo ('(' :: s) inner := (of_punctuation (by decide) s).trans (of_gap gap)
    have closed : OrdinaryTo after t := (of_gap closing).trans (of_punctuation (by decide) t)
    exact (opened.trans ih).trans closed
  | operands _ _ ihFirst ihChain => exact ihFirst.trans ihChain
  | done => exact refl _
  | @operation _ _ operator _ _ _ _ _ _ _ _ gap gapRight _ _ ihRight ihChain =>
    have sign := (of_gap gap).trans (of_punctuation operator.symbol_mem _)
    exact ((sign.trans (of_gap gapRight)).trans ihRight).trans ihChain

theorem DerivesItem.ordinary {s t : Text} {item : Item} (derived : DerivesItem s item t)
    (noQuote : '"' ∉ s) : OrdinaryTo s t := by
  cases derived with
  | string _ => exact absurd List.mem_cons_self noQuote
  | expr sum => exact sum.ordinary

theorem DerivesItems.ordinary {s : Text} {items : List Item} (derived : DerivesItems s items)
    (noQuote : '"' ∉ s) : OrdinaryTo s [] := by
  induction derived with
  | last first ends => exact (first.ordinary noQuote).trans (of_gap ends)
  | more first gap behind _ ih =>
    have comma := (of_gap gap).trans (of_punctuation (by decide) _)
    have leads := ((first.ordinary noQuote).trans comma).trans (of_gap behind)
    exact leads.trans (ih fun quote => noQuote (leads.mem quote))

theorem Keyword.ordinary {line word rest : Text} (keyword : Keyword line word rest) :
    OrdinaryTo line rest := by
  obtain ⟨letters, gap, isWord, _, _⟩ := keyword
  exact (of_gap gap).trans (of_word isWord (fun _ => id) (fun _ => isNameChar_of_isLetter) _)

/-- **A line without quotes** is made of words, white space and punctuation. -/
theorem DerivesLine.ordinary {line : Text} {statement : Statement}
    (derived : DerivesLine line statement) (noQuote : '"' ∉ line) :
    ∀ c ∈ line, Ordinary c := by
  refine OrdinaryTo.all (t := []) ?_ (by simp)
  cases derived with
  | assign keyword gap isName equals behind sum ends =>
    have target := (keyword.ordinary.trans (of_gap gap)).trans
      (of_word isName (fun _ => isNameChar_of_isLetter) (fun _ => id) _)
    have sign := ((of_gap equals).trans (of_punctuation (by decide) _)).trans (of_gap behind)
    exact ((target.trans sign).trans sum.ordinary).trans (of_gap ends)
  | bare keyword ends => exact keyword.ordinary.trans (of_gap ends)
  | print keyword gap items =>
    have front := keyword.ordinary.trans (of_gap gap)
    exact front.trans (items.ordinary fun quote => noQuote (front.mem quote))

/-- No line takes effect that has the dot and no quotes. -/
theorem not_accepted_of_dotAbove {line : Text} (dot : dotAbove ∈ line) (noQuote : '"' ∉ line)
    (store : Store) (effect : Effect) : (execute store line).outcome ≠ .ok effect := by
  intro done
  obtain ⟨statement, accepted, _⟩ := accepted_of_outcome done
  exact not_ordinary_dotAbove (accepted.spelled.ordinary noQuote dotAbove dot)

theorem quote_not_mem_fold {word : Text} (isName : IsName word) : '"' ∉ fold word := by
  intro member
  rcases mem_fold_of_name isName member with named | dot
  · exact ne_quote_of_isNameChar named rfl
  · exact absurd dot (by decide)

/-! ## Missing variables -/

/-- An error has the help that goes with its cause, and a variable that it misses
is not in scope. -/
structure Grounded (scope : Scope) (error : LineError) : Prop where
  help : error.help = error.cause.help?
  unset : ∀ name, error.cause = .variableNotFound name → scope name = false

theorem grounded_at {scope : Scope} {cause : Cause} {span : Span}
    (other : ∀ name, cause ≠ .variableNotFound name) : Grounded scope (.at cause span) :=
  ⟨rfl, fun name same => absurd same (other name)⟩

section Grounded

variable {scope : Scope} {limit : Nat}

theorem Reads.grounded {category : Category} {n : Nat} {c : Cursor} {outcome : Outcome Expr}
    (read : Reads scope limit category n c outcome) :
    ∀ rejection, outcome = .error rejection → Grounded scope rejection.error := by
  induction read with
  | unbound _ unset =>
    rintro _ ⟨⟩
    refine ⟨rfl, fun name same => ?_⟩
    cases same
    exact unset
  | tooDeep | unclosed | absent =>
    rintro _ ⟨⟩
    exact grounded_at (by simp)
  | groupFails _ _ ih | firstFails _ ih | operandFails _ _ ih => exact ih
  | first _ _ _ ih | more _ _ _ _ _ ih => exact ih
  | number | bound | group | done =>
    intro _ same
    cases same

theorem ReadsItem.grounded {c : Cursor} {outcome : Outcome Item}
    (read : ReadsItem scope limit c outcome) :
    ∀ rejection, outcome = .error rejection → Grounded scope rejection.error := by
  rintro rejection rfl
  cases read with
  | unterminated found =>
    obtain ⟨_, _, _, rfl⟩ := Cursor.scanString_eq_error_iff.1 found
    exact grounded_at (by simp)
  | exprFails _ body => exact body.grounded rejection rfl

theorem ReadsItems.grounded {c : Cursor} {outcome : Outcome (List Item)}
    (read : ReadsItems scope limit c outcome) :
    ∀ rejection, outcome = .error rejection → Grounded scope rejection.error := by
  induction read with
  | firstFails first =>
    rintro rejection ⟨⟩
    exact first.grounded _ rfl
  | restFails _ _ _ ih => exact ih
  | last | more =>
    intro _ same
    cases same

theorem grounded_closed {statement : Statement} {c : Cursor} {rejection : Rejection}
    (fails : Statement.closed statement c = .error rejection) :
    Grounded scope rejection.error := by
  obtain ⟨_, rfl⟩ := Statement.closed_eq_error_iff.1 fails
  exact grounded_at (by simp)

/-- Every error of a line is grounded. -/
theorem ReadsLine.grounded {line : Text} {rejection : Rejection}
    (read : ReadsLine scope limit line (.error rejection)) : Grounded scope rejection.error := by
  cases read with
  | noKeyword => exact grounded_at (by simp)
  | unknown => exact grounded_at (by simp)
  | assign _ _ rest =>
    cases rest with
    | noVariable | noEquals => exact grounded_at (by simp)
    | sourceFails _ _ body => exact body.grounded rejection rfl
    | source _ _ _ fails => exact grounded_closed fails
  | print _ _ rest =>
    cases rest with
    | itemsFail _ items => exact items.grounded rejection rfl
    | items _ _ fails => exact grounded_closed fails

theorem grounded_of_outcome {store : Store} {line : Text} {error : LineError}
    (failed : (execute store line).outcome = .error error) : Grounded store.isSet error := by
  obtain ⟨_, read⟩ := outcome_eq_error_iff.1 failed
  exact read.grounded

end Grounded

/-! ## Names in stores and errors -/

/-- A name that a line assigns is spelled in the line. -/
theorem exists_spelling_of_assigned {store : Store} {line name : Text} {x : Float}
    (done : (execute store line).outcome = .ok (.assigned name x)) :
    ∃ word, IsName word ∧ fold word = name := by
  obtain ⟨statement, accepted, means⟩ := accepted_of_outcome done
  cases means with
  | @assign word _ _ _ =>
    cases accepted.spelled with
    | assign _ _ isName => exact ⟨word, isName, rfl⟩

/-- A name that an error misses is spelled in the line. -/
theorem exists_spelling_of_missing {store : Store} {line name : Text} {error : LineError}
    (failed : (execute store line).outcome = .error error)
    (missing : error.cause = .variableNotFound name) : ∃ word, IsName word ∧ fold word = name := by
  obtain ⟨_, word, _, _, _, _, blames⟩ := error_points_at_cause failed
  rw [missing] at blames
  exact ⟨word, blames.2.1, blames.2.2.2⟩

/-- Every entry was assigned under a name. -/
theorem exists_spelling_of_entry {lines : List Text} {name : Text} {x : Float}
    (member : (name, x) ∈ (history lines).store.entries) :
    ∃ word, IsName word ∧ fold word = name := by
  induction lines using List.reverseRecOn generalizing name x with
  | nil => cases member
  | append_singleton lines line ih =>
    rw [history_append_singleton] at member
    by_cases assigns : ∃ k v, (execute (history lines).store line).outcome = .ok (.assigned k v)
    · obtain ⟨k, v, done⟩ := assigns
      rw [History.step_of_assigned done, Store.mem_assign_iff (fold_of_assigned done)] at member
      rcases member with ⟨rfl, _⟩ | ⟨_, earlier⟩
      · exact exists_spelling_of_assigned done
      · exact ih earlier
    · rw [History.step_of_other fun k v done => assigns ⟨k, v, done⟩] at member
      exact ih member

theorem fold_of_spelling {name word : Text} (folds : fold word = name) : fold name = name := by
  rw [← folds, fold_fold]

section Usable

variable {name word : Text} (isName : IsName word) (folds : fold word = name)

include isName folds

theorem isName_of_noDot (noDot : dotAbove ∉ name) : IsName name := by
  rw [← folds] at noDot ⊢
  exact (isName_fold_iff isName).mpr noDot

/-- A dot in a name is rejected wherever the name stands alone. -/
theorem rejected_of_dotAbove (dot : dotAbove ∈ name) (store : Store) (effect : Effect) :
    (execute store (printLine name)).outcome ≠ .ok effect ∧
      (execute store (letLine name ['1'])).outcome ≠ .ok effect := by
  have noQuote : '"' ∉ name := folds ▸ quote_not_mem_fold isName
  refine ⟨not_accepted_of_dotAbove ?_ ?_ store effect, not_accepted_of_dotAbove ?_ ?_ store effect⟩
  · exact List.mem_append_right _ dot
  · exact List.not_mem_append (by decide) noQuote
  · exact List.mem_append_right _ (List.mem_append_left _ dot)
  · exact List.not_mem_append (by decide)
      (List.not_mem_append noQuote (List.not_mem_append (by decide) (by decide)))

end Usable

/-- **Names in lower case can be used as variable names**, unless their spelling
had a dotted capital I. Every name in a store that lines can lead to prints its
value then; every name that an error misses can be assigned as its help says, and
is not missed by the same line any more. With the dot neither line is accepted. -/
theorem folded_names_usable_unless_dotted (lines : List Text) :
    (∀ name value, (name, value) ∈ (history lines).store.entries →
      (∃ word, IsName word ∧ fold word = name ∧ (dotAbove ∈ name ↔ 'İ' ∈ word)) ∧
      (dotAbove ∉ name → (execute (history lines).store (printLine name)).outcome =
        .ok (.printed (displayNumber value))) ∧
      (dotAbove ∈ name → ∀ effect,
        (execute (history lines).store (printLine name)).outcome ≠ .ok effect)) ∧
    ∀ line error name, (execute (history lines).store line).outcome = .error error →
      error.cause = .variableNotFound name →
      (∃ word, IsName word ∧ fold word = name ∧ (dotAbove ∈ name ↔ 'İ' ∈ word)) ∧
      error.help = some ("Assign it first: LET " ++ String.ofList name ++ " = ...") ∧
      (dotAbove ∉ name →
        (execute (history lines).store (letLine name ['1'])).outcome =
          .ok (.assigned name (literalValue ['1'])) ∧
        ∀ other, (execute (execute (history lines).store (letLine name ['1'])).store line).outcome =
          .error other → other.cause ≠ .variableNotFound name) ∧
      (dotAbove ∈ name → ∀ effect,
        (execute (history lines).store (letLine name ['1'])).outcome ≠ .ok effect) := by
  have one : IsNumber ['1'] := ⟨'1', [], rfl, by decide, by simp⟩
  refine ⟨?_, ?_⟩
  · intro name value member
    obtain ⟨word, isName, folds⟩ := exists_spelling_of_entry member
    have lower := fold_of_spelling folds
    refine ⟨⟨word, isName, folds, folds ▸ dotAbove_mem_fold_iff isName⟩, ?_, ?_⟩
    · intro noDot
      refine outcome_printLine_name _ (isName_of_noDot isName folds noDot) ?_
      rw [Store.get?_eq_some_iff, lower]
      exact member
    · intro dot effect
      exact (rejected_of_dotAbove isName folds dot _ effect).1
  · intro line error name failed missing
    obtain ⟨word, isName, folds⟩ := exists_spelling_of_missing failed missing
    have lower := fold_of_spelling folds
    have help := (grounded_of_outcome failed).help
    rw [missing] at help
    refine ⟨⟨word, isName, folds, folds ▸ dotAbove_mem_fold_iff isName⟩, help, ?_, ?_⟩
    · intro noDot
      have isName' := isName_of_noDot isName folds noDot
      have stored := outcome_letLine (history lines).store isName' one
      rw [lower] at stored
      refine ⟨stored, fun other failed' missing' => ?_⟩
      have unset := (grounded_of_outcome failed').unset name missing'
      rw [store_letLine _ isName' one, Store.isSet, Store.get?_assign rfl] at unset
      cases unset
    · intro dot effect
      exact (rejected_of_dotAbove isName folds dot _ effect).2

/-- A name that ends in a final sigma, and a variable that is missing. -/
theorem folded_names_usable_with_final_sigma :
    (execute (history [letLine ['Ο', 'Σ'] ['1']]).store (printLine ['ο', 'ς'])).outcome =
        .ok (.printed ['1']) ∧
      (execute (history [letLine ['Ο', 'Σ'] ['1']]).store (letLine ['α'] ['1'])).outcome =
        .ok (.assigned ['α'] (literalValue ['1'])) := by
  have entries : (history [letLine ['Ο', 'Σ'] ['1']]).store.entries =
      [(['ο', 'ς'], literalValue ['1'])] := by decide +kernel
  have failed : (execute (history [letLine ['Ο', 'Σ'] ['1']]).store (printLine ['Α'])).outcome =
      .error (.at (.variableNotFound ['α']) ⟨6, 8⟩) := by decide +kernel
  have text : displayNumber (literalValue ['1']) = ['1'] := by decide +kernel
  obtain ⟨usable, assignable⟩ := folded_names_usable_unless_dotted [letLine ['Ο', 'Σ'] ['1']]
  have printed := (usable _ _ (entries ▸ List.mem_singleton_self _)).2.1 (by decide)
  rw [text] at printed
  exact ⟨printed, ((assignable _ _ _ failed rfl).2.2.1 (by decide)).1⟩

/-- The name of a dotted capital I stands in a store, and in the help of an error,
and can be neither printed nor assigned. -/
theorem dotted_name_unusable :
    (history [letLine ['İ'] ['1']]).store.entries = [(['i', dotAbove], literalValue ['1'])] ∧
      (execute (history [letLine ['İ'] ['1']]).store (printLine ['i', dotAbove])).outcome =
        .error (.at (.variableNotFound ['i']) ⟨6, 7⟩) ∧
      (execute (history []).store (printLine ['İ'])).outcome =
        .error ⟨.variableNotFound ['i', dotAbove], ⟨6, 8⟩,
          some ("Assign it first: LET " ++ String.ofList ['i', dotAbove] ++ " = ...")⟩ ∧
      (execute (history []).store (letLine ['i', dotAbove] ['1'])).outcome =
        .error (.at .equalsExpected (.single 5)) := by
  refine ⟨?_, ?_, ?_, ?_⟩ <;> decide +kernel

end LineBasic
