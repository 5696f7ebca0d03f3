import LineBasic.Proofs.Coverage
import LineBasic.Proofs.History
import Mathlib.Data.List.Forall2

/-!
# Stored values never decide

A line is evaluated as it is read, so every number is at hand where it is decided
how to go on. But evaluating takes the course of reading trees, which knows nothing
but the names that have values, and arithmetic gives every tree a value. So two
stores with the same names, whatever their values are, infinities and what is not a
number included, cannot be told apart by which lines are accepted, by the errors of
the others or by the tokens matched.

* **parts** — the number of an expression does not decide where the expression ends,
  or what it is rejected for (`Store.SameNames.course_expression`);
* **step** — one line keeps the names the same (`Store.SameNames.step`);
* **run** — hence so do any lines, call by call (`Store.SameNames.run`).

Main result: **`values_never_decide`**.
-/

namespace LineBasic

/-! ## Names of a store -/

namespace Store

/-- The names that have a value, in lower case. -/
def names (store : Store) : List Text := store.entries.map Prod.fst

/-- The same names have values in both stores. -/
def SameNames (store store' : Store) : Prop := ∀ name, name ∈ store.names ↔ name ∈ store'.names

theorem mem_names_iff {store : Store} {name : Text} :
    name ∈ store.names ↔ ∃ value, find? name store.entries = some value := by
  simp [names, find?_eq_some_iff store.ascending]

theorem isSet_iff {store : Store} {name : Text} :
    store.isSet name = true ↔ fold name ∈ store.names := by
  rw [mem_names_iff, isSet, Option.isSome_iff_exists]
  rfl

theorem mem_names_assign {store : Store} {name other : Text} {value : Float} :
    other ∈ (store.assign name value).names ↔ other = fold name ∨ other ∈ store.names := by
  rw [mem_names_iff, mem_names_iff]
  show (∃ found, find? other (put (fold name) value store.entries) = some found) ↔ _
  by_cases same : other = fold name
  · subst same
    rw [find?_put]
    simp
  · rw [find?_put_of_ne (Ne.symm same)]
    simp [same]

variable {store store' : Store}

/-- Stores with the same names are the same scope. -/
theorem SameNames.isSet_eq (same : store.SameNames store') : store'.isSet = store.isSet := by
  funext name
  rw [Bool.eq_iff_iff, isSet_iff, isSet_iff]
  exact (same (fold name)).symm

theorem SameNames.assign (same : store.SameNames store') (name : Text) (value value' : Float) :
    (store.assign name value).SameNames (store'.assign name value') := by
  intro other
  rw [mem_names_assign, mem_names_assign, same other]

end Store

/-! ## The course of evaluation -/

/-- A reading without its value: where it ends, or what is rejected. -/
def Reading.course {c : Cursor} {α : Type} (reading : Reading c α) : Reading c Unit :=
  reading.mapValue fun _ => ()

theorem Reading.course_mapValue {c : Cursor} {α β : Type} (f : α → β) (reading : Reading c α) :
    (reading.mapValue f).course = reading.course := by
  cases reading with
  | error rejection => rfl
  | ok phrase => rfl

/-- The numbers of two stores lead evaluation to the same place. -/
theorem Store.SameNames.course_expression {store store' : Store} (same : store.SameNames store')
    (limit allowance : Nat) (c : Cursor) :
    (Evaluator.expression store' limit allowance c).course =
      (Evaluator.expression store limit allowance c).course := by
  rw [Evaluator.expression_eq, Evaluator.expression_eq, same.isSet_eq]
  unfold Evaluator.numbers Rule.mapValue
  rw [Reading.course_mapValue, Reading.course_mapValue]

/-! ## Outcomes up to values -/

/-- The same error, or effects that differ in nothing but values and the texts
made of them. -/
inductive AlikeUpToValues : Except LineError Effect → Except LineError Effect → Prop
  | rejected {error} : AlikeUpToValues (.error error) (.error error)
  | printed {text text'} : AlikeUpToValues (.ok (.printed text)) (.ok (.printed text'))
  | assigned {name value value'} :
      AlikeUpToValues (.ok (.assigned name value)) (.ok (.assigned name value'))

/-- Executions that differ in nothing but values: alike in their outcomes, in
the tokens matched and in the names that have values afterwards. -/
structure Execution.Alike (execution execution' : Execution) : Prop where
  outcome : AlikeUpToValues execution.outcome execution'.outcome
  tokens : matchedTokens execution'.trace = matchedTokens execution.trace
  names : execution.store.SameNames execution'.store

/-- Lines executed one after another, each against the store that the one
before it left. -/
def executions (store : Store) : List Text → List Execution
  | [] => []
  | line :: later =>
    let execution := execute store line
    execution :: executions execution.store later

/-! ## Step and run -/

namespace Store.SameNames

variable {store store' : Store}

/-- **Step.** What a line does to two stores with the same names differs in
nothing but values. -/
theorem step (same : store.SameNames store') (line : Text) :
    (execute store line).Alike (execute store' line) := by
  have tokens : matchedTokens (execute store' line).trace =
      matchedTokens (execute store line).trace := by
    unfold execute
    rw [matchedTokens_execution, matchedTokens_execution, same.isSet_eq]
  unfold execute at tokens ⊢
  rw [executeWithin_eq, executeWithin_eq, same.isSet_eq] at tokens ⊢
  cases read : Statement.read store.isSet nestingLimit line with
  | error rejection => exact ⟨.rejected, rfl, same⟩
  | ok pair =>
    obtain ⟨statement, lineEnd⟩ := pair
    rw [read] at tokens
    cases statement with
    | assign name source => exact ⟨.assigned, tokens, same.assign name _ _⟩
    | print items => exact ⟨.printed, tokens, same⟩

/-- **Run.** So does what any lines do, call by call. -/
theorem run (same : store.SameNames store') (lines : List Text) :
    List.Forall₂ Execution.Alike (executions store lines) (executions store' lines) := by
  induction lines generalizing store store' with
  | nil => exact .nil
  | cons line later ih =>
    have alike := same.step line
    exact .cons alike (ih alike.names)

end Store.SameNames

/-- **Stored values never decide whether a line is accepted or which error it
gives**, neither one line nor any run of them. Arithmetic rejects nothing: a
line that is spelled and nested well and reads only names that have values
takes effect, whatever the values are. Nor does a number decide how evaluation goes
on within a line: every expression that begins at a place ends at the same place, or
is rejected there for the same. -/
theorem values_never_decide {store store' : Store} (same : store.SameNames store') :
    (∀ line, (execute store line).Alike (execute store' line)) ∧
    (∀ lines, List.Forall₂ Execution.Alike (executions store lines) (executions store' lines)) ∧
    (∀ line statement, Accepted store line statement →
      ∃ effect, (execute store' line).outcome = .ok effect) ∧
    ∀ limit allowance c, (Evaluator.expression store' limit allowance c).course =
      (Evaluator.expression store limit allowance c).course := by
  refine ⟨same.step, same.run, ?_, same.course_expression⟩
  intro line statement accepted
  have bound : store'.Binds statement.names := by
    intro word named
    rw [same.isSet_eq]
    exact accepted.bound word named
  have accepted' : Accepted store' line statement := ⟨accepted.spelled, accepted.nesting, bound⟩
  exact ⟨_, accepted'.outcome ((Statement.means_iff bound).2 rfl)⟩

/-- An infinity and a zero are divided by themselves and by each other alike. -/
theorem quotients_never_decide :
    (Store.empty.assign ['a'] (1 / 0)).SameNames (Store.empty.assign ['a'] 0) ∧
    List.Forall₂ Execution.Alike
      (executions (Store.empty.assign ['a'] (1 / 0))
        ["LET b = a / a".toList, "PRINT 1 / b, a / 0".toList, "PRINT a / c".toList])
      (executions (Store.empty.assign ['a'] 0)
        ["LET b = a / a".toList, "PRINT 1 / b, a / 0".toList, "PRINT a / c".toList]) := by
  have same : (Store.empty.assign ['a'] (1 / 0)).SameNames (Store.empty.assign ['a'] 0) :=
    fun _ => Iff.rfl
  exact ⟨same, (values_never_decide same).2.1 _⟩

end LineBasic
