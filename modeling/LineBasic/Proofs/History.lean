import LineBasic.Proofs.Recognition
import Mathlib.Data.List.Dedup
import Mathlib.Data.List.Induction

/-!
# The store as a record of assignments

Lines are executed one after another, beginning with the empty store, and the
outcome of each is kept. The store is then no more and no less than the record
of these outcomes, in which the last assignment to a name counts:

* **step** — an assignment puts one entry into the store, under a name that is
  its own lower case already; every other outcome leaves the store alone
  (`History.step_of_assigned`, `History.step_of_other`, `fold_of_assigned`);
* **run** — hence an entry stands in the store exactly if its value was the
  last one to be assigned to its name (`recorded_history`,
  **`history_last_writer_wins`**).
-/

namespace LineBasic

/-! ## Entries -/

namespace Store

theorem find?_eq_some_iff {entries : List (Text × Float)}
    (ascending : entries.Pairwise (fun a b => a.1 < b.1)) {k : Text} {v : Float} :
    find? k entries = some v ↔ (k, v) ∈ entries := by
  induction entries with
  | nil => simp [find?]
  | cons head rest ih =>
    obtain ⟨other, value⟩ := head
    obtain ⟨beyond, restAscending⟩ := List.pairwise_cons.1 ascending
    rw [find?, List.mem_cons, ← ih restAscending]
    by_cases same : other = k
    · subst same
      rw [if_pos rfl]
      refine ⟨?_, ?_⟩
      · intro found
        exact .inl (by rw [Option.some.inj found])
      · rintro (here | later)
        · rw [(Prod.mk.inj here).2]
        · -- the name stands in front of all later ones, so it is none of them
          have member := (ih restAscending).1 later
          exact absurd (beyond _ member) (List.lt_irrefl _)
    · rw [if_neg same]
      refine ⟨?_, ?_⟩
      · exact .inr
      · rintro (here | later)
        · exact absurd (Prod.mk.inj here).1.symm same
        · exact later

/-- Asking for a name finds the entry of its lower case. -/
theorem get?_eq_some_iff {store : Store} {name : Text} {v : Float} :
    store.get? name = some v ↔ (fold name, v) ∈ store.entries :=
  find?_eq_some_iff store.ascending

theorem mem_assign_iff {store : Store} {name k : Text} (lower : fold name = name) {v w : Float} :
    (k, w) ∈ (store.assign name v).entries ↔
      (k = name ∧ w = v) ∨ (k ≠ name ∧ (k, w) ∈ store.entries) := by
  rw [← find?_eq_some_iff (store.assign name v).ascending, ← find?_eq_some_iff store.ascending]
  show find? k (put (fold name) v store.entries) = some w ↔ _
  rw [lower]
  by_cases same : k = name
  · subst same
    rw [find?_put]
    simp [eq_comm]
  · rw [find?_put_of_ne (Ne.symm same)]
    simp [same]

/-- No name has two entries. -/
theorem nodup_names (store : Store) : (store.entries.map Prod.fst).Nodup := by
  apply List.Pairwise.map _ _ store.ascending
  intro a b before same
  rw [same] at before
  exact List.lt_irrefl _ before

end Store

/-! ## One line -/

/-- What an outcome makes of a store. -/
def Store.after (store : Store) : Except LineError Effect → Store
  | .error _ => store
  | .ok effect => effect.update store

/-- A line changes the store by its outcome and in no other way. -/
theorem store_execute (store : Store) (line : Text) :
    (execute store line).store = store.after (execute store line).outcome := by
  rw [execute, executeWithin_eq]
  cases Statement.read store.isSet nestingLimit line with
  | error rejection => rfl
  | ok pair => rfl

/-- Names are assigned in lower case. -/
theorem fold_of_assigned {store : Store} {line k : Text} {v : Float}
    (done : (execute store line).outcome = .ok (.assigned k v)) : fold k = k := by
  obtain ⟨statement, _, means⟩ := accepted_of_outcome done
  cases means with
  | assign => exact fold_fold _

theorem after_eq_self {store : Store} {outcome : Except LineError Effect}
    (other : ∀ k v, outcome ≠ .ok (.assigned k v)) : store.after outcome = store := by
  cases outcome with
  | error error => rfl
  | ok effect =>
    cases effect with
    | printed text => rfl
    | assigned k v => exact absurd rfl (other k v)

/-! ## Many lines -/

/-- What became of lines so far: their outcomes in order, and the store. -/
structure History where
  outcomes : List (Except LineError Effect)
  store : Store

/-- A history with one line more. -/
def History.step (past : History) (line : Text) : History :=
  let execution := execute past.store line
  ⟨past.outcomes ++ [execution.outcome], execution.store⟩

/-- Lines executed one after another, beginning with the empty store. -/
def history (lines : List Text) : History := lines.foldl History.step ⟨[], .empty⟩

theorem history_append_singleton (lines : List Text) (line : Text) :
    history (lines ++ [line]) = (history lines).step line := List.foldl_concat ..

/-- Among these outcomes, the last assignment to `k` gave it the value `v`. -/
def LastAssigned (outcomes : List (Except LineError Effect)) (k : Text) (v : Float) : Prop :=
  ∃ before after, outcomes = before ++ .ok (.assigned k v) :: after ∧
    ∀ w, .ok (.assigned k w) ∉ after

/-- The name that an outcome assigns. -/
def assignedName? : Except LineError Effect → Option Text
  | .ok (.assigned name _) => some name
  | .ok (.printed _) => none
  | .error _ => none

/-- The names that are assigned, each as often as it is. -/
def assignedNames (outcomes : List (Except LineError Effect)) : List Text :=
  outcomes.filterMap assignedName?

theorem assignedName?_eq_some_iff {outcome : Except LineError Effect} {k : Text} :
    assignedName? outcome = some k ↔ ∃ v, outcome = .ok (.assigned k v) := by
  cases outcome with
  | error error => simp [assignedName?]
  | ok effect => cases effect <;> simp [assignedName?]

theorem not_lastAssigned_nil {k : Text} {v : Float} : ¬ LastAssigned [] k v := by
  rintro ⟨before, after, whole, _⟩
  simp at whole

/-- The last outcome decides if it assigns the name, and is passed over if not. -/
theorem lastAssigned_append_singleton {outcomes : List (Except LineError Effect)}
    {last : Except LineError Effect} {k : Text} {v : Float} :
    LastAssigned (outcomes ++ [last]) k v ↔
      last = .ok (.assigned k v) ∨
        (∀ w, last ≠ .ok (.assigned k w)) ∧ LastAssigned outcomes k v := by
  refine ⟨?_, ?_⟩
  · rintro ⟨before, after, whole, none_later⟩
    rcases List.eq_nil_or_concat after with rfl | ⟨front, final, rfl⟩
    · exact .inl (List.cons.inj (List.append_inj' whole rfl).2).1
    · rw [List.concat_eq_append] at whole none_later
      rw [← List.cons_append, ← List.append_assoc] at whole
      obtain ⟨rfl, same⟩ := List.append_inj' whole rfl
      obtain rfl := (List.cons.inj same).1
      refine .inr ⟨?_, before, front, rfl, ?_⟩
      · rintro w rfl
        exact none_later w (List.mem_append_right _ List.mem_cons_self)
      · intro w member
        exact none_later w (List.mem_append_left _ member)
  · rintro (rfl | ⟨other, before, after, rfl, none_later⟩)
    · exact ⟨outcomes, [], rfl, fun w member => by cases member⟩
    · refine ⟨before, after ++ [last], by simp, ?_⟩
      intro w member
      rcases List.mem_append.1 member with earlier | final
      · exact none_later w earlier
      · exact other w (List.mem_singleton.1 final).symm

/-- A name has a last assignment exactly if it is assigned at all. -/
theorem mem_assignedNames_iff {outcomes : List (Except LineError Effect)} {k : Text} :
    k ∈ assignedNames outcomes ↔ ∃ v, LastAssigned outcomes k v := by
  induction outcomes using List.reverseRecOn with
  | nil => simp [assignedNames, not_lastAssigned_nil]
  | append_singleton outcomes last ih =>
    have split : k ∈ assignedNames (outcomes ++ [last]) ↔
        k ∈ assignedNames outcomes ∨ assignedName? last = some k := by
      simp [assignedNames, List.filterMap_append, eq_comm]
    rw [split, ih, assignedName?_eq_some_iff]
    simp only [lastAssigned_append_singleton]
    refine ⟨?_, ?_⟩
    · rintro (⟨v, earlier⟩ | ⟨v, now⟩)
      · -- the last outcome may assign the name again, with another value
        by_cases again : ∃ w, last = .ok (.assigned k w)
        · obtain ⟨w, now⟩ := again
          exact ⟨w, .inl now⟩
        · exact ⟨v, .inr ⟨fun w now => again ⟨w, now⟩, earlier⟩⟩
      · exact ⟨v, .inl now⟩
    · rintro ⟨v, now | ⟨_, earlier⟩⟩
      · exact .inr ⟨v, now⟩
      · exact .inl ⟨v, earlier⟩

/-! ## The invariant -/

/-- The store holds the last value of every name, under names in lower case. -/
structure Recorded (past : History) : Prop where
  holds : ∀ k v, (k, v) ∈ past.store.entries ↔ LastAssigned past.outcomes k v
  lower : ∀ k v, (k, v) ∈ past.store.entries → fold k = k

/-- A line that assigns adds one assignment to the history. -/
theorem History.step_of_assigned {past : History} {line name : Text} {value : Float}
    (done : (execute past.store line).outcome = .ok (.assigned name value)) :
    past.step line =
      ⟨past.outcomes ++ [.ok (.assigned name value)], past.store.assign name value⟩ := by
  unfold step
  simp only [store_execute, done]
  rfl

/-- A line that does not assign adds its outcome and nothing else. -/
theorem History.step_of_other {past : History} {line : Text}
    (other : ∀ k v, (execute past.store line).outcome ≠ .ok (.assigned k v)) :
    past.step line =
      ⟨past.outcomes ++ [(execute past.store line).outcome], past.store⟩ := by
  unfold step
  simp only [store_execute, after_eq_self other]

theorem Recorded.step {past : History} (recorded : Recorded past) (line : Text) :
    Recorded (past.step line) := by
  by_cases assigns : ∃ k v, (execute past.store line).outcome = .ok (.assigned k v)
  · obtain ⟨name, value, done⟩ := assigns
    have lower := fold_of_assigned done
    rw [History.step_of_assigned done]
    refine ⟨?_, ?_⟩
    · intro k v
      rw [Store.mem_assign_iff lower, lastAssigned_append_singleton, recorded.holds]
      simp [eq_comm]
    · intro k v member
      rw [Store.mem_assign_iff lower] at member
      rcases member with ⟨rfl, _⟩ | ⟨_, earlier⟩
      · exact lower
      · exact recorded.lower k v earlier
  · have other : ∀ k v, (execute past.store line).outcome ≠ .ok (.assigned k v) := by
      intro k v done
      exact assigns ⟨k, v, done⟩
    rw [History.step_of_other other]
    refine ⟨?_, recorded.lower⟩
    intro k v
    -- the new outcome is no assignment, so the last one is where it was
    rw [lastAssigned_append_singleton, recorded.holds]
    simp [other]

theorem recorded_history (lines : List Text) : Recorded (history lines) := by
  induction lines using List.reverseRecOn with
  | nil =>
    refine ⟨?_, ?_⟩
    · intro k v
      show (k, v) ∈ [] ↔ LastAssigned [] k v
      simp [not_lastAssigned_nil]
    · intro k v member
      cases member
  | append_singleton lines line ih =>
    rw [history_append_singleton]
    exact ih.step line

theorem Recorded.size {past : History} (recorded : Recorded past) :
    past.store.size = (assignedNames past.outcomes).dedup.length := by
  have same : ∀ k, k ∈ past.store.entries.map Prod.fst ↔
      k ∈ (assignedNames past.outcomes).dedup := by
    intro k
    rw [List.mem_dedup, mem_assignedNames_iff, List.mem_map]
    simp only [← recorded.holds]
    refine ⟨?_, ?_⟩
    · rintro ⟨⟨_, v⟩, member, rfl⟩
      exact ⟨v, member⟩
    · rintro ⟨v, member⟩
      exact ⟨(k, v), member, rfl⟩
  have perm := (List.perm_ext_iff_of_nodup past.store.nodup_names (List.nodup_dedup _)).2 same
  rw [← perm.length_eq, List.length_map]
  rfl

/-- **The last writer wins, over every run.** After any lines, an entry stands
in the store exactly if the last assignment to its name gave it its value. A
line that is rejected or prints changes nothing. Names are in lower case, there
are as many entries as names assigned, and asking for any spelling of a name
gives its last value. -/
theorem history_last_writer_wins (lines : List Text) :
    (∀ k v, (k, v) ∈ (history lines).store.entries ↔
      LastAssigned (history lines).outcomes k v) ∧
    (∀ line, (∀ k v, (execute (history lines).store line).outcome ≠ .ok (.assigned k v)) →
      (history (lines ++ [line])).store = (history lines).store) ∧
    (∀ k v, (k, v) ∈ (history lines).store.entries → fold k = k) ∧
    (history lines).store.size = (assignedNames (history lines).outcomes).dedup.length ∧
    ∀ name v, (history lines).store.get? name = some v ↔
      LastAssigned (history lines).outcomes (fold name) v := by
  have recorded := recorded_history lines
  refine ⟨recorded.holds, ?_, recorded.lower, recorded.size, ?_⟩
  · intro line other
    rw [history_append_singleton, History.step_of_other other]
  · intro name v
    rw [Store.get?_eq_some_iff]
    exact recorded.holds (fold name) v

end LineBasic
