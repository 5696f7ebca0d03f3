import LineBasic.Unicode.LowerCase

/-!
# The variables of a program

A store gives values to names. Names are folded to lower case on every access,
so spellings that differ only in case share one value. Entries are kept in the
order of their names by code point, each name once. Main statements: an
assignment is seen under every spelling of its name (`get?_assign`), and it
leaves all other names alone (`get?_assign_of_ne`).
-/

namespace LineBasic

/-- Names with their values, ascending by name. -/
structure Store where
  entries : List (Text × Float)
  ascending : entries.Pairwise (fun a b => a.1 < b.1)

namespace Store

/-- The store of a program that has assigned nothing yet. -/
def empty : Store := ⟨[], .nil⟩

/-! ## Entries in order -/

/-- The value beside a name. -/
def find? (name : Text) : List (Text × Float) → Option Float
  | [] => none
  | (other, value) :: rest => if other = name then some value else find? name rest

/-- Puts a name with its value into its place, instead of an older value. -/
def put (name : Text) (value : Float) : List (Text × Float) → List (Text × Float)
  | [] => [(name, value)]
  | (other, old) :: rest =>
    if other = name then (name, value) :: rest
    else if name < other then (name, value) :: (other, old) :: rest
    else (other, old) :: put name value rest

theorem mem_put {name : Text} {value : Float} {entries : List (Text × Float)}
    {entry : Text × Float} (member : entry ∈ put name value entries) :
    entry = (name, value) ∨ entry ∈ entries := by
  induction entries with
  | nil => simpa [put] using member
  | cons head rest ih =>
    simp only [put] at member
    split at member
    · rcases List.mem_cons.1 member with rfl | old
      · exact Or.inl rfl
      · exact Or.inr (List.mem_cons_of_mem _ old)
    · split at member
      · exact (List.mem_cons.1 member)
      · rcases List.mem_cons.1 member with rfl | later
        · exact Or.inr List.mem_cons_self
        · exact (ih later).imp_right (List.mem_cons_of_mem _)

theorem put_ascending (name : Text) (value : Float) {entries : List (Text × Float)}
    (ascending : entries.Pairwise (fun a b => a.1 < b.1)) :
    (put name value entries).Pairwise (fun a b => a.1 < b.1) := by
  induction entries with
  | nil => simp [put]
  | cons head rest ih =>
    obtain ⟨other, old⟩ := head
    obtain ⟨beyond, restAscending⟩ := List.pairwise_cons.1 ascending
    simp only [put]
    split
    · next same =>
      subst same
      exact List.pairwise_cons.2 ⟨beyond, restAscending⟩
    · next different =>
      split
      · next before =>
        refine List.pairwise_cons.2 ⟨?_, ascending⟩
        intro entry member
        rcases List.mem_cons.1 member with rfl | later
        · exact before
        · exact List.lt_trans before (beyond entry later)
      · next notBefore =>
        -- names are totally ordered, so the new one comes after `other`
        have after : other < name := by
          rcases List.le_total other name with le | le
          · exact Decidable.byContradiction fun notAfter =>
              different (List.le_antisymm le notAfter)
          · exact absurd (List.le_antisymm notBefore le) different
        refine List.pairwise_cons.2 ⟨?_, ih restAscending⟩
        intro entry member
        rcases mem_put member with rfl | later
        · exact after
        · exact beyond entry later

theorem find?_put (name : Text) (value : Float) (entries : List (Text × Float)) :
    find? name (put name value entries) = some value := by
  induction entries with
  | nil => simp [put, find?]
  | cons head rest ih =>
    simp only [put]
    split
    · simp [find?]
    · split
      · simp [find?]
      · next different _ => simp [find?, different, ih]

theorem find?_put_of_ne {name other : Text} (different : name ≠ other) (value : Float)
    (entries : List (Text × Float)) :
    find? other (put name value entries) = find? other entries := by
  induction entries with
  | nil => simp [put, find?, different]
  | cons head rest ih =>
    obtain ⟨key, old⟩ := head
    simp only [put]
    split
    · next same => simp [find?, same, different]
    · split
      · simp [find?, different]
      · simp [find?, ih]

/-! ## Access by name -/

/-- The value of a variable. -/
def get? (store : Store) (name : Text) : Option Float := find? (fold name) store.entries

/-- Whether a variable has a value. -/
def isSet (store : Store) (name : Text) : Bool := (store.get? name).isSome

/-- Gives a variable a value. -/
def assign (store : Store) (name : Text) (value : Float) : Store :=
  ⟨put (fold name) value store.entries, put_ascending _ _ store.ascending⟩

/-- The number of variables that have a value. -/
def size (store : Store) : Nat := store.entries.length

/-- Whether no variable has a value. -/
def isEmpty (store : Store) : Bool := store.entries.isEmpty

theorem get?_assign {name other : Text} (same : fold name = fold other) (store : Store)
    (value : Float) : (store.assign name value).get? other = some value := by
  rw [get?, assign, ← same]
  exact find?_put _ _ _

theorem get?_assign_of_ne {name other : Text} (different : fold name ≠ fold other)
    (store : Store) (value : Float) :
    (store.assign name value).get? other = store.get? other :=
  find?_put_of_ne different _ _

end Store

end LineBasic
