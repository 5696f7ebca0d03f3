/-!
# Ranges of code points

A character class is a table of closed ranges of code points in ascending
order, so a search can stop at the first range that starts beyond the
character. Main statement: on an ascending table the search answers
membership in some range of the table (`CodeRange.covers_eq_true_iff`).
-/

namespace LineBasic

/-- A closed range of code points, by its first and last member. -/
abbrev CodeRange := Nat × Nat

namespace CodeRange

/-- Whether a table of ascending ranges holds `n`. -/
def covers : List CodeRange → Nat → Bool
  | [], _ => false
  | (first, last) :: rest, n =>
    if n < first then false else if n ≤ last then true else covers rest n

/-- The ranges start at `least` or later and follow one another without
overlap. -/
def AscendingFrom (least : Nat) : List CodeRange → Prop
  | [] => True
  | (first, last) :: rest => least ≤ first ∧ first ≤ last ∧ AscendingFrom (last + 1) rest

instance decidableAscendingFrom (least : Nat) :
    (table : List CodeRange) → Decidable (AscendingFrom least table)
  | [] => .isTrue trivial
  | (first, last) :: rest =>
    have := decidableAscendingFrom (last + 1) rest
    inferInstanceAs (Decidable (least ≤ first ∧ first ≤ last ∧ AscendingFrom (last + 1) rest))

theorem AscendingFrom.le_first {least : Nat} {table : List CodeRange}
    (ascending : AscendingFrom least table) {r : CodeRange} (member : r ∈ table) :
    least ≤ r.1 := by
  induction table generalizing least with
  | nil => cases member
  | cons head tail ih =>
    obtain ⟨above, nonempty, tailAscending⟩ := ascending
    rcases List.mem_cons.1 member with rfl | later
    · exact above
    · have := ih tailAscending later
      omega

theorem covers_eq_true_iff {least : Nat} {table : List CodeRange}
    (ascending : AscendingFrom least table) (n : Nat) :
    covers table n = true ↔ ∃ r ∈ table, r.1 ≤ n ∧ n ≤ r.2 := by
  induction table generalizing least with
  | nil => simp [covers]
  | cons head tail ih =>
    obtain ⟨first, last⟩ := head
    obtain ⟨_, _, tailAscending⟩ := ascending
    simp only [covers, List.mem_cons, exists_eq_or_imp]
    by_cases below : n < first
    · simp only [below, if_true, Bool.false_eq_true, false_iff, not_or, not_exists, not_and]
      -- every later range starts above `first`, hence above `n`
      exact ⟨by omega, fun r member lower => by have := tailAscending.le_first member; omega⟩
    · by_cases within : n ≤ last
      · simp only [below, if_false, within, if_true, true_iff]
        exact Or.inl ⟨by omega, trivial⟩
      · simp only [below, if_false, within, ih tailAscending]
        constructor
        · exact Or.inr
        · rintro (⟨_, inside⟩ | found)
          · exact inside.elim
          · exact found

end CodeRange

end LineBasic
