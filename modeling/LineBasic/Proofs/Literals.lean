import LineBasic.Proofs.ShortLines

/-!
# Number literals

A literal is a run of digits of any length. Its value is the double nearest to
the number that it spells (`Double.roundsTo_literalValue`), which only zeros in front do
not change. What a line stores for a literal is therefore exact for small
numbers, infinite for large ones, and never less for a greater number:
**`letLine_stores_nearest_double`**.
-/

namespace LineBasic

open Double

/-- **A literal stores the nearest double**, however long it is. The line is
accepted in every store; the double has no sign, is exact up to `2 ^ 53` and
infinite exactly from `2 ^ 1024 - 2 ^ 970` on, and a literal of a greater number
never stores less. -/
theorem letLine_stores_nearest_double (store : Store) {name digits : Text}
    (isName : IsName name) (isNumber : IsNumber digits) :
    ∃ x, (execute store (letLine name digits)).outcome = .ok (.assigned (fold name) x) ∧
      (execute store (letLine name digits)).store.get? name = some x ∧
      (∃ rank ≤ infinityBits, ofFloat x = ranked false rank) ∧
      RoundsTo (digitsValue digits) (ofFloat x) ∧
      (digitsValue digits ≤ 2 ^ 53 → (ofFloat x).value = digitsValue digits) ∧
      (ofFloat x = .infinite false ↔ 2 ^ 1024 - 2 ^ 970 ≤ digitsValue digits) ∧
      ∀ (other : Store) (greater : Text) (y : Float), IsNumber greater →
        digitsValue digits ≤ digitsValue greater →
        (execute other (letLine name greater)).outcome = .ok (.assigned (fold name) y) →
        (ofFloat x).value ≤ (ofFloat y).value := by
  refine ⟨literalValue digits, outcome_letLine store isName isNumber, ?_, ?_,
    roundsTo_literalValue digits, ?_, ?_, ?_⟩
  · rw [store_letLine store isName isNumber]
    exact Store.get?_assign rfl store _
  · refine ⟨nearestBits (digitsValue digits), nearestBits_le _, ?_⟩
    rw [ofFloat_literalValue, nearestTo, ofBits_ofNat (nearestBits_le _)]
  · intro small
    rw [ofFloat_literalValue, value_nearestTo small]
  · rw [ofFloat_literalValue, nearestTo_eq_infinite_iff]
  · intro other greater y isNumber' le stored
    rw [outcome_letLine other isName isNumber'] at stored
    cases stored
    exact value_literalValue_mono le

/-- Halfway between two doubles, with zeros in front: `2 ^ 53 + 1` is stored as a
nearest double. -/
theorem letLine_stores_nearest_double_halfway :
    ∃ x, (execute .empty (letLine ['x'] "0009007199254740993".toList)).outcome =
        .ok (.assigned ['x'] x) ∧ RoundsTo 9007199254740993 (ofFloat x) := by
  have spelled : digitsValue "0009007199254740993".toList = 9007199254740993 := by decide +kernel
  have lower : fold ['x'] = ['x'] := by decide +kernel
  have isName : IsName ['x'] := ⟨'x', [], rfl, by decide +kernel, by simp⟩
  have isNumber : IsNumber "0009007199254740993".toList :=
    ⟨'0', _, rfl, by decide, List.all_eq_true.mp (by decide)⟩
  obtain ⟨x, stored, _, _, rounds, _⟩ := letLine_stores_nearest_double .empty isName isNumber
  rw [lower] at stored
  rw [spelled] at rounds
  exact ⟨x, stored, by exact_mod_cast rounds⟩

end LineBasic
