import LineBasic.Number.Display
import LineBasic.Proofs.DigitRuns
import LineBasic.Proofs.Rounding

/-!
# Decimal numerals

A numeral is a run of digits, which a point and more digits may follow, and then
perhaps an exponent with its sign. `decimalValue?` reads one, and `numeralValue?`
one with a minus sign before it. Digits in normal form, laid out in either
notation, are a numeral of their number (`decimalValue?_layOut`), and the digits
of that numeral are theirs, but for zeros at the ends
(`significantDigits_layOut`).
-/

namespace LineBasic

/-! ## Reading numerals -/

/-- The exponent behind the digits of a numeral: none, or `e`, a sign and
digits. -/
def exponentValue? : Text → Option Int
  | [] => some 0
  | 'e' :: '+' :: digits =>
    if digits ≠ [] ∧ digits.all isDigit then some (digitsValue digits) else none
  | 'e' :: '-' :: digits =>
    if digits ≠ [] ∧ digits.all isDigit then some (-digitsValue digits) else none
  | _ => none

/-- The number of a run of digits with an exponent. -/
def scaledValue (digits : Text) (e : Int) : ℚ := digitsValue digits * 10 ^ e

/-- The number of a numeral without a sign. -/
def decimalValue? (t : Text) : Option ℚ :=
  match t.takeWhile isDigit, t.dropWhile isDigit with
  | [], _ => none
  | whole, '.' :: rest =>
    match rest.takeWhile isDigit with
    | [] => none
    | fraction => (exponentValue? (rest.dropWhile isDigit)).map fun e =>
        scaledValue (whole ++ fraction) (e - fraction.length)
  | whole, rest => (exponentValue? rest).map (scaledValue whole)

/-- The number of a numeral. -/
def numeralValue? : Text → Option ℚ
  | '-' :: t => (decimalValue? t).map fun q => -q
  | t => decimalValue? t

/-- The digits of a numeral before its exponent. -/
def mantissaDigits (t : Text) : Text := (t.takeWhile (· != 'e')).filter isDigit

/-- These digits without the zeros at their ends. -/
def significantDigits (t : Text) : Text :=
  (((mantissaDigits t).dropWhile (· == '0')).reverse.dropWhile (· == '0')).reverse

section Reading

variable {whole fraction tail : Text} (digits : AllDigits whole) (some : whole ≠ [])
  (stops : Stops isDigit tail)

include digits some stops

theorem decimalValue?_whole (noPoint : ∀ rest, tail ≠ '.' :: rest) :
    decimalValue? (whole ++ tail) = (exponentValue? tail).map (scaledValue whole) := by
  unfold decimalValue?
  rw [takeWhile_of_stops digits stops, dropWhile_of_stops digits stops]
  split
  · exact absurd rfl some
  · exact absurd rfl (noPoint _)
  · rfl

theorem decimalValue?_point (digits' : AllDigits fraction) (some' : fraction ≠ []) :
    decimalValue? (whole ++ '.' :: (fraction ++ tail)) =
      (exponentValue? tail).map fun e =>
        scaledValue (whole ++ fraction) (e - fraction.length) := by
  have point : Stops isDigit ('.' :: (fraction ++ tail)) := stops_cons.mpr (by decide)
  unfold decimalValue?
  rw [takeWhile_of_stops digits point, dropWhile_of_stops digits point]
  split
  · exact absurd rfl some
  · next same =>
    cases same
    rw [takeWhile_of_stops digits' stops, dropWhile_of_stops digits' stops]
    split
    · exact absurd rfl some'
    · rfl
  · next noPoint => exact (noPoint _ rfl).elim

end Reading

theorem exponentValue?_signed (e : Int) :
    exponentValue? ('e' :: (if e < 0 then '-' else '+') :: Nat.toDigits 10 e.natAbs) = some e := by
  have digits : Nat.toDigits 10 e.natAbs ≠ [] ∧ (Nat.toDigits 10 e.natAbs).all isDigit = true :=
    ⟨Nat.toDigits_ne_nil, List.all_eq_true.mpr (allDigits_toDigits _)⟩
  by_cases negative : e < 0
  · rw [if_pos negative, exponentValue?, if_pos digits, digitsValue_toDigits]
    congr 1
    omega
  · rw [if_neg negative, exponentValue?, if_pos digits, digitsValue_toDigits]
    congr 1
    omega

theorem numeralValue?_signed (negative : Bool) {t : Text} {q : ℚ}
    (read : decimalValue? t = some q) :
    numeralValue? (signed negative t) = some (signFactor negative * q) := by
  cases negative with
  | true => simp [signed, numeralValue?, read, signFactor]
  | false =>
    have front : ∀ rest, t ≠ '-' :: rest := by
      rintro rest rfl
      simp [decimalValue?, isDigit] at read
    unfold numeralValue?
    simp [signed, read, signFactor]

/-! ## Digits of numerals -/

theorem mantissaDigits_append {t : Text} (digits : AllDigits t) (u : Text) :
    mantissaDigits (t ++ u) = t ++ mantissaDigits u := by
  have before : ∀ c ∈ t, (c != 'e') = true := by
    intro c member
    have := digits c member
    rw [bne_iff_ne]
    rintro rfl
    exact absurd this (by decide)
  rw [mantissaDigits, List.takeWhile_append_of_pos before, List.filter_append,
    List.filter_eq_self.mpr digits]
  rfl

theorem mantissaDigits_point (u : Text) : mantissaDigits ('.' :: u) = mantissaDigits u := by
  simp [mantissaDigits, isDigit]

theorem mantissaDigits_minus (u : Text) : mantissaDigits ('-' :: u) = mantissaDigits u := by
  simp [mantissaDigits, isDigit]

theorem mantissaDigits_exponent (u : Text) : mantissaDigits ('e' :: u) = [] := by
  simp [mantissaDigits]

theorem mantissaDigits_of_digits {t : Text} (digits : AllDigits t) : mantissaDigits t = t := by
  have := mantissaDigits_append digits []
  simpa [mantissaDigits] using this

theorem significantDigits_signed (negative : Bool) (t : Text) :
    significantDigits (signed negative t) = significantDigits t := by
  cases negative with
  | false => rfl
  | true => rw [significantDigits, signed, if_pos rfl, mantissaDigits_minus, significantDigits]

/-! ## Both notations -/

namespace DecimalDigits

theorem value_eq (d : DecimalDigits) :
    d.value = scaledValue d.digits (d.point - d.digits.length) := rfl

theorem scaledValue_zeros (digits : Text) (count : Nat) (e : Int) :
    scaledValue (digits ++ List.replicate count '0') e = scaledValue digits (e + count) := by
  rw [scaledValue, scaledValue, digitsValue_append, digitsValue_zeros, List.length_replicate,
    zpow_add₀ (by norm_num), zpow_natCast]
  push_cast
  ring

theorem zeros_scaledValue (digits : Text) (count : Nat) (e : Int) :
    scaledValue (List.replicate count '0' ++ digits) e = scaledValue digits e := by
  rw [scaledValue, scaledValue, digitsValue_append, digitsValue_zeros, zero_mul, zero_add]

section

variable {d : DecimalDigits} (normal : d.Normal)

include normal

theorem decimalValue?_positional : decimalValue? d.positional = some d.value := by
  have some := normal.length_pos
  have nonempty : d.digits ≠ [] := List.length_pos_iff.mp some
  have whole {t : Text} (digits : AllDigits t) (some : t ≠ []) :
      decimalValue? t = (exponentValue? []).map (scaledValue t) := by
    have := decimalValue?_whole digits some (stops_nil isDigit) (by simp)
    rwa [List.append_nil] at this
  unfold positional
  simp only
  split
  · next large =>
    rw [whole (allDigits_append.mpr ⟨normal.digits, allDigits_zeros _⟩) (by simp [nonempty])]
    simp only [exponentValue?, Option.map_some, scaledValue_zeros, value_eq]
    congr 2
    omega
  · next large =>
    split
    · next inside =>
      have parts := normal.digits.take_drop d.point.toNat
      have left : d.digits.take d.point.toNat ≠ [] := by
        simp [nonempty]
        omega
      have right : d.digits.drop d.point.toNat ≠ [] := by
        simp
        omega
      have read := decimalValue?_point parts.1 left (stops_nil isDigit) parts.2 right
      rw [List.append_nil] at read
      rw [read, List.take_append_drop]
      simp only [exponentValue?, Option.map_some, value_eq, List.length_drop]
      congr 2
      omega
    · next inside =>
      have zero : AllDigits ['0'] := allDigits_zeros 1
      have read := decimalValue?_point zero (by simp) (stops_nil isDigit)
        (allDigits_append.mpr ⟨allDigits_zeros (-d.point).toNat, normal.digits⟩)
        (by simp [nonempty])
      rw [List.append_nil, List.singleton_append] at read
      have zero' : ['0'] = List.replicate 1 '0' := rfl
      rw [List.cons_append, List.cons_append, read, zero', exponentValue?, Option.map_some,
        zeros_scaledValue, zeros_scaledValue, value_eq, List.length_append,
        List.length_replicate]
      congr 2
      omega

/-- The scientific notation: the first digit, a point and the others if there are
any, and the exponent with its sign. -/
theorem exists_scientific : ∃ c t, d.digits = c :: t ∧
    d.scientific = [c] ++ ((if t = [] then [] else '.' :: t) ++
      'e' :: (if d.point - 1 < 0 then '-' else '+') :: Nat.toDigits 10 (d.point - 1).natAbs) := by
  obtain ⟨c, t, same, _⟩ := normal.front
  refine ⟨c, t, same, ?_⟩
  unfold scientific
  rw [same]
  cases t <;> simp

theorem decimalValue?_scientific : decimalValue? d.scientific = some d.value := by
  obtain ⟨c, t, same, shown⟩ := exists_scientific normal
  have digits := normal.digits
  rw [same, ← List.singleton_append, allDigits_append] at digits
  have stops : Stops isDigit ('e' :: (if d.point - 1 < 0 then '-' else '+') ::
      Nat.toDigits 10 (d.point - 1).natAbs) := stops_cons.mpr (by decide)
  rw [shown, value_eq, same]
  by_cases single : t = []
  · have read := decimalValue?_whole digits.1 (by simp) stops (by simp)
    rw [exponentValue?_signed, Option.map_some] at read
    rw [if_pos single, List.nil_append, single]
    exact read
  · have read := decimalValue?_point digits.1 (by simp) stops digits.2 single
    rw [exponentValue?_signed, Option.map_some] at read
    rw [if_neg single]
    refine read.trans (congrArg some ?_)
    rw [List.singleton_append, List.length_cons]
    congr 1
    push_cast
    ring

theorem significantDigits_of_mantissa (before behind : Nat) {t : Text}
    (same : mantissaDigits t =
      List.replicate before '0' ++ (d.digits ++ List.replicate behind '0')) :
    significantDigits t = d.digits := by
  have zeros (count : Nat) : ∀ c ∈ List.replicate count '0', (c == '0') = true := by
    intro c member
    rw [List.eq_of_mem_replicate member]
    rfl
  have front : Stops (· == '0') (d.digits ++ List.replicate behind '0') := by
    obtain ⟨c, u, split, nonzero⟩ := normal.front
    rw [split, List.cons_append, stops_cons]
    simpa using nonzero
  have back : Stops (· == '0') d.digits.reverse := by
    obtain ⟨u, c, split, nonzero⟩ := normal.back
    rw [split, List.reverse_append, List.reverse_singleton, List.singleton_append, stops_cons]
    simpa using nonzero
  rw [significantDigits, same, dropWhile_of_stops (zeros before) front, List.reverse_append,
    List.reverse_replicate, dropWhile_of_stops (zeros behind) back, List.reverse_reverse]

theorem significantDigits_positional : significantDigits d.positional = d.digits := by
  unfold positional
  simp only
  split
  · refine significantDigits_of_mantissa normal 0 (d.point - d.digits.length).toNat ?_
    rw [mantissaDigits_of_digits (allDigits_append.mpr ⟨normal.digits, allDigits_zeros _⟩)]
    rfl
  · split
    · have parts := normal.digits.take_drop d.point.toNat
      refine significantDigits_of_mantissa normal 0 0 ?_
      rw [mantissaDigits_append parts.1, mantissaDigits_point, mantissaDigits_of_digits parts.2,
        List.take_append_drop]
      simp
    · refine significantDigits_of_mantissa normal (1 + (-d.point).toNat) 0 ?_
      have zero : AllDigits ['0'] := allDigits_zeros 1
      rw [List.cons_append, List.cons_append, ← List.singleton_append, mantissaDigits_append zero,
        mantissaDigits_point, mantissaDigits_of_digits
          (allDigits_append.mpr ⟨allDigits_zeros (-d.point).toNat, normal.digits⟩),
        List.replicate_add]
      simp

theorem significantDigits_scientific : significantDigits d.scientific = d.digits := by
  obtain ⟨c, t, same, shown⟩ := exists_scientific normal
  have digits := normal.digits
  rw [same, ← List.singleton_append, allDigits_append] at digits
  refine significantDigits_of_mantissa normal 0 0 ?_
  rw [shown, same, mantissaDigits_append digits.1]
  by_cases single : t = []
  · simp [single, mantissaDigits_exponent]
  · have tail := mantissaDigits_append digits.2 ('e' ::
      (if d.point - 1 < 0 then '-' else '+') :: Nat.toDigits 10 (d.point - 1).natAbs)
    rw [mantissaDigits_exponent, ← mantissaDigits_point] at tail
    rw [if_neg single]
    refine (congrArg ([c] ++ ·) tail).trans ?_
    simp

theorem significantDigits_layOut (layout : NumberLayout) :
    significantDigits (d.layOut layout) = d.digits := by
  unfold layOut
  split
  · exact significantDigits_positional normal
  · exact significantDigits_scientific normal

/-- **Digits laid out are a numeral of their number.** -/
theorem decimalValue?_layOut (layout : NumberLayout) :
    decimalValue? (d.layOut layout) = some d.value := by
  unfold layOut
  split
  · exact decimalValue?_positional normal
  · exact decimalValue?_scientific normal

end

end DecimalDigits

end LineBasic
