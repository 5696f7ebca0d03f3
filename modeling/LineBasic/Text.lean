/-!
# Text and its bytes

A line of a program is a list of characters, while places in it are counted
in bytes of its UTF-8 encoding. This module fixes both views and the way
between them. Main statement: `decode?_eq_some_iff`, reading bytes accepts
exactly what encoding produces, so a byte sequence denotes at most one text.
-/

namespace LineBasic

/-- A line, a name or any other piece of text. -/
abbrev Text := List Char

/-- Raw input and output. -/
abbrev Bytes := List UInt8

/-- The number of bytes of a text in UTF-8. -/
def byteSize : Text → Nat
  | [] => 0
  | c :: t => c.utf8Size + byteSize t

@[simp] theorem byteSize_append (s t : Text) : byteSize (s ++ t) = byteSize s + byteSize t := by
  induction s with
  | nil => simp [byteSize]
  | cons c s ih => simp [byteSize, ih, Nat.add_assoc]

theorem byteSize_eq_zero_iff {t : Text} : byteSize t = 0 ↔ t = [] := by
  cases t with
  | nil => simp [byteSize]
  | cons c t =>
    have size := c.utf8Size_pos
    simp only [byteSize, reduceCtorEq, iff_false]
    omega

theorem byteSize_pos {t : Text} (nonempty : t ≠ []) : 0 < byteSize t :=
  Nat.pos_of_ne_zero (mt byteSize_eq_zero_iff.1 nonempty)

/-- What follows a text at the front of another, if it stands there. -/
def cutFront? : (front t : Text) → Option Text
  | [], t => some t
  | _ :: _, [] => none
  | c :: front, d :: t => if c = d then cutFront? front t else none

theorem cutFront?_eq_some_iff {front t rest : Text} :
    cutFront? front t = some rest ↔ t = front ++ rest := by
  induction front generalizing t with
  | nil => simp [cutFront?]
  | cons c front ih =>
    cases t with
    | nil => simp [cutFront?]
    | cons d t =>
      by_cases same : c = d
      · simp [cutFront?, same, ih]
      · simp [cutFront?, same, Ne.symm same]

/-- The UTF-8 encoding of a text. -/
def encode (t : Text) : Bytes := t.flatMap String.utf8EncodeChar

@[simp] theorem encode_nil : encode [] = [] := rfl

@[simp] theorem encode_append (s t : Text) : encode (s ++ t) = encode s ++ encode t :=
  List.flatMap_append

@[simp] theorem length_encode (t : Text) : (encode t).length = byteSize t := by
  induction t with
  | nil => rfl
  | cons c t ih =>
    have : encode (c :: t) = String.utf8EncodeChar c ++ encode t := rfl
    simp [this, byteSize, ih]

/-- The text that bytes stand for, if they are UTF-8. -/
def decode? (bytes : Bytes) : Option Text := bytes.toByteArray.utf8Decode?.map Array.toList

theorem decode?_encode (t : Text) : decode? (encode t) = some t := by
  have : (encode t).toByteArray = t.utf8Encode := rfl
  simp [decode?, this, List.utf8Decode?_utf8Encode]

theorem decode?_eq_some_iff {bytes : Bytes} {t : Text} :
    decode? bytes = some t ↔ bytes = encode t := by
  constructor
  · intro decoded
    obtain ⟨chars, found, rfl⟩ := Option.map_eq_some_iff.1 decoded
    have isSome : bytes.toByteArray.utf8Decode?.isSome := by simp [found]
    have encoded : chars.toList.utf8Encode = bytes.toByteArray := by
      have := @ByteArray.utf8Encode_get_utf8Decode? _ isSome
      simpa [found] using this
    have same : (encode chars.toList).toByteArray = bytes.toByteArray := encoded
    have := congrArg (fun array : ByteArray => array.data.toList) same
    simpa using this.symm
  · rintro rfl
    exact decode?_encode t

end LineBasic
