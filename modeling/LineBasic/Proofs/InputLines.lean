import LineBasic.Text.Lines
import Mathlib.Data.List.TakeWhile

/-!
# Lines and their ends

* **cuts** — the lines of an input are cut at its line feeds, so the first few
  of them, taken as an input of their own, are cut in the same places
  (`rawLines_flatten`), and so are the last few; to prove something of every
  input one may go through it line by line (`lineInduction`);
* **ends** — a line feed and a carriage return are characters wherever they end
  a line, so a line is text or not whatever is taken off its end, and its two
  readings differ in line ends only (`dropLineEnd_of_chomp`);
* **white space** — at the end of a line it does not count for what is blank
  (`isBlank_append`) nor for what is left after trimming (`trim_append`).
-/

namespace LineBasic

/-- What follows the first line of an input does not change where that ends,
unless it has no line feed and so would go on. -/
theorem cutLine_append_of_end {bytes later : Bytes} (ended : (cutLine bytes).2 = [] → later = []) :
    cutLine ((cutLine bytes).1 ++ later) = ((cutLine bytes).1, later) := by
  induction bytes with
  | nil =>
    obtain rfl := ended rfl
    rfl
  | cons b bytes ih =>
    by_cases feed : b = lineFeed
    · simp [cutLine, feed]
    · have here := ih (by simpa [cutLine, feed] using ended)
      simp [cutLine, feed, here]

theorem rawLines_append {line : Bytes} {bytes : Bytes} (nonempty : line ≠ [])
    (cut : cutLine (line ++ bytes) = (line, bytes)) :
    rawLines (line ++ bytes) = line :: rawLines bytes := by
  obtain ⟨b, rest, rfl⟩ := List.exists_cons_of_ne_nil nonempty
  rw [List.cons_append, rawLines, ← List.cons_append, cut]

/-- **The first lines of an input are the lines of what they amount to.** -/
theorem rawLines_flatten {bytes : Bytes} {before : List Bytes}
    (first : before <+: rawLines bytes) : rawLines before.flatten = before := by
  fun_induction rawLines bytes generalizing before with
  | case1 =>
    obtain rfl := List.prefix_nil.1 first
    simp [rawLines]
  | case2 b bytes ih =>
    cases before with
    | nil => simp [rawLines]
    | cons line before =>
      obtain ⟨rfl, others⟩ := List.cons_prefix_cons.1 first
      have ended : (cutLine (b :: bytes)).2 = [] → before.flatten = [] := by
        intro empty
        rw [empty, rawLines] at others
        rw [List.prefix_nil.1 others, List.flatten_nil]
      have nonempty : (cutLine (b :: bytes)).1 ≠ [] := by
        simp only [cutLine]
        split <;> simp
      rw [List.flatten_cons, rawLines_append nonempty (cutLine_append_of_end ended), ih others]

/-- So are the last lines. -/
theorem rawLines_flatten_of_suffix {bytes : Bytes} {after : List Bytes}
    (last : after <:+ rawLines bytes) : rawLines after.flatten = after := by
  fun_induction rawLines bytes generalizing after with
  | case1 =>
    obtain rfl := List.suffix_nil.1 last
    simp [rawLines]
  | case2 b bytes ih =>
    rcases List.suffix_cons_iff.1 last with rfl | last
    · rw [← rawLines, flatten_rawLines]
    · exact ih last

/-! ## Line by line -/

theorem cutLine_of_open {bytes : Bytes} (noFeed : lineFeed ∉ bytes) :
    cutLine bytes = (bytes, []) := by
  induction bytes with
  | nil => rfl
  | cons b bytes ih =>
    rw [List.mem_cons, not_or] at noFeed
    simp [cutLine, Ne.symm noFeed.1, ih noFeed.2]

theorem cutLine_of_closed {body : Bytes} (noFeed : lineFeed ∉ body) (later : Bytes) :
    cutLine (body ++ lineFeed :: later) = (body ++ [lineFeed], later) := by
  induction body with
  | nil => simp [cutLine]
  | cons b body ih =>
    rw [List.mem_cons, not_or] at noFeed
    simp [cutLine, Ne.symm noFeed.1, ih noFeed.2]

@[simp] theorem rawLines_nil : rawLines [] = [] := by rw [rawLines]

theorem rawLines_of_open {bytes : Bytes} (noFeed : lineFeed ∉ bytes) (nonempty : bytes ≠ []) :
    rawLines bytes = [bytes] := by
  obtain ⟨b, bytes, rfl⟩ := List.exists_cons_of_ne_nil nonempty
  rw [rawLines, cutLine_of_open noFeed, rawLines_nil]

theorem rawLines_of_closed {body : Bytes} (noFeed : lineFeed ∉ body) (later : Bytes) :
    rawLines (body ++ lineFeed :: later) = (body ++ [lineFeed]) :: rawLines later := by
  have cut := cutLine_of_closed noFeed later
  rw [List.append_cons] at cut ⊢
  exact rawLines_append (by simp) cut

/-- An input is one open line, or a closed one and an input behind it. -/
@[elab_as_elim]
theorem lineInduction {motive : Bytes → Prop} (bytes : Bytes)
    (isOpen : ∀ bytes, lineFeed ∉ bytes → motive bytes)
    (closed : ∀ body later, lineFeed ∉ body → motive later → motive (body ++ lineFeed :: later)) :
    motive bytes := by
  by_cases feed : lineFeed ∈ bytes
  · obtain ⟨body, later, whole, noFeed⟩ := List.eq_append_cons_of_mem feed
    have shorter : later.length < bytes.length := by
      rw [whole, List.length_append, List.length_cons]
      omega
    rw [whole]
    exact closed body later noFeed (lineInduction later isOpen closed)
  · exact isOpen bytes feed
termination_by bytes.length

/-! ## Ends of lines -/

/-- What ends a line: line feeds and carriage returns. -/
def isLineEnd (ch : Char) : Bool := ch == '\n' || ch == '\r'

/-- A byte that continues a character is no ASCII character. -/
theorem ne_of_continuation {bytes : Bytes} {b : UInt8} (ascii : b < 0x80) (front : Bytes)
    (n : Nat) :
    front ++ [UInt8.ofNat (n % 64 + 128)] ≠ bytes ++ [b] := by
  intro same
  obtain ⟨_, rfl⟩ := List.append_inj' same rfl |>.imp_right List.singleton_inj.1
  rw [UInt8.lt_iff_toNat_lt, UInt8.toNat_ofNat'] at ascii
  have : (0x80 : UInt8).toNat = 128 := rfl
  omega

/-- Only a character of one byte ends in an ASCII byte. -/
theorem utf8EncodeChar_eq_concat {ch : Char} {bytes : Bytes} {b : UInt8}
    (last : String.utf8EncodeChar ch = bytes ++ [b]) (ascii : b < 0x80) : bytes = [] := by
  delta String.utf8EncodeChar at last
  simp only at last
  split at last
  · exact (List.append_inj' (List.nil_append _ |>.trans last).symm rfl).1
  split at last
  · exact absurd last (ne_of_continuation ascii [_] _)
  split at last
  · exact absurd last (ne_of_continuation ascii [_, _] _)
  · exact absurd last (ne_of_continuation ascii [_, _, _] _)

/-- An ASCII byte at the end of a text is its last character. -/
theorem encode_eq_concat {t : Text} {bytes : Bytes} {b : UInt8} (whole : encode t = bytes ++ [b])
    (ascii : b < 0x80) : ∃ s, bytes = encode s := by
  rcases List.eq_nil_or_concat t with rfl | ⟨s, ch, rfl⟩
  · simp at whole
  · have nonempty : encode [ch] ≠ [] := by
      intro empty
      have size := length_encode [ch]
      have := ch.utf8Size_pos
      rw [empty] at size
      simp only [byteSize, List.length_nil] at size
      omega
    -- the last byte of the text is the last byte of its last character
    have cut := List.dropLast_concat_getLast nonempty
    rw [List.concat_eq_append, encode_append, ← cut, ← List.append_assoc] at whole
    obtain ⟨rfl, same⟩ := List.append_inj' whole rfl
    rw [List.singleton_inj.1 same] at cut
    have only : encode [ch] = String.utf8EncodeChar ch := List.append_nil _
    rw [utf8EncodeChar_eq_concat (only.symm.trans cut.symm) ascii, List.append_nil]
    exact ⟨s, rfl⟩

/-- Line ends behind the encoding of a text leave such an encoding before them. -/
theorem encode_eq_append {t tail : Text} {bytes : Bytes}
    (ends : ∀ ch ∈ tail, isLineEnd ch = true) (whole : encode t = bytes ++ encode tail) :
    ∃ s, bytes = encode s := by
  induction tail generalizing bytes with
  | nil => exact ⟨t, by rw [whole, encode_nil, List.append_nil]⟩
  | cons ch tail ih =>
    obtain ⟨b, ascii, only⟩ : ∃ b : UInt8, b < 0x80 ∧ encode [ch] = [b] := by
      have either := ends ch List.mem_cons_self
      rw [isLineEnd, Bool.or_eq_true, beq_iff_eq, beq_iff_eq] at either
      rcases either with rfl | rfl
      · exact ⟨lineFeed, by decide, rfl⟩
      · exact ⟨carriageReturn, by decide, rfl⟩
    rw [← List.singleton_append, encode_append, only, ← List.append_assoc] at whole
    obtain ⟨s, longer⟩ := ih (fun d member => ends d (List.mem_cons_of_mem _ member)) whole
    exact encode_eq_concat longer.symm ascii

theorem chomp_append (raw : Bytes) :
    ∃ tail : Text, (∀ ch ∈ tail, isLineEnd ch = true) ∧ raw = chomp raw ++ encode tail := by
  unfold chomp
  split
  · next feed =>
    obtain ⟨body, rfl⟩ := List.getLast?_eq_some_iff.1 feed
    simp only [List.dropLast_concat]
    split
    · next carriage =>
      obtain ⟨body, rfl⟩ := List.getLast?_eq_some_iff.1 carriage
      refine ⟨['\r', '\n'], by simp [isLineEnd], ?_⟩
      simp only [List.dropLast_concat, List.append_assoc]
      rfl
    · exact ⟨['\n'], by simp [isLineEnd], rfl⟩
  · exact ⟨[], by simp, by simp⟩

/-- A line is text no matter how much of its end belongs to it. -/
theorem decode?_of_chomp_none {raw : Bytes} (unread : decode? (chomp raw) = none) :
    decode? raw = none := by
  cases read : decode? raw with
  | none => rfl
  | some text =>
    obtain ⟨tail, ends, whole⟩ := chomp_append raw
    rw [decode?_eq_some_iff] at read
    obtain ⟨line, same⟩ := encode_eq_append ends (read.symm.trans whole)
    rw [same, decode?_encode] at unread
    cases unread

theorem decode?_of_chomp {raw : Bytes} {line : Text} (read : decode? (chomp raw) = some line) :
    ∃ tail, (∀ ch ∈ tail, isLineEnd ch = true) ∧ decode? raw = some (line ++ tail) := by
  obtain ⟨tail, ends, whole⟩ := chomp_append raw
  rw [decode?_eq_some_iff] at read
  refine ⟨tail, ends, decode?_eq_some_iff.2 ?_⟩
  rw [encode_append, ← read, ← whole]

theorem decode?_chomp_eq_none_iff {raw : Bytes} :
    decode? (chomp raw) = none ↔ decode? raw = none := by
  refine ⟨decode?_of_chomp_none, fun unread => ?_⟩
  cases read : decode? (chomp raw) with
  | none => rfl
  | some line =>
    obtain ⟨tail, _, whole⟩ := decode?_of_chomp read
    rw [whole] at unread
    cases unread

section DropEnd

variable {p : Char → Bool}

theorem dropEndWhile_append_of_all {t tail : Text} (all : ∀ ch ∈ tail, p ch = true) :
    dropEndWhile p (t ++ tail) = dropEndWhile p t := by
  unfold dropEndWhile
  rw [List.reverse_append, List.dropWhile_append_of_pos]
  intro ch member
  exact all ch (List.mem_reverse.1 member)

theorem dropEndWhile_append (p : Char → Bool) (t : Text) :
    ∃ tail, (∀ ch ∈ tail, p ch = true) ∧ t = dropEndWhile p t ++ tail := by
  refine ⟨(t.reverse.takeWhile p).reverse, ?_, ?_⟩
  · intro ch member
    exact List.mem_takeWhile_imp (List.mem_reverse.1 member)
  · rw [dropEndWhile, ← List.reverse_append, List.takeWhile_append_dropWhile, List.reverse_reverse]

end DropEnd

/-- **How much of its end belongs to a line makes no difference but for line
ends behind it.** -/
theorem dropLineEnd_of_chomp {raw : Bytes} {line : Text}
    (read : decode? (chomp raw) = some line) :
    ∃ text tail, decode? raw = some text ∧ line = dropLineEnd text ++ tail ∧
      ∀ ch ∈ tail, isLineEnd ch = true := by
  obtain ⟨behind, ends, whole⟩ := decode?_of_chomp read
  obtain ⟨tail, ends', split⟩ := dropEndWhile_append isLineEnd line
  refine ⟨line ++ behind, tail, whole, ?_, ends'⟩
  show line = dropEndWhile isLineEnd (line ++ behind) ++ tail
  rw [dropEndWhile_append_of_all ends]
  exact split

/-! ## White space at the end -/

theorem isWhite_of_isLineEnd {ch : Char} (ends : isLineEnd ch = true) : isWhite ch = true := by
  rw [isLineEnd, Bool.or_eq_true, beq_iff_eq, beq_iff_eq] at ends
  rcases ends with rfl | rfl <;> decide +kernel

theorem isGap_of_isLineEnd {ch : Char} (ends : isLineEnd ch = true) : isGap ch = true := by
  rw [isLineEnd, Bool.or_eq_true, beq_iff_eq, beq_iff_eq] at ends
  rcases ends with rfl | rfl <;> decide +kernel

section WhiteEnd

variable {t tail : Text} (white : ∀ ch ∈ tail, isWhite ch = true)
include white

theorem isBlank_append : isBlank (t ++ tail) = isBlank t := by
  rw [isBlank, List.all_append, List.all_eq_true.2 white, Bool.and_true]
  rfl

theorem trim_append : trim (t ++ tail) = trim t := by
  unfold trim
  rw [List.dropWhile_append]
  split
  · next none_left =>
    rw [List.isEmpty_iff.1 none_left, List.dropWhile_eq_nil_iff.2 white]
  · exact dropEndWhile_append_of_all white

end WhiteEnd

theorem trim_of_blank {t : Text} (blank : isBlank t = true) : trim t = [] := by
  rw [trim, List.dropWhile_eq_nil_iff.2 (List.all_eq_true.1 blank)]
  rfl

end LineBasic
