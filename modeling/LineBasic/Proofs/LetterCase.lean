import LineBasic.Proofs.Noninterference
import LineBasic.Proofs.Simulation

/-!
# Letter case never counts

Outside quotes, a capital ASCII letter may stand for a small one and the other
way round. Lines are the same in this sense if they are equal once the ASCII
letters outside quotes are small (`caseless`).

* **characters** — a letter and its small form belong to the same classes, are as
  long, and are alike to case folding, also as neighbours of a sigma
  (`fold_map_toLower`);
* **matchers** — cursors at one place, with the same text but for letter case
  behind it, are related, and every matcher tracks that (`tracks_recased`).

Main result: **`ascii_case_never_counts`**.
-/

namespace LineBasic

/-! ## Characters -/

/-- The capital ASCII letters. -/
def capitals : List Char := (List.range 26).map fun k => Char.ofNat (0x41 + k)

/-- Only capital ASCII letters have another small form. -/
theorem mem_capitals_or_toLower_eq (ch : Char) : ch ∈ capitals ∨ ch.toLower = ch := by
  unfold Char.toLower
  split
  · next capital =>
    obtain ⟨lower, upper⟩ := capital
    have least : 0x41 ≤ ch.toNat := UInt32.le_iff_toNat_le.1 lower
    have most : ch.toNat ≤ 0x5A := UInt32.le_iff_toNat_le.1 upper
    refine .inl (List.mem_map.2 ⟨ch.toNat - 0x41, List.mem_range.2 (by omega), ?_⟩)
    rw [Nat.add_sub_cancel' least, Char.ofNat_toNat]
  · exact .inr rfl

/-- What the language asks of a character besides which one it is. -/
structure Traits where
  letter : Bool
  digit : Bool
  gap : Bool
  cased : Bool
  caseIgnorable : Bool
  sigma : Bool
  lower : Text
  size : Nat
  deriving DecidableEq

/-- The traits of a character. -/
def traits (ch : Char) : Traits where
  letter := isLetter ch
  digit := isDigit ch
  gap := isGap ch
  cased := isCased ch
  caseIgnorable := isCaseIgnorable ch
  sigma := ch == 'Σ'
  lower := lowerChar ch
  size := ch.utf8Size

theorem traits_capitals : capitals.all (fun ch => traits ch.toLower = traits ch) = true := by
  decide +kernel

/-- The small form of a character has the traits of the character. -/
theorem traits_toLower (ch : Char) : traits ch.toLower = traits ch := by
  rcases mem_capitals_or_toLower_eq ch with member | same
  · exact of_decide_eq_true (List.all_eq_true.1 traits_capitals ch member)
  · rw [same]

@[simp] theorem isLetter_toLower (ch : Char) : isLetter ch.toLower = isLetter ch :=
  congrArg Traits.letter (traits_toLower ch)

@[simp] theorem isDigit_toLower (ch : Char) : isDigit ch.toLower = isDigit ch :=
  congrArg Traits.digit (traits_toLower ch)

@[simp] theorem isNameChar_toLower (ch : Char) : isNameChar ch.toLower = isNameChar ch := by
  simp [isNameChar]

@[simp] theorem isGap_toLower (ch : Char) : isGap ch.toLower = isGap ch :=
  congrArg Traits.gap (traits_toLower ch)

@[simp] theorem isCased_toLower (ch : Char) : isCased ch.toLower = isCased ch :=
  congrArg Traits.cased (traits_toLower ch)

@[simp] theorem isCaseIgnorable_toLower (ch : Char) :
    isCaseIgnorable ch.toLower = isCaseIgnorable ch :=
  congrArg Traits.caseIgnorable (traits_toLower ch)

@[simp] theorem lowerChar_toLower (ch : Char) : lowerChar ch.toLower = lowerChar ch :=
  congrArg Traits.lower (traits_toLower ch)

@[simp] theorem utf8Size_toLower (ch : Char) : ch.toLower.utf8Size = ch.utf8Size :=
  congrArg Traits.size (traits_toLower ch)

theorem capitals_letters : capitals.all isLetter = true := by decide +kernel

/-- What is no letter has no other form. -/
theorem eq_of_toLower_eq {a b : Char} (notLetter : isLetter b = false)
    (same : a.toLower = b.toLower) : a = b := by
  have fixed : ∀ ch, isLetter ch = false → ch.toLower = ch := by
    intro ch notLetter
    rcases mem_capitals_or_toLower_eq ch with member | same
    · rw [List.all_eq_true.1 capitals_letters ch member] at notLetter
      cases notLetter
    · exact same
  have notLetter' : isLetter a = false := by
    rw [← isLetter_toLower, same, isLetter_toLower, notLetter]
  rw [← fixed a notLetter', same, fixed b notLetter]

theorem toLower_eq_sigma_iff {ch : Char} : ch.toLower = 'Σ' ↔ ch = 'Σ' := by
  have same : (ch.toLower == 'Σ') = (ch == 'Σ') := congrArg Traits.sigma (traits_toLower ch)
  rw [← beq_iff_eq, same, beq_iff_eq]

/-! ## Texts -/

@[simp] theorem byteSize_map_toLower (t : Text) : byteSize (t.map Char.toLower) = byteSize t := by
  induction t with
  | nil => rfl
  | cons ch t ih => simp [byteSize, ih]

theorem meetsCased_map_toLower (t : Text) : meetsCased (t.map Char.toLower) = meetsCased t := by
  induction t with
  | nil => rfl
  | cons ch t ih =>
    unfold meetsCased at ih ⊢
    cases ignorable : isCaseIgnorable ch <;> simp [ignorable, ih]

theorem foldAfter_map_toLower (before t : Text) :
    foldAfter (before.map Char.toLower) (t.map Char.toLower) = foldAfter before t := by
  induction t generalizing before with
  | nil => rfl
  | cons ch t ih =>
    have others := ih (ch :: before)
    have final : isFinalSigma (before.map Char.toLower) (t.map Char.toLower) =
        isFinalSigma before t := by
      simp [isFinalSigma, meetsCased_map_toLower]
    rw [List.map_cons] at others
    simp only [List.map_cons, foldAfter, toLower_eq_sigma_iff, final, lowerChar_toLower, others]

/-- **Folding does not see the case of ASCII letters**, neither of those it folds
nor of those around a sigma. -/
theorem fold_map_toLower (t : Text) : fold (t.map Char.toLower) = fold t :=
  foldAfter_map_toLower [] t

/-! ## Texts without regard to case -/

/-- What counts of a character: inside quotes all of it, outside not whether it is
a capital ASCII letter. -/
def caseView (quoted : Bool) (ch : Char) : Char := if quoted then ch else ch.toLower

/-- A text without regard to the case of ASCII letters outside quotes, that is,
after an even number of them. The flag tells whether it begins inside quotes. -/
def caseless : (quoted : Bool) → Text → Text
  | _, [] => []
  | quoted, ch :: rest => caseView quoted ch :: caseless (quoted != (ch == '"')) rest

theorem isLetter_quote : isLetter '"' = false := (punctuation_apart (by decide)).2.1

theorem caseless_eq_nil_iff {quoted : Bool} {t : Text} : caseless quoted t = [] ↔ t = [] := by
  cases t <;> simp [caseless]

theorem caseView_eq_quote_iff {quoted : Bool} {ch : Char} :
    caseView quoted ch = '"' ↔ ch = '"' := by
  cases quoted with
  | true => rfl
  | false =>
    refine ⟨fun same => eq_of_toLower_eq isLetter_quote same, ?_⟩
    rintro rfl
    rfl

/-- Texts that are the same go on with characters that are. -/
theorem caseless_uncons {quoted : Bool} {ch : Char} {s t : Text}
    (same : caseless quoted t = caseless quoted (ch :: s)) :
    ∃ ch' rest, t = ch' :: rest ∧ caseView quoted ch' = caseView quoted ch ∧
      caseless (quoted != (ch == '"')) rest = caseless (quoted != (ch == '"')) s := by
  cases t with
  | nil => simp [caseless] at same
  | cons ch' rest =>
    obtain ⟨here, others⟩ := List.cons.inj same
    have quote : (ch' == '"') = (ch == '"') := by
      rw [Bool.eq_iff_iff, beq_iff_eq, beq_iff_eq, ← @caseView_eq_quote_iff quoted ch', here,
        caseView_eq_quote_iff]
    rw [quote] at others
    exact ⟨ch', rest, rfl, here, others⟩

/-- Texts that are the same have the same in front, as far as no quote stands
there. -/
theorem caseless_append {quoted : Bool} {front s t : Text} (plain : '"' ∉ front)
    (same : caseless quoted t = caseless quoted (front ++ s)) :
    ∃ front' rest, t = front' ++ rest ∧
      front'.map (caseView quoted) = front.map (caseView quoted) ∧
      caseless quoted rest = caseless quoted s := by
  induction front generalizing t with
  | nil => exact ⟨[], t, rfl, rfl, same⟩
  | cons ch front ih =>
    rw [List.mem_cons, not_or] at plain
    obtain ⟨ch', t', rfl, here, others⟩ := caseless_uncons same
    rw [beq_false_of_ne (Ne.symm plain.1), Bool.bne_false] at others
    obtain ⟨front', rest, rfl, inFront, behind⟩ := ih plain.2 others
    exact ⟨ch' :: front', rest, rfl, by simp [here, inFront], behind⟩

/-- A text inside quotes is the same only if it is equal. -/
theorem caseView_true (t : Text) : t.map (caseView true) = t := by
  have all : caseView true = id := rfl
  rw [all, List.map_id]

theorem stops_of_caseless {p : Char → Bool} (stable : ∀ ch, p ch.toLower = p ch) {s t : Text}
    (same : caseless false t = caseless false s) (stops : Stops p s) : Stops p t := by
  cases s with
  | nil =>
    obtain rfl := caseless_eq_nil_iff.1 same
    exact stops
  | cons ch s =>
    obtain ⟨ch', rest, rfl, here, _⟩ := caseless_uncons same
    have small : ch'.toLower = ch.toLower := here
    rw [stops_cons] at stops ⊢
    rw [← stable, small, stable, stops]

theorem head?_of_caseless {symbol : Char} (notLetter : isLetter symbol = false) {s t : Text}
    (same : caseless false t = caseless false s) (front : s.head? = some symbol) :
    t.head? = some symbol := by
  obtain ⟨rest, rfl⟩ := List.head?_eq_some_iff.1 front
  obtain ⟨ch, rest', rfl, here, _⟩ := caseless_uncons same
  rw [eq_of_toLower_eq notLetter here]
  rfl

/-- Inside quotes, a text that ends there is the same only if it is equal. -/
theorem eq_of_caseless_true {t t' : Text} (plain : '"' ∉ t)
    (same : caseless true t' = caseless true t) : t' = t := by
  rw [← List.append_nil t] at same
  obtain ⟨front, rest, rfl, equal, nothing⟩ := caseless_append plain same
  rw [caseView_true, caseView_true] at equal
  rw [equal, caseless_eq_nil_iff.1 nothing, List.append_nil]

/-- Gaps have no case. -/
theorem caseless_cons_of_gap {ch : Char} (gap : isGap ch = true) (t : Text) :
    caseless false (ch :: t) = ch.toLower :: caseless false t := by
  have notQuote : ch ≠ '"' := by
    rintro rfl
    rw [(punctuation_apart (by decide)).1] at gap
    cases gap
  rw [caseless, beq_false_of_ne notQuote]
  rfl

theorem caseless_dropWhile (t : Text) :
    caseless false (t.dropWhile isGap) = (caseless false t).dropWhile isGap := by
  induction t with
  | nil => rfl
  | cons ch t ih =>
    cases gap : isGap ch with
    | true => simp [caseless_cons_of_gap gap, gap, ih]
    | false => simp [caseless, caseView, gap]

theorem byteSize_takeWhile_caseless (t : Text) :
    byteSize ((caseless false t).takeWhile isGap) = byteSize (t.takeWhile isGap) := by
  induction t with
  | nil => rfl
  | cons ch t ih =>
    cases gap : isGap ch with
    | true => simp [caseless_cons_of_gap gap, gap, byteSize, ih]
    | false => simp [caseless, caseView, gap]

/-! ## Words without regard to case -/

section Words

variable {word word' : Text} (same : word'.map Char.toLower = word.map Char.toLower)
include same

theorem byteSize_of_same : byteSize word' = byteSize word := by
  rw [← byteSize_map_toLower word', same, byteSize_map_toLower]

theorem fold_of_same : fold word' = fold word := by
  rw [← fold_map_toLower word', same, fold_map_toLower]

theorem isWord_of_same {first more : Char → Bool} (stableFirst : ∀ ch, first ch.toLower = first ch)
    (stableMore : ∀ ch, more ch.toLower = more ch) (isWord : IsWord first more word) :
    IsWord first more word' := by
  obtain ⟨initial, tail, rfl, begins, all⟩ := isWord
  obtain ⟨initial', tail', rfl, here, others⟩ := List.map_eq_cons_iff.1 same
  refine ⟨initial', tail', rfl, ?_, ?_⟩
  · rw [← stableFirst, here, stableFirst, begins]
  · intro ch member
    have small : ch.toLower ∈ tail.map Char.toLower := others ▸ List.mem_map_of_mem member
    obtain ⟨ch', member', same'⟩ := List.mem_map.1 small
    rw [← stableMore, ← same', stableMore, all ch' member']

/-- A text without letters is the same only if it is equal. -/
theorem eq_of_same (noLetter : ∀ ch ∈ word, isLetter ch = false) : word' = word := by
  induction word generalizing word' with
  | nil => exact List.map_eq_nil_iff.1 same
  | cons ch word ih =>
    obtain ⟨ch', rest, rfl, here, others⟩ := List.map_eq_cons_iff.1 same
    rw [eq_of_toLower_eq (noLetter ch List.mem_cons_self) here,
      ih others fun d member => noLetter d (List.mem_cons_of_mem _ member)]

end Words

/-! ## Related cursors -/

/-- Cursors at one place, with the same text behind it but for letter case. -/
structure Recased (c d : Cursor) : Prop where
  place : d.offset = c.offset
  text : caseless false d.rest = caseless false c.rest

theorem recased_start {line line' : Text} (same : caseless false line' = caseless false line) :
    Recased (.start line) (.start line') := ⟨rfl, same⟩

namespace Recased

variable {c d : Cursor} (recased : Recased c d)
include recased

theorem skipGap : Recased c.skipGap d.skipGap where
  place := by
    show d.offset + byteSize (d.rest.takeWhile isGap) = c.offset + byteSize (c.rest.takeWhile isGap)
    rw [← byteSize_takeWhile_caseless, recased.text, byteSize_takeWhile_caseless, recased.place]
  text := by
    show caseless false (d.rest.dropWhile isGap) = caseless false (c.rest.dropWhile isGap)
    rw [caseless_dropWhile, recased.text, caseless_dropWhile]

theorem nextPlace : d.nextPlace = c.nextPlace := recased.skipGap.place

/-- Text without quotes in front of one cursor is in front of the other. -/
theorem front {text rest : Text} (plain : '"' ∉ text) (front : c.rest = text ++ rest) :
    ∃ text' rest', d.rest = text' ++ rest' ∧ text'.map Char.toLower = text.map Char.toLower ∧
      caseless false rest' = caseless false rest := by
  have same := recased.text
  rw [front] at same
  exact caseless_append plain same

/-- Taking such texts keeps cursors related. -/
theorem take {text text' rest rest' : Text} (kind : TokenKind)
    (same : text'.map Char.toLower = text.map Char.toLower)
    (others : caseless false rest' = caseless false rest) :
    (d.take kind text' rest').1.span = (c.take kind text rest).1.span ∧
      Recased (c.take kind text rest).2 (d.take kind text' rest').2 := by
  refine ⟨?_, ⟨?_, others⟩⟩
  · simp [Cursor.take, recased.place, byteSize_of_same same]
  · simp [Cursor.take, recased.place, byteSize_of_same same]

/-- What is no letter stands in front of both cursors or of none. -/
theorem head?_eq_some_iff {symbol : Char} (notLetter : isLetter symbol = false) :
    d.rest.head? = some symbol ↔ c.rest.head? = some symbol :=
  ⟨head?_of_caseless notLetter recased.text.symm, head?_of_caseless notLetter recased.text⟩

/-! ## Matchers -/

theorem scanWord {kind : TokenKind} {first more : Char → Bool} {view : Text → Text}
    (stableFirst : ∀ ch, first ch.toLower = first ch)
    (stableMore : ∀ ch, more ch.toLower = more ch)
    (plain : ∀ ch, more ch = true → ch ≠ '"') (narrower : ∀ ch, first ch = true → more ch = true)
    (viewed : ∀ {word word' : Text}, (∀ ch ∈ word, more ch = true) →
      word'.map Char.toLower = word.map Char.toLower → view word' = view word) :
    MatchInStep Recased Eq view (Cursor.scanWord kind first more c)
      (Cursor.scanWord kind first more d) := by
  cases scanned : Cursor.scanWord kind first more c with
  | none =>
    rw [Cursor.scanWord_eq_none_iff] at scanned
    rw [Cursor.scanWord_eq_none_iff.2 (stops_of_caseless stableFirst recased.skipGap.text scanned)]
    exact .absent
  | some found =>
    obtain ⟨word, rest, isWord, stops, front, rfl⟩ := Cursor.scanWord_eq_some_iff.1 scanned
    have all := isWord.all narrower
    obtain ⟨word', rest', front', same, others⟩ :=
      recased.skipGap.front (fun quote => plain '"' (all '"' quote) rfl) front
    obtain ⟨span, next⟩ := recased.skipGap.take kind same others
    have isWord' := isWord_of_same same stableFirst stableMore isWord
    have stops' := stops_of_caseless stableMore others stops
    rw [Cursor.scanWord_eq_some_iff.2 ⟨word', rest', isWord', stops', front', rfl⟩]
    exact .found (viewed all same) span.symm next

theorem scanLiteral {symbol : Char} (notLetter : isLetter symbol = false)
    (notQuote : symbol ≠ '"') :
    MatchInStep Recased Eq id (Cursor.scanLiteral [symbol] c) (Cursor.scanLiteral [symbol] d) := by
  cases scanned : Cursor.scanLiteral [symbol] c with
  | none =>
    rw [Cursor.scanLiteral_eq_none_iff, ne_eq, ← recased.skipGap.head?_eq_some_iff notLetter,
      ← ne_eq, ← Cursor.scanLiteral_eq_none_iff] at scanned
    rw [scanned]
    exact .absent
  | some found =>
    obtain ⟨rest, front, rfl⟩ := Cursor.scanLiteral_eq_some_iff.1 scanned
    obtain ⟨_, rest', front', same, others⟩ :=
      recased.skipGap.front (by simpa using Ne.symm notQuote) front
    obtain rfl := eq_of_same same (by simpa using notLetter)
    obtain ⟨span, next⟩ := recased.skipGap.take .literal same others
    rw [Cursor.scanLiteral_eq_some_iff.2 ⟨rest', front', rfl⟩]
    exact .found rfl span.symm next

theorem scanTier (tier : Tier) : MatchInStep Recased Eq id (tier.scan c) (tier.scan d) := by
  have mark : ∀ operator : Operator, operator.symbol ∈ punctuation ∧ operator.symbol ≠ '"' := by
    intro operator
    cases operator <;> decide
  have notLetter : ∀ operator : Operator, isLetter operator.symbol = false :=
    fun operator => (punctuation_apart (mark operator).1).2.1
  cases scanned : tier.scan c with
  | none =>
    have absent : tier.scan d = none := by
      rw [Tier.scan_eq_none_iff] at scanned ⊢
      intro operator same front
      exact scanned operator same ((recased.skipGap.head?_eq_some_iff (notLetter operator)).1 front)
    rw [absent]
    exact .absent
  | some found =>
    obtain ⟨operator, isTier, rest, front, rfl⟩ := Tier.scan_eq_some_iff.1 scanned
    have front : c.skipGap.rest = [operator.symbol] ++ rest := front
    obtain ⟨_, rest', front', same, others⟩ :=
      recased.skipGap.front (by simpa using Ne.symm (mark operator).2) front
    obtain rfl := eq_of_same same (by simpa using notLetter operator)
    obtain ⟨span, next⟩ := recased.skipGap.take .literal same others
    rw [Tier.scan_eq_some_iff.2 ⟨operator, isTier, rest', front', rfl⟩]
    exact .found rfl span.symm next

theorem scanEndOfLine : MatchInStep Recased Eq id c.scanEndOfLine d.scanEndOfLine := by
  have ends : c.skipGap.rest = [] ↔ d.skipGap.rest = [] := by
    rw [← caseless_eq_nil_iff, ← recased.skipGap.text, caseless_eq_nil_iff]
  cases scanned : c.scanEndOfLine with
  | none =>
    rw [Cursor.scanEndOfLine_eq_none_iff, ne_eq, ends, ← ne_eq,
      ← Cursor.scanEndOfLine_eq_none_iff] at scanned
    rw [scanned]
    exact .absent
  | some found =>
    obtain ⟨none_left, rfl⟩ := Cursor.scanEndOfLine_eq_some_iff.1 scanned
    rw [Cursor.scanEndOfLine_eq_some_iff.2 ⟨ends.1 none_left, rfl⟩]
    exact .found rfl (by simp [recased.nextPlace]) recased.skipGap

/-- Behind an opening quote, both texts go on alike as far as the closing one. -/
theorem scanString : StringInStep Recased Eq c.scanString d.scanString := by
  have inside : ∀ {tail : Text}, c.skipGap.rest = '"' :: tail →
      ∃ tail', d.skipGap.rest = '"' :: tail' ∧ caseless true tail' = caseless true tail := by
    intro tail front
    have same := recased.skipGap.text
    rw [front] at same
    obtain ⟨quote, tail', front', here, others⟩ := caseless_uncons same
    obtain rfl := caseView_eq_quote_iff.1 (here.trans (caseView_eq_quote_iff.2 rfl))
    exact ⟨tail', front', others⟩
  rcases c.scanString_cases with ⟨content, rest, plain, front⟩ | ⟨tail, plain, front⟩ | absent
  · obtain ⟨tail', front', same⟩ := inside front
    obtain ⟨content', after, rfl, sameContent, behind⟩ := caseless_append plain same
    rw [caseView_true, caseView_true] at sameContent
    subst sameContent
    obtain ⟨quote, rest', rfl, here, others⟩ := caseless_uncons behind
    obtain rfl := caseView_eq_quote_iff.1 (here.trans (caseView_eq_quote_iff.2 rfl))
    rw [Cursor.scanString_of_closed plain front, Cursor.scanString_of_closed plain front',
      recased.nextPlace]
    exact .closed (.found rfl rfl ⟨rfl, others⟩)
  · obtain ⟨tail', front', same⟩ := inside front
    obtain rfl := eq_of_caseless_true plain same
    have ends : d.skipGap.lineEnd = c.skipGap.lineEnd := by
      rw [Cursor.lineEnd, Cursor.lineEnd, front, front', recased.skipGap.place]
    rw [Cursor.scanString_of_open plain front, Cursor.scanString_of_open plain front',
      recased.nextPlace, ends]
    exact .unclosed (LineError.like_at _ rfl)
  · have absent' : d.skipGap.rest.head? ≠ some '"' := fun quoted =>
      absent ((recased.skipGap.head?_eq_some_iff isLetter_quote).1 quoted)
    rw [Cursor.scanString_of_absent absent, Cursor.scanString_of_absent absent']
    exact .closed .absent

end Recased

theorem separators_caseless :
    separators.all (fun ch => !isLetter ch && ch != '"') = true := by decide +kernel

theorem caseless_of_separator {ch : Char} (member : ch ∈ separators) :
    isLetter ch = false ∧ ch ≠ '"' := by
  have outside := List.all_eq_true.1 separators_caseless ch member
  simpa using outside

/-- **Every matcher gives the same answer where only letter case differs.** -/
theorem tracks_recased : Tracks Recased Eq where
  observe _ _ recased := ⟨recased.place, recased.text⟩
  nextPlace recased := by rw [recased.nextPlace]
  keyword recased := recased.scanWord isLetter_toLower isLetter_toLower
    (fun _ letter => ne_quote_of_isNameChar (isNameChar_of_isLetter letter))
    (fun _ letter => letter) fun _ => fold_of_same
  name recased := recased.scanWord isLetter_toLower isNameChar_toLower
    (fun _ => ne_quote_of_isNameChar) (fun _ => isNameChar_of_isLetter) fun _ => fold_of_same
  number recased := recased.scanWord isDigit_toLower isDigit_toLower
    (fun _ digit => ne_quote_of_isNameChar (isNameChar_of_isDigit digit)) (fun _ digit => digit)
    fun digits same => eq_of_same same fun ch member => isLetter_of_isDigit (digits ch member)
  symbol member recased :=
    recased.scanLiteral (caseless_of_separator member).1 (caseless_of_separator member).2
  sign tier recased := recased.scanTier tier
  string recased := recased.scanString
  lineEnd recased := recased.scanEndOfLine

/-! ## Lines and runs -/

theorem LineError.Like.eq {error error' : LineError} (like : error.Like Eq error') :
    error' = error := by
  cases error
  cases error'
  rw [LineError.mk.injEq]
  exact ⟨like.cause, like.place.symm, like.help⟩

/-- Answers whose places are equal are equal. -/
theorem AnswerInStep.eq {answer answer' : Except LineError Effect}
    (inStep : AnswerInStep Eq answer answer') : answer' = answer := by
  cases inStep with
  | ok => rfl
  | error like => rw [like.eq]

/-- Executions with the same effect or the same error, and with equal stores
afterwards. -/
structure Execution.SameResult (execution execution' : Execution) : Prop where
  outcome : execution'.outcome = execution.outcome
  store : execution'.store = execution.store

/-- **Step.** A line has the same result whatever the case of its letters. -/
theorem sameResult_of_caseless {line line' : Text}
    (same : caseless false line' = caseless false line) (store : Store) :
    (execute store line).SameResult (execute store line') := by
  obtain ⟨inStep, sameStore⟩ := tracks_recased.execute (recased_start same) store
  exact ⟨inStep.eq, sameStore⟩

/-- **Run.** So do any lines, call by call. -/
theorem executions_of_caseless {lines lines' : List Text}
    (same : lines'.map (caseless false) = lines.map (caseless false)) (store : Store) :
    List.Forall₂ Execution.SameResult (executions store lines) (executions store lines') := by
  induction lines generalizing lines' store with
  | nil =>
    obtain rfl := List.map_eq_nil_iff.1 same
    exact .nil
  | cons line later ih =>
    obtain ⟨line', later', rfl, here, others⟩ := List.map_eq_cons_iff.1 same
    have result := sameResult_of_caseless here store
    refine .cons result ?_
    have rest := ih others (execute store line).store
    rw [← result.store] at rest ⊢
    exact rest

/-- **Letter case never counts.** Lines that differ in nothing but the case of
ASCII letters outside quotes have, call by call, the same effects, the same errors
at the same places and the same stores, beginning with the empty one. -/
theorem ascii_case_never_counts {lines lines' : List Text}
    (same : lines'.map (caseless false) = lines.map (caseless false)) :
    List.Forall₂ Execution.SameResult (executions .empty lines) (executions .empty lines') :=
  executions_of_caseless same .empty

/-- A sigma is final or not whatever the case of the letters around it, and what
stands in quotes keeps its case. -/
theorem case_around_sigma :
    ["let aΣ = 1".toList, "print AΣ, \"aB\"".toList, "LET Σb = c".toList].map (caseless false) =
      ["LET AΣ = 1".toList, "PRINT aΣ, \"aB\"".toList, "let ΣB = C".toList].map (caseless false) ∧
    List.Forall₂ Execution.SameResult
      (executions .empty
        ["LET AΣ = 1".toList, "PRINT aΣ, \"aB\"".toList, "let ΣB = C".toList])
      (executions .empty
        ["let aΣ = 1".toList, "print AΣ, \"aB\"".toList, "LET Σb = c".toList]) := by
  have same :
      ["let aΣ = 1".toList, "print AΣ, \"aB\"".toList, "LET Σb = c".toList].map (caseless false) =
        ["LET AΣ = 1".toList, "PRINT aΣ, \"aB\"".toList, "let ΣB = C".toList].map
          (caseless false) := by decide +kernel
  exact ⟨same, ascii_case_never_counts same⟩

end LineBasic
