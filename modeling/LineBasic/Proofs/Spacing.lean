import LineBasic.Proofs.Simulation

/-!
# Gaps between tokens

Where a gap stands between two tokens, any other gap will do. Texts that are
**respaced** differ in nothing but such gaps (`Respaced`): outside quotes one
nonempty gap may stand for another, inside of them every character counts, and
at the end there may be a gap in one text and none in the other.

* **words and strings** — what is no gap outside quotes, and a closed string, is
  the same in both texts (`Respaced.solid`, `Respaced.closed`);
* **matchers** — cursors whose next tokens stand before respaced texts are
  loosely related (`Loose`), and every matcher tracks that (`tracks_loose`).

Main result: **`Loose.execute`**, respaced lines have the same effect, or errors
with the same cause and help.
-/

namespace LineBasic

/-! ## Respaced texts -/

/-- The second text is the first one with other gaps. The index tells whether
the texts begin inside quotes. -/
inductive Respaced : (quoted : Bool) → Text → Text → Prop
  | finish {quoted s s'} : (∀ ch ∈ s, isGap ch = true) → (∀ ch ∈ s', isGap ch = true) →
      Respaced quoted s s'
  | gap {g g' s s'} : g ≠ [] → g' ≠ [] → (∀ ch ∈ g, isGap ch = true) →
      (∀ ch ∈ g', isGap ch = true) → Respaced false s s' → Respaced false (g ++ s) (g' ++ s')
  | same {ch s s'} : isGap ch = false → ch ≠ '"' → Respaced false s s' →
      Respaced false (ch :: s) (ch :: s')
  | opening {s s'} : Respaced true s s' → Respaced false ('"' :: s) ('"' :: s')
  | inside {ch s s'} : ch ≠ '"' → Respaced true s s' → Respaced true (ch :: s) (ch :: s')
  | closing {s s'} : Respaced false s s' → Respaced true ('"' :: s) ('"' :: s')

theorem isGap_quote : isGap '"' = false := (punctuation_apart (by decide)).1

theorem quote_not_mem_gap {g : Text} (all : ∀ ch ∈ g, isGap ch = true) : '"' ∉ g := by
  intro member
  have gap := all '"' member
  rw [isGap_quote] at gap
  cases gap

/-- A character that neither belongs to a gap nor opens or closes a string. -/
def Solid (ch : Char) : Prop := isGap ch = false ∧ ch ≠ '"'

namespace Respaced

/-- A character may be kept, unless it belongs to a gap outside quotes. -/
theorem keep {quoted : Bool} {ch : Char} {s s' : Text} (kept : quoted = true ∨ isGap ch = false)
    (rest : Respaced (quoted != (ch == '"')) s s') : Respaced quoted (ch :: s) (ch :: s') := by
  by_cases quote : ch = '"'
  · subst quote
    cases quoted with
    | true => exact .closing rest
    | false => exact .opening rest
  · rw [beq_false_of_ne quote, Bool.bne_false] at rest
    cases quoted with
    | true => exact .inside quote rest
    | false => exact .same (by simpa using kept) quote rest

/-- A text may keep its gaps. -/
theorem refl (quoted : Bool) (s : Text) : Respaced quoted s s := by
  induction s generalizing quoted with
  | nil => exact .finish (by simp) (by simp)
  | cons ch s ih =>
    by_cases kept : quoted = true ∨ isGap ch = false
    · exact keep kept (ih _)
    · obtain ⟨rfl, gap⟩ : quoted = false ∧ isGap ch = true := by simpa using kept
      have only : ∀ c ∈ [ch], isGap c = true := by simpa using gap
      show Respaced false ([ch] ++ s) ([ch] ++ s)
      exact .gap (by simp) (by simp) only only (ih false)

/-- Any two gaps may stand at the end. -/
theorem append {quoted : Bool} {s s' tail tail' : Text} (respaced : Respaced quoted s s')
    (all : ∀ ch ∈ tail, isGap ch = true) (all' : ∀ ch ∈ tail', isGap ch = true) :
    Respaced quoted (s ++ tail) (s' ++ tail') := by
  induction respaced with
  | finish gaps gaps' =>
    exact .finish (List.forall_mem_append.2 ⟨gaps, all⟩) (List.forall_mem_append.2 ⟨gaps', all'⟩)
  | gap some_gap some_gap' gaps gaps' _ ih =>
    rw [List.append_assoc, List.append_assoc]
    exact .gap some_gap some_gap' gaps gaps' ih
  | same notGap notQuote _ ih => exact .same notGap notQuote ih
  | opening _ ih => exact .opening ih
  | inside notQuote _ ih => exact .inside notQuote ih
  | closing _ ih => exact .closing ih

/-- A gap may be added at the end. -/
theorem append_gap (quoted : Bool) (s : Text) {tail : Text} (all : ∀ ch ∈ tail, isGap ch = true) :
    Respaced quoted (s ++ tail) s := by
  have none_left : ∀ ch ∈ ([] : Text), isGap ch = true := by simp
  simpa using (refl quoted s).append all none_left

/-- What follows the gaps in front is respaced, too. -/
theorem skip {s s' : Text} (respaced : Respaced false s s') :
    Respaced false (s.dropWhile isGap) (s'.dropWhile isGap) := by
  generalize outside : false = quoted at respaced
  induction respaced with
  | finish all all' =>
    rw [List.dropWhile_eq_nil_iff.2 all, List.dropWhile_eq_nil_iff.2 all']
    exact .finish (by simp) (by simp)
  | gap _ _ all all' _ ih =>
    rw [List.dropWhile_append_of_pos all, List.dropWhile_append_of_pos all']
    exact ih rfl
  | same gap quote rest =>
    simp only [List.dropWhile_cons, gap]
    exact .same gap quote rest
  | opening rest =>
    simp only [List.dropWhile_cons, isGap_quote]
    exact .opening rest
  | inside => cases outside
  | closing => cases outside

/-- Where neither text begins with a gap, both begin alike. -/
theorem head?_eq {s s' : Text} (respaced : Respaced false s s') (stops : Stops isGap s)
    (stops' : Stops isGap s') : s'.head? = s.head? := by
  have none_of_stops : ∀ t : Text, Stops isGap t → (∀ ch ∈ t, isGap ch = true) → t = [] := by
    intro t stops all
    cases t with
    | nil => rfl
    | cons ch t =>
      have gap := all ch List.mem_cons_self
      rw [stops_cons.1 stops] at gap
      cases gap
  cases respaced with
  | finish all all' => rw [none_of_stops s stops all, none_of_stops s' stops' all']
  | @gap g _ _ _ some_gap _ all _ _ =>
    obtain ⟨ch, g, rfl⟩ := List.exists_cons_of_ne_nil some_gap
    have gap := all ch List.mem_cons_self
    rw [stops_cons.1 stops] at gap
    cases gap
  | same => rfl
  | opening => rfl

/-- A class of solid characters stops at the same places. -/
theorem stops {p : Char → Bool} (solid : ∀ ch, p ch = true → Solid ch) {s s' : Text}
    (respaced : Respaced false s s') (stops : Stops p s) : Stops p s' := by
  have stops_gap : ∀ t : Text, (∀ ch ∈ t, isGap ch = true) → Stops p t := by
    intro t all ch member
    have gap := all ch (List.mem_of_mem_head? member)
    cases here : p ch with
    | false => rfl
    | true =>
      rw [(solid ch here).1] at gap
      cases gap
  cases respaced with
  | finish _ all' => exact stops_gap s' all'
  | @gap _ g' _ rest' _ some_gap' _ all' _ =>
    obtain ⟨ch, g', rfl⟩ := List.exists_cons_of_ne_nil some_gap'
    exact stops_cons.2 (stops_cons.1 (stops_gap (ch :: g') all'))
  | same => exact stops_cons.2 (stops_cons.1 stops)
  | opening => exact stops_cons.2 (stops_cons.1 stops)

/-- What begins with no gap goes on with the same character in both texts. -/
theorem uncons {ch : Char} {s s' : Text} (notGap : isGap ch = false)
    (respaced : Respaced false (ch :: s) s') :
    ∃ rest', s' = ch :: rest' ∧ Respaced (ch == '"') s rest' := by
  generalize whole : ch :: s = t at respaced
  cases respaced with
  | finish gaps _ =>
    subst whole
    rw [gaps ch List.mem_cons_self] at notGap
    cases notGap
  | gap some_gap _ gaps _ _ =>
    obtain ⟨d, g, rfl⟩ := List.exists_cons_of_ne_nil some_gap
    obtain ⟨rfl, _⟩ := List.cons.inj whole
    rw [gaps ch List.mem_cons_self] at notGap
    cases notGap
  | same _ notQuote rest =>
    cases whole
    rw [beq_false_of_ne notQuote]
    exact ⟨_, rfl, rest⟩
  | opening rest =>
    cases whole
    exact ⟨_, rfl, rest⟩

/-- Solid characters are the same in both texts. -/
theorem solid {t s s' : Text} (all : ∀ ch ∈ t, Solid ch) (respaced : Respaced false (t ++ s) s') :
    ∃ rest', s' = t ++ rest' ∧ Respaced false s rest' := by
  induction t generalizing s' with
  | nil => exact ⟨s', rfl, respaced⟩
  | cons ch t ih =>
    obtain ⟨notGap, notQuote⟩ := all ch List.mem_cons_self
    obtain ⟨s₁, rfl, respaced'⟩ := respaced.uncons notGap
    rw [beq_false_of_ne notQuote] at respaced'
    obtain ⟨rest', rfl, rest⟩ :=
      ih (fun d member => all d (List.mem_cons_of_mem _ member)) respaced'
    exact ⟨rest', rfl, rest⟩

/-- A string is the same in both texts. -/
theorem closed {content s s' : Text} (plain : '"' ∉ content)
    (respaced : Respaced true (content ++ '"' :: s) s') :
    ∃ rest', s' = content ++ '"' :: rest' ∧ Respaced false s rest' := by
  induction content generalizing s' with
  | nil =>
    cases respaced with
    | finish gaps _ => exact absurd List.mem_cons_self (quote_not_mem_gap gaps)
    | inside notQuote => exact absurd rfl notQuote
    | closing rest => exact ⟨_, rfl, rest⟩
  | cons ch content ih =>
    cases respaced with
    | finish gaps _ => exact absurd (by simp) (quote_not_mem_gap gaps)
    | inside notQuote rest =>
      obtain ⟨rest', rfl, respaced'⟩ :=
        ih (fun member => plain (List.mem_cons_of_mem _ member)) rest
      exact ⟨rest', rfl, respaced'⟩
    | closing => exact absurd List.mem_cons_self plain

/-- A string that is open in one text is open in the other. -/
theorem plain {s s' : Text} (plain : '"' ∉ s) (respaced : Respaced true s s') : '"' ∉ s' := by
  generalize within : true = quoted at respaced
  induction respaced with
  | finish _ gaps => exact quote_not_mem_gap gaps
  | gap => cases within
  | same => cases within
  | opening => cases within
  | inside notQuote _ ih =>
    have later := ih (fun member => plain (List.mem_cons_of_mem _ member)) within
    intro member
    rcases List.mem_cons.1 member with quote | member
    · exact notQuote quote.symm
    · exact later member
  | closing => exact absurd List.mem_cons_self plain

end Respaced

/-! ## Related cursors -/

/-- Cursors whose next tokens stand before respaced texts. -/
def Loose (c d : Cursor) : Prop := Respaced false c.skipGap.rest d.skipGap.rest

/-- In respaced lines, places say nothing about each other. -/
abbrev anyPlace (_ _ : Span) : Prop := True

theorem Respaced.loose {c d : Cursor} (respaced : Respaced false c.rest d.rest) : Loose c d :=
  respaced.skip

namespace Loose

variable {c d : Cursor}

theorem head?_eq (loose : Loose c d) : d.skipGap.rest.head? = c.skipGap.rest.head? :=
  Respaced.head?_eq loose c.stops_skipGap d.stops_skipGap

/-- Solid text in front of one cursor is in front of the other. -/
theorem front (loose : Loose c d) {text rest : Text} (all : ∀ ch ∈ text, Solid ch)
    (front : c.skipGap.rest = text ++ rest) :
    ∃ rest', d.skipGap.rest = text ++ rest' ∧ Respaced false rest rest' := by
  unfold Loose at loose
  rw [front] at loose
  exact loose.solid all

theorem scanWord (loose : Loose c d) {kind : TokenKind} {first more : Char → Bool}
    (solid : ∀ ch, more ch = true → Solid ch) (narrower : ∀ ch, first ch = true → more ch = true)
    (view : Text → Text) :
    MatchInStep Loose anyPlace view (Cursor.scanWord kind first more c)
      (Cursor.scanWord kind first more d) := by
  cases scanned : Cursor.scanWord kind first more c with
  | none =>
    rw [Cursor.scanWord_eq_none_iff] at scanned
    rw [Cursor.scanWord_eq_none_iff.2 (scanned.of_head? loose.head?_eq)]
    exact .absent
  | some found =>
    obtain ⟨word, rest, isWord, stops, front, rfl⟩ := Cursor.scanWord_eq_some_iff.1 scanned
    obtain ⟨rest', front', respaced⟩ :=
      loose.front (fun ch member => solid ch (isWord.all narrower ch member)) front
    rw [Cursor.scanWord_eq_some_iff.2
      ⟨word, rest', isWord, respaced.stops solid stops, front', rfl⟩]
    exact .found rfl trivial respaced.loose

theorem scanLiteral (loose : Loose c d) {symbol : Char} (solid : Solid symbol) :
    MatchInStep Loose anyPlace id (Cursor.scanLiteral [symbol] c)
      (Cursor.scanLiteral [symbol] d) := by
  cases scanned : Cursor.scanLiteral [symbol] c with
  | none =>
    rw [Cursor.scanLiteral_eq_none_iff, ← loose.head?_eq, ← Cursor.scanLiteral_eq_none_iff]
      at scanned
    rw [scanned]
    exact .absent
  | some found =>
    obtain ⟨rest, front, rfl⟩ := Cursor.scanLiteral_eq_some_iff.1 scanned
    obtain ⟨rest', front', respaced⟩ := loose.front (by simpa using solid) front
    rw [Cursor.scanLiteral_eq_some_iff.2 ⟨rest', front', rfl⟩]
    exact .found rfl trivial respaced.loose

theorem scanTier (loose : Loose c d) (tier : Tier) :
    MatchInStep Loose anyPlace id (tier.scan c) (tier.scan d) := by
  cases scanned : tier.scan c with
  | none =>
    rw [Tier.scan_eq_none_iff, ← loose.head?_eq, ← Tier.scan_eq_none_iff] at scanned
    rw [scanned]
    exact .absent
  | some found =>
    obtain ⟨operator, same, rest, front, rfl⟩ := Tier.scan_eq_some_iff.1 scanned
    have solid : ∀ ch ∈ [operator.symbol], Solid ch := by
      intro ch member
      rw [List.mem_singleton.1 member]
      cases operator <;> exact ⟨(punctuation_apart (by decide)).1, by decide⟩
    obtain ⟨rest', front', respaced⟩ := loose.front solid front
    rw [Tier.scan_eq_some_iff.2 ⟨operator, same, rest', front', rfl⟩]
    exact .found rfl trivial respaced.loose

theorem scanString (loose : Loose c d) :
    StringInStep Loose anyPlace c.scanString d.scanString := by
  have inside : ∀ {tail : Text}, c.skipGap.rest = '"' :: tail →
      ∃ tail', d.skipGap.rest = '"' :: tail' ∧ Respaced true tail tail' := by
    intro tail front
    unfold Loose at loose
    rw [front] at loose
    exact loose.uncons isGap_quote
  rcases c.scanString_cases with ⟨content, rest, plain, front⟩ | ⟨tail, plain, front⟩ | absent
  · obtain ⟨tail', front', respaced⟩ := inside front
    obtain ⟨rest', rfl, respaced'⟩ := respaced.closed plain
    rw [Cursor.scanString_of_closed plain front, Cursor.scanString_of_closed plain front']
    exact .closed (.found rfl trivial respaced'.loose)
  · obtain ⟨tail', front', respaced⟩ := inside front
    rw [Cursor.scanString_of_open plain front,
      Cursor.scanString_of_open (respaced.plain plain) front']
    exact .unclosed (LineError.like_at _ trivial)
  · rw [Cursor.scanString_of_absent absent,
      Cursor.scanString_of_absent (by rw [loose.head?_eq]; exact absent)]
    exact .closed .absent

theorem scanEndOfLine (loose : Loose c d) :
    MatchInStep Loose anyPlace id c.scanEndOfLine d.scanEndOfLine := by
  have ends : c.skipGap.rest = [] ↔ d.skipGap.rest = [] := by
    rw [← List.head?_eq_none_iff, ← loose.head?_eq, List.head?_eq_none_iff]
  cases scanned : c.scanEndOfLine with
  | none =>
    rw [Cursor.scanEndOfLine_eq_none_iff, ne_eq, ends, ← ne_eq,
      ← Cursor.scanEndOfLine_eq_none_iff] at scanned
    rw [scanned]
    exact .absent
  | some found =>
    obtain ⟨none_left, rfl⟩ := Cursor.scanEndOfLine_eq_some_iff.1 scanned
    rw [Cursor.scanEndOfLine_eq_some_iff.2 ⟨ends.1 none_left, rfl⟩]
    exact .found rfl trivial (Respaced.loose loose)

end Loose

theorem solid_of_isNameChar {ch : Char} (named : isNameChar ch = true) : Solid ch :=
  ⟨isGap_of_isNameChar named, ne_quote_of_isNameChar named⟩

theorem separators_outside :
    separators.all (fun ch => !isGap ch && ch != '"') = true := by decide +kernel

theorem solid_of_separator {ch : Char} (member : ch ∈ separators) : Solid ch := by
  have outside := List.all_eq_true.1 separators_outside ch member
  simpa [Solid] using outside

/-- **Every matcher gives the same answer where only gaps differ.** -/
theorem tracks_loose : Tracks Loose anyPlace where
  observe _ _ loose := loose
  nextPlace _ := trivial
  keyword loose := loose.scanWord
    (fun _ letter => solid_of_isNameChar (isNameChar_of_isLetter letter)) (fun _ letter => letter) _
  name loose := loose.scanWord (fun _ => solid_of_isNameChar) (fun _ => isNameChar_of_isLetter) _
  number loose := loose.scanWord
    (fun _ digit => solid_of_isNameChar (isNameChar_of_isDigit digit)) (fun _ digit => digit) _
  symbol member loose := loose.scanLiteral (solid_of_separator member)
  sign tier loose := loose.scanTier tier
  string loose := loose.scanString
  lineEnd loose := loose.scanEndOfLine

/-- **Respaced lines have the same effect, or errors with the same cause and
help, and leave the same store.** -/
theorem Loose.execute {line line' : Text} (loose : Loose (.start line) (.start line'))
    (store : Store) :
    AnswerInStep anyPlace (execute store line).outcome (execute store line').outcome ∧
      (LineBasic.execute store line').store = (LineBasic.execute store line).store :=
  tracks_loose.execute loose store

end LineBasic
