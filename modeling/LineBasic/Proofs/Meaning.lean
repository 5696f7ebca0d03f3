import LineBasic.Statement.Reader
import LineBasic.Proofs.LowerCase
import LineBasic.Proofs.NearestDouble

/-!
# The meaning of a tree

Trees come in two spellings. The grammar keeps names as they stand in the
line, the reader hands out names in lower case; `folded` leads from the one to
the other. A tree **fits** a scope and a limit if its variables are in scope
and it opens no more parentheses at once than the limit.

The meaning of a tree as it is spelled is given by rules: `Evaluates` for
numbers, `Shows` for items, `Means` for statements. On a tree whose variables
all have values, they allow exactly what the interpreter computes from the
folded tree (`Expr.evaluates_iff`, `Item.shows_iff`, **`Statement.means_iff`**).
-/

namespace LineBasic

/-! ## Trees as spelled and as read -/

namespace Expr

/-- A tree with its names in lower case. -/
def folded : Expr → Expr
  | .number digits => .number digits
  | .variable word => .variable (fold word)
  | .group inner => .group inner.folded
  | .binary operator left right => .binary operator left.folded right.folded

/-- The variables of a tree, as they are spelled. -/
def names : Expr → List Text
  | .number _ => []
  | .variable word => [word]
  | .group inner => inner.names
  | .binary _ left right => left.names ++ right.names

/-- How many parentheses are open at once at the deepest place of a tree. -/
def nesting : Expr → Nat
  | .number _ => 0
  | .variable _ => 0
  | .group inner => inner.nesting + 1
  | .binary _ left right => max left.nesting right.nesting

/-- The tree opens at most `n` parentheses at once, and its variables are in
scope. -/
def Fits (scope : Scope) (n : Nat) (e : Expr) : Prop :=
  e.nesting ≤ n ∧ ∀ word ∈ e.names, scope (fold word) = true

variable {scope : Scope} {n : Nat}

@[simp] theorem fits_number {digits : Text} : Fits scope n (.number digits) := by
  simp [Fits, nesting, names]

@[simp] theorem fits_variable {word : Text} :
    Fits scope n (.variable word) ↔ scope (fold word) = true := by
  simp [Fits, nesting, names]

@[simp] theorem fits_group_zero {e : Expr} : ¬ Fits scope 0 (.group e) := by
  simp [Fits, nesting]

@[simp] theorem fits_group_succ {e : Expr} : Fits scope (n + 1) (.group e) ↔ Fits scope n e := by
  simp [Fits, nesting, names]

/-- What holds of two parts holds of the whole. -/
theorem fits_both {depth depth' : Nat} {names names' : List Text} :
    (max depth depth' ≤ n ∧ ∀ word ∈ names ++ names', scope (fold word) = true) ↔
      (depth ≤ n ∧ ∀ word ∈ names, scope (fold word) = true) ∧
        depth' ≤ n ∧ ∀ word ∈ names', scope (fold word) = true := by
  rw [Nat.max_le, List.forall_mem_append]
  refine ⟨?_, ?_⟩
  · intro both
    exact ⟨⟨both.1.1, both.2.1⟩, both.1.2, both.2.2⟩
  · intro both
    exact ⟨⟨both.1.1, both.2.1⟩, both.1.2, both.2.2⟩

@[simp] theorem fits_binary {operator : Operator} {left right : Expr} :
    Fits scope n (.binary operator left right) ↔ Fits scope n left ∧ Fits scope n right :=
  fits_both

end Expr

namespace Item

/-- An item with its names in lower case. -/
def folded : Item → Item
  | .expr e => .expr e.folded
  | .string text => .string text

/-- The variables of an item, as they are spelled. -/
def names : Item → List Text
  | .expr e => e.names
  | .string _ => []

/-- How many parentheses are open at once at the deepest place of an item. -/
def nesting : Item → Nat
  | .expr e => e.nesting
  | .string _ => 0

end Item

namespace Statement

/-- A statement with its names in lower case. -/
def folded : Statement → Statement
  | .assign name source => .assign (fold name) source.folded
  | .print items => .print (items.map Item.folded)

/-- The variables that a statement reads, as they are spelled. -/
def names : Statement → List Text
  | .assign _ source => source.names
  | .print items => items.flatMap Item.names

/-- How many parentheses are open at once at the deepest place of a statement. -/
def nesting : Statement → Nat
  | .assign _ source => source.nesting
  | .print items => (items.map Item.nesting).foldr max 0

/-- The statement opens at most `n` parentheses at once, and the variables it
reads are in scope. -/
def Fits (scope : Scope) (n : Nat) (statement : Statement) : Prop :=
  statement.nesting ≤ n ∧ ∀ word ∈ statement.names, scope (fold word) = true

theorem fits_assign {scope : Scope} {n : Nat} {name : Text} {source : Expr} :
    Fits scope n (.assign name source) ↔ source.Fits scope n := Iff.rfl

theorem fits_nil {scope : Scope} {n : Nat} : Fits scope n (.print []) := by
  simp [Fits, nesting, names]

theorem fits_string {scope : Scope} {n : Nat} {text : Text} {items : List Item} :
    Fits scope n (.print (.string text :: items)) ↔ Fits scope n (.print items) := by
  simp [Fits, nesting, names, Item.nesting, Item.names]

theorem fits_expr {scope : Scope} {n : Nat} {e : Expr} {items : List Item} :
    Fits scope n (.print (.expr e :: items)) ↔ e.Fits scope n ∧ Fits scope n (.print items) :=
  Expr.fits_both

theorem fits_cons {scope : Scope} {n : Nat} {item : Item} {items : List Item} :
    Fits scope n (.print (item :: items)) ↔
      Fits scope n (.print [item]) ∧ Fits scope n (.print items) := by
  cases item with
  | expr e => simp only [fits_expr, and_assoc, fits_nil, true_and]
  | string text => simp only [fits_string, fits_nil, true_and]

end Statement

/-! ## Rules of evaluation -/

/-- The value of an expression, as it is spelled: a literal is the double without a
sign to which its number rounds, variables have the value of their name in the store,
and each operator is one operation of the arithmetic on the values of its two sides. -/
inductive Expr.Evaluates (store : Store) : Expr → Float → Prop
  | number {digits x} : Double.RoundsTo (digitsValue digits) (Double.ofFloat x) →
      (Double.ofFloat x).Unsigned → Evaluates store (.number digits) x
  | name {word x} : store.get? word = some x → Evaluates store (.variable word) x
  | group {inner x} : Evaluates store inner x → Evaluates store (.group inner) x
  | add {left right x y} : Evaluates store left x → Evaluates store right y →
      Evaluates store (.binary .add left right) (x + y)
  | sub {left right x y} : Evaluates store left x → Evaluates store right y →
      Evaluates store (.binary .sub left right) (x - y)
  | mul {left right x y} : Evaluates store left x → Evaluates store right y →
      Evaluates store (.binary .mul left right) (x * y)
  | div {left right x y} : Evaluates store left x → Evaluates store right y →
      Evaluates store (.binary .div left right) (x / y)

/-- The text that an item writes. -/
inductive Item.Shows (store : Store) : Item → Text → Prop
  | string {text} : Shows store (.string text) text
  | number {e x} : e.Evaluates store x → Shows store (.expr e) (displayNumber x)

/-- The effect of a statement. The texts of the items follow one another with
nothing in between. -/
inductive Statement.Means (store : Store) : Statement → Effect → Prop
  | assign {name source x} : source.Evaluates store x →
      Means store (.assign name source) (.assigned (fold name) x)
  | print {items texts} : List.Forall₂ (Item.Shows store) items texts →
      Means store (.print items) (.printed texts.flatten)

/-! ## The rules and the interpreter -/

/-- All of these names have values. -/
def Store.Binds (store : Store) (names : List Text) : Prop :=
  ∀ word ∈ names, store.isSet word = true

variable {store : Store}

/-- A store answers for a name and for its lower case alike. -/
@[simp] theorem Store.get?_fold (name : Text) : store.get? (fold name) = store.get? name := by
  unfold get?
  rw [fold_fold]

@[simp] theorem Store.isSet_fold (name : Text) : store.isSet (fold name) = store.isSet name := by
  unfold isSet
  rw [get?_fold]

theorem Store.Binds.append {names others : List Text} (binds : store.Binds (names ++ others)) :
    store.Binds names ∧ store.Binds others := List.forall_mem_append.1 binds

/-- An operation has the value that its operator makes of the values of its
sides. -/
theorem Expr.evaluates_binary_iff {operator : Operator} {left right : Expr} {z : Float} :
    (Expr.binary operator left right).Evaluates store z ↔
      ∃ x y, left.Evaluates store x ∧ right.Evaluates store y ∧ z = operator.apply x y := by
  refine ⟨?_, ?_⟩
  · intro evaluates
    cases evaluates with
    | add atLeft atRight => exact ⟨_, _, atLeft, atRight, rfl⟩
    | sub atLeft atRight => exact ⟨_, _, atLeft, atRight, rfl⟩
    | mul atLeft atRight => exact ⟨_, _, atLeft, atRight, rfl⟩
    | div atLeft atRight => exact ⟨_, _, atLeft, atRight, rfl⟩
  · rintro ⟨x, y, atLeft, atRight, rfl⟩
    cases operator with
    | add => exact .add atLeft atRight
    | sub => exact .sub atLeft atRight
    | mul => exact .mul atLeft atRight
    | div => exact .div atLeft atRight

theorem Expr.evaluates_number_iff {digits : Text} {x : Float} :
    (Expr.number digits).Evaluates store x ↔ x = literalValue digits := by
  rw [Double.eq_literalValue_iff]
  refine ⟨?_, ?_⟩
  · intro evaluates
    cases evaluates with
    | number rounds unsigned => exact ⟨rounds, unsigned⟩
  · rintro ⟨rounds, unsigned⟩
    exact .number rounds unsigned

/-- A variable that has a value evaluates to it and to nothing else. -/
theorem Expr.evaluates_variable_iff {word : Text} (isSet : store.isSet word = true) {x : Float} :
    (Expr.variable word).Evaluates store x ↔ x = (store.get? (fold word)).getD 0 := by
  obtain ⟨y, found⟩ := Option.isSome_iff_exists.1 isSet
  rw [Store.get?_fold, found]
  refine ⟨?_, ?_⟩
  · intro evaluates
    cases evaluates with
    | name found' => exact Option.some.inj (found'.symm.trans found)
  · rintro rfl
    exact .name found

/-- **An expression has one value**, the one that the folded tree computes. -/
theorem Expr.evaluates_iff {e : Expr} (binds : store.Binds e.names) {x : Float} :
    e.Evaluates store x ↔ x = e.folded.value store := by
  induction e generalizing x with
  | number digits => exact evaluates_number_iff
  | «variable» word => exact evaluates_variable_iff (binds word List.mem_cons_self)
  | group inner ih =>
    refine ⟨?_, ?_⟩
    · intro evaluates
      cases evaluates with
      | group inside => exact (ih binds).1 inside
    · intro value
      exact .group ((ih binds).2 value)
  | binary operator left right ihLeft ihRight =>
    -- an operation on the only value of either side
    obtain ⟨bindsLeft, bindsRight⟩ := binds.append
    rw [evaluates_binary_iff]
    refine ⟨?_, ?_⟩
    · rintro ⟨x, y, atLeft, atRight, rfl⟩
      rw [(ihLeft bindsLeft).1 atLeft, (ihRight bindsRight).1 atRight]
      rfl
    · rintro rfl
      exact ⟨_, _, (ihLeft bindsLeft).2 rfl, (ihRight bindsRight).2 rfl, rfl⟩

theorem Item.shows_iff {item : Item} (binds : store.Binds item.names) {text : Text} :
    item.Shows store text ↔ text = (item.folded.value store).display := by
  cases item with
  | expr e =>
    refine ⟨?_, ?_⟩
    · intro shown
      cases shown with
      | number evaluates =>
        rw [(Expr.evaluates_iff binds).1 evaluates]
        rfl
    · rintro rfl
      exact .number ((Expr.evaluates_iff binds).2 rfl)
  | string content =>
    refine ⟨?_, ?_⟩
    · intro shown
      cases shown
      rfl
    · rintro rfl
      exact .string

theorem Item.shows_all_iff {items : List Item} (binds : store.Binds (items.flatMap names))
    {texts : List Text} :
    List.Forall₂ (Shows store) items texts ↔
      texts = items.map fun item => (item.folded.value store).display := by
  induction items generalizing texts with
  | nil =>
    refine ⟨?_, ?_⟩
    · intro none_shown
      cases none_shown
      rfl
    · rintro rfl
      exact .nil
  | cons item rest ih =>
    rw [List.flatMap_cons] at binds
    obtain ⟨bindsItem, bindsRest⟩ := binds.append
    refine ⟨?_, ?_⟩
    · intro all
      cases all with
      | cons first others =>
        rw [(shows_iff bindsItem).1 first, (ih bindsRest).1 others]
        rfl
    · rintro rfl
      exact .cons ((shows_iff bindsItem).2 rfl) ((ih bindsRest).2 rfl)

/-- **The rules allow exactly the effect that the interpreter computes.** -/
theorem Statement.means_iff {statement : Statement} (binds : store.Binds statement.names)
    {effect : Effect} :
    statement.Means store effect ↔ statement.folded.effect store = effect := by
  cases statement with
  | assign name source =>
    refine ⟨?_, ?_⟩
    · intro means
      cases means with
      | assign evaluates =>
        rw [(Expr.evaluates_iff binds).1 evaluates]
        rfl
    · rintro rfl
      exact .assign ((Expr.evaluates_iff binds).2 rfl)
  | print items =>
    have whole : (Statement.print items).folded.effect store =
        .printed (items.map fun item => (item.folded.value store).display).flatten := by
      simp only [folded, Statement.effect, List.flatMap_def, List.map_map]
      rfl
    rw [whole]
    refine ⟨?_, ?_⟩
    · intro means
      cases means with
      | print all => rw [(Item.shows_all_iff binds).1 all]
    · rintro rfl
      exact .print ((Item.shows_all_iff binds).2 rfl)

end LineBasic
