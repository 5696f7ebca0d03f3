import LineBasic.Proofs.History

/-!
# Lines of one name and one value

Two of the shortest lines there are: `LET name = source` and `PRINT item`, with
one blank between tokens. They are spelled as the grammar asks
(`derivesLine_letLine`, `derivesLine_printLine`), so what they do to any store
follows from the grammar alone.

* **assignment** — a literal goes into the store under the name
  (`outcome_letLine`, `store_letLine`);
* **output** — the value of a name that has one is printed
  (`outcome_printLine_name`), and so is a literal (`outcome_printLine_number`).
-/

namespace LineBasic

/-- The line `LET name = source`. -/
def letLine (name source : Text) : Text := "LET ".toList ++ (name ++ (" = ".toList ++ source))

/-- The line `PRINT item`. -/
def printLine (item : Text) : Text := "PRINT ".toList ++ item

/-! ## Spelling -/

theorem Gap.refl (t : Text) : Gap t t := ⟨[], by simp, rfl⟩

theorem Gap.blank (t : Text) : Gap (' ' :: t) t := ⟨[' '], by simp; decide +kernel, rfl⟩

theorem keyword_letLine (name source : Text) :
    Keyword (letLine name source) ['l', 'e', 't'] (' ' :: (name ++ (" = ".toList ++ source))) :=
  ⟨"LET".toList, .refl _,
    ⟨'L', ['E', 'T'], rfl, by decide +kernel, List.all_eq_true.1 (by decide +kernel)⟩,
    stops_cons.2 (by decide +kernel), by decide +kernel⟩

theorem keyword_printLine (item : Text) :
    Keyword (printLine item) ['p', 'r', 'i', 'n', 't'] (' ' :: item) :=
  ⟨"PRINT".toList, .refl _,
    ⟨'P', ['R', 'I', 'N', 'T'], rfl, by decide +kernel, List.all_eq_true.1 (by decide +kernel)⟩,
    stops_cons.2 (by decide +kernel), by decide +kernel⟩

theorem derivesLine_letLine {name source : Text} {e : Expr} (isName : IsName name)
    (sum : Derives (.grouped .sum) source e []) :
    DerivesLine (letLine name source) (.assign name e) :=
  .assign (keyword_letLine name source) (.blank _) isName (.blank _) (.blank _) sum (.refl _)

theorem derivesLine_printLine {item : Text} {e : Expr}
    (sum : Derives (.grouped .sum) item e []) :
    DerivesLine (printLine item) (.print [.expr e]) :=
  .print (keyword_printLine item) (.blank _) (.last (.expr sum) (.refl _))

/-- A factor alone is a sum. -/
theorem Derives.sum_of_factor {s t : Text} {e : Expr} (factor : Derives .factor s e t) :
    Derives (.grouped .sum) s e t :=
  .operands (.operands factor .done) .done

theorem derives_number {digits : Text} (isNumber : IsNumber digits) :
    Derives (.grouped .sum) digits (.number digits) [] := by
  have factor := Derives.number (t := []) isNumber
  rw [List.append_nil] at factor
  exact factor.sum_of_factor

theorem derives_name {name : Text} (isName : IsName name) :
    Derives (.grouped .sum) name (.variable name) [] := by
  have factor := Derives.name (t := []) isName
  rw [List.append_nil] at factor
  exact factor.sum_of_factor

/-! ## Effect -/

section

variable {name digits : Text} {x : Float} (store : Store)

theorem Store.binds_nil : store.Binds [] := by
  intro word member
  cases member

/-- A line that gives a variable the value of a literal does so. -/
theorem outcome_letLine (isName : IsName name) (isNumber : IsNumber digits) :
    (execute store (letLine name digits)).outcome =
      .ok (.assigned (fold name) (literalValue digits)) := by
  have accepted : Accepted store (letLine name digits) (.assign name (.number digits)) :=
    ⟨derivesLine_letLine isName (derives_number isNumber), Nat.zero_le _, store.binds_nil⟩
  exact accepted.outcome (.assign (Expr.evaluates_number_iff.2 rfl))

theorem Store.assign_fold (name : Text) (x : Float) :
    store.assign (fold name) x = store.assign name x := by
  unfold assign
  simp only [fold_fold]

theorem store_letLine (isName : IsName name) (isNumber : IsNumber digits) :
    (execute store (letLine name digits)).store = store.assign name (literalValue digits) := by
  rw [store_execute, outcome_letLine store isName isNumber]
  exact store.assign_fold name _

/-- An expression that stands alone in a `PRINT` line is printed. -/
theorem outcome_printLine {item : Text} {e : Expr} (sum : Derives (.grouped .sum) item e [])
    (nesting : e.nesting ≤ nestingLimit) (bound : store.Binds e.names)
    (evaluates : e.Evaluates store x) :
    (execute store (printLine item)).outcome = .ok (.printed (displayNumber x)) := by
  have accepted : Accepted store (printLine item) (.print [.expr e]) := by
    refine ⟨derivesLine_printLine sum, ?_, ?_⟩
    · simpa [Statement.nesting, Item.nesting] using nesting
    · simpa [Statement.names, Item.names] using bound
  have means : (Statement.print [.expr e]).Means store (.printed [displayNumber x].flatten) :=
    .print (.cons (.number evaluates) .nil)
  rw [List.flatten_singleton] at means
  exact accepted.outcome means

theorem outcome_printLine_name (isName : IsName name) (found : store.get? name = some x) :
    (execute store (printLine name)).outcome = .ok (.printed (displayNumber x)) := by
  refine outcome_printLine store (derives_name isName) (Nat.zero_le _) ?_ (.name found)
  intro word member
  rw [List.mem_singleton.1 member, Store.isSet, found]
  rfl

/-- A name that is printed has a value. -/
theorem isSet_of_printLine {effect : Effect} (isName : IsName name)
    (done : (execute store (printLine name)).outcome = .ok effect) : store.isSet name = true := by
  obtain ⟨statement, accepted, _⟩ := accepted_of_outcome done
  obtain rfl := accepted.spelled.unique (derivesLine_printLine (derives_name isName))
  exact accepted.bound name (by simp [Statement.names, Item.names, Expr.names])

theorem outcome_printLine_number (isNumber : IsNumber digits) :
    (execute store (printLine digits)).outcome =
      .ok (.printed (displayNumber (literalValue digits))) :=
  outcome_printLine store (derives_number isNumber) (Nat.zero_le _) store.binds_nil
    (Expr.evaluates_number_iff.2 rfl)

end

end LineBasic
