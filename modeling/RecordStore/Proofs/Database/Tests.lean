import RecordStore.Proofs.Database.Cells
import RecordStore.Proofs.Typing.Filters
import RecordStore.Sql.Narrowing
import Mathlib.Data.List.TakeWhile

/-! # The clause of a test

The clause of a test is true of a stored row exactly when the value of the field passes the test.
Where it is not true it may be unknown; the caller takes unknown for false.

* `Value.bind_eval`, `bindAll_eval` say that a placeholder stands for what was bound to it, also when
  more has been bound since.
* `eval_contains`, `eval_startsWith`, `eval_endsWith` are about texts without NUL that are not longer
  than a database can count; `FieldTest.Faithful` asks that of the texts in a test.
* `FieldTest.eval_clause` puts the tests together.
-/

namespace RecordStore

/-! ## Parameters -/

variable {bound final : Bound} {row : StoredRow}

theorem Value.bind_eval (value : Value) (row : StoredRow) (later : (value.bind bound).2 <+: final) :
    (value.bind bound).1.eval final row = value.parameter.cell := by
  obtain ⟨rest, rfl⟩ := later
  simp [Value.bind, Scalar.eval]

theorem Value.bind_extends (value : Value) (bound : Bound) : bound <+: (value.bind bound).2 :=
  List.prefix_append bound _

theorem bindAll_extends (values : List Value) (bound : Bound) :
    bound <+: (bindAll values bound).2 := by
  induction values generalizing bound with
  | nil => exact List.prefix_rfl
  | cons value rest ih => exact (value.bind_extends bound).trans (ih _)

theorem bindAll_eval (values : List Value) (row : StoredRow)
    (later : (bindAll values bound).2 <+: final) :
    (bindAll values bound).1.map (fun item => item.eval final row)
      = values.map fun value => value.parameter.cell := by
  induction values generalizing bound with
  | nil => rfl
  | cons value rest ih =>
    have first : (value.bind bound).2 <+: final := (bindAll_extends rest _).trans later
    have others : (bindAll rest (value.bind bound).2).2 <+: final := later
    rw [bindAll, List.map_cons, List.map_cons, value.bind_eval row first, ih others]

/-! ## Comparisons -/

theorem amongCells_null {cells : List Cell} (nonempty : cells ≠ []) :
    Clause.amongCells .null cells = none := by
  cases cells with
  | nil => contradiction
  | cons cell rest =>
    clear nonempty
    induction rest generalizing cell with
    | nil => simp [Clause.amongCells, Comparison.eval, Cell.compare?_null_left, Truth.or]
    | cons next rest ih =>
      rw [Clause.amongCells, ih, Comparison.eval, Cell.compare?_null_left]
      rfl

/-- What a cell compares with, it is among or not; nothing is left unknown. -/
theorem amongCells_eq {cell : Cell} {value : Value} (present : value.isNull = false)
    {operands : List Value}
    (compares : ∀ operand ∈ operands, cell.compare? operand.parameter.cell = value.compare? operand ∧
      (value.compare? operand).isSome = true) :
    Clause.amongCells cell (operands.map fun operand => operand.parameter.cell)
      = some (operands.any value.same) := by
  induction operands with
  | nil => rfl
  | cons operand rest ih =>
    obtain ⟨⟨equal, isSome⟩, others⟩ := List.forall_mem_cons.1 compares
    obtain ⟨order, ordered⟩ := Option.isSome_iff_exists.1 isSome
    rw [List.map_cons, Clause.amongCells, ih others, Comparison.eval, equal, List.any_cons,
      Value.same, present, ordered]
    cases order <;> cases rest.any value.same <;> rfl

/-! ## Texts -/

theorem FieldKind.Holds.of_isText {kind : FieldKind} {value : Value} (held : kind.Holds value)
    (isText : kind.isText = true) :
    ∃ s, value = .string s ∧ kind.columnType.keep value.parameter.cell = .text s := by
  cases held <;> first | exact ⟨_, rfl, rfl⟩ | contradiction

/-- Whether a text has no NUL and is no longer than a database can count. -/
def PlainText (text : String) : Prop := '\x00' ∉ text.toList ∧ text.toList.length < 2 ^ 63

theorem Char.toLower_eq_nul {c : Char} : c.toLower = '\x00' ↔ c = '\x00' := by
  constructor
  · intro nul
    unfold Char.toLower at nul
    split at nul
    · next capital =>
      have value := congrArg (fun c : Char => c.val.toNat) nul
      have least : 'A'.val.toNat ≤ c.val.toNat := capital.1
      have most : c.val.toNat ≤ 'Z'.val.toNat := capital.2
      simp [UInt32.toNat_add] at value least most
      omega
    · exact nul
  · rintro rfl
    rfl

theorem CaseMode.length_view (mode : CaseMode) (text : String) :
    (mode.view text).length = text.toList.length := by
  cases mode
  · rfl
  · exact List.length_map _

theorem PlainText.visibleText_view {text : String} (plain : PlainText text) (mode : CaseMode) :
    visibleText (mode.view text) = mode.view text := by
  rw [visibleText, List.takeWhile_eq_self_iff]
  intro c member
  have notNul : c ≠ '\x00' := by
    rintro rfl
    cases mode with
    | sensitive => exact plain.1 member
    | insensitive =>
      obtain ⟨d, inText, lowered⟩ := List.mem_map.1 member
      rw [Char.toLower_eq_nul] at lowered
      exact plain.1 (lowered ▸ inText)
  simpa using notNul

theorem Cell.toInt_ofNat {n : Nat} (small : n < 2 ^ 63) : (Int64.ofNat n).toInt = n :=
  Int64.toInt_ofNat_of_lt small

/-- A scalar as a mode sees it, where the scalar is a text. -/
theorem eval_seenIn {operand : Scalar} {text : String} (mode : CaseMode)
    (evaluated : operand.eval final row = .text text) :
    (FieldTest.seenIn mode operand).eval final row = .text (String.ofList (mode.view text)) := by
  cases mode with
  | sensitive => rw [FieldTest.seenIn, evaluated, CaseMode.view, String.ofList_toList]
  | insensitive => simp [FieldTest.seenIn, Scalar.eval, evaluated, Cell.mapText, CaseMode.view]

theorem textPosition?_bounds {pattern subject : List Char} {n : Nat}
    (found : textPosition? pattern subject = some n) : 1 ≤ n ∧ n ≤ max 1 subject.length := by
  induction subject generalizing n with
  | nil =>
    rw [textPosition?, Option.ite_none_right_eq_some, Option.some.injEq] at found
    omega
  | cons c rest ih =>
    unfold textPosition? at found
    split at found
    · cases found
      exact ⟨le_rfl, le_max_left _ _⟩
    · next notHere =>
      obtain ⟨later, foundLater, rfl⟩ := Option.map_eq_some_iff.1 found
      have bounds := ih foundLater
      -- A pattern that does not stand at the front is not empty, so it is not found in nothing.
      have nonempty : rest ≠ [] := by
        rintro rfl
        cases pattern with
        | nil => exact notHere rfl
        | cons d pattern => simp [textPosition?] at foundLater
      have := List.length_pos_iff.2 nonempty
      simp only [List.length_cons]
      omega

theorem Cell.part_text {f : Nat → List Char → List Char} {text : List Char} {n : Nat}
    (small : n < 2 ^ 63) :
    Cell.part f (.text (String.ofList text)) (Cell.ofSize n)
      = .text (String.ofList (f n (visibleText text))) := by
  simp only [Cell.part, Cell.ofSize, Cell.toInt_ofNat small, Int.toNat_natCast,
    String.toList_ofList]

theorem Comparison.eval_equal_text (s t : List Char) :
    Comparison.equal.eval (.text (String.ofList s)) (.text (String.ofList t))
      = some (decide (s = t)) := by
  rw [Comparison.eval, Cell.compare?, Option.map_some, Option.some.injEq, Comparison.accepts,
    Bool.eq_iff_iff, beq_iff_eq, Std.LawfulEqOrd.compare_eq_iff_eq, decide_eq_true_iff]
  exact String.ofList_inj

section Patterns

variable {subject pattern : List Char} {a b : Scalar}
  (evalA : a.eval final row = .text (String.ofList subject))
  (evalB : b.eval final row = .text (String.ofList pattern))

include evalA evalB

theorem eval_contains (short : subject.length < 2 ^ 63) :
    (Clause.compare .greater (.instr a b) (.literal 0)).eval final row
      = some (occursIn pattern subject) := by
  have position : (Scalar.instr a b).eval final row
      = Cell.ofSize ((textPosition? pattern subject).getD 0) := by
    simp [Scalar.eval, evalA, evalB, Cell.mapText]
  rw [Clause.eval, position, ← textPosition_isSome]
  cases found : textPosition? pattern subject with
  | none => rfl
  | some n =>
    have bounds := textPosition?_bounds found
    have small : n < 2 ^ 63 := by omega
    have greater : compare (n : Int) 0 = .gt := compare_gt_iff_gt.2 (by omega)
    simp only [Option.getD_some, Cell.ofSize, Scalar.eval, Comparison.eval, Cell.compare?,
      Cell.toInt_ofNat small, Cell.toInt_ofNat (n := 0) (by decide), Option.map_some,
      Option.isSome_some, Nat.cast_zero, greater]
    rfl

omit evalA in
theorem eval_length (visible : visibleText pattern = pattern) :
    (Scalar.length b).eval final row = Cell.ofSize pattern.length := by
  simp [Scalar.eval, evalB, Cell.mapText, visible]

theorem eval_startsWith (visibleA : visibleText subject = subject)
    (visibleB : visibleText pattern = pattern) (short : pattern.length < 2 ^ 63) :
    (Clause.compare .equal (.front a (.length b)) b).eval final row
      = some (pattern.isPrefixOf subject) := by
  have front : (Scalar.front a (.length b)).eval final row
      = .text (String.ofList (subject.take pattern.length)) := by
    rw [Scalar.eval, eval_length evalB visibleB, evalA, Cell.part_text short, visibleA]
  rw [Clause.eval, front, evalB, Comparison.eval_equal_text, Option.some.injEq, Bool.eq_iff_iff,
    decide_eq_true_iff, List.isPrefixOf_iff_prefix, List.prefix_iff_eq_take]
  exact eq_comm

theorem eval_endsWith (visibleA : visibleText subject = subject)
    (visibleB : visibleText pattern = pattern) (short : pattern.length < 2 ^ 63)
    (nonempty : pattern ≠ []) :
    (Clause.compare .equal (.back a (.length b)) b).eval final row
      = some (pattern.isSuffixOf subject) := by
  have back : (Scalar.back a (.length b)).eval final row
      = .text (String.ofList (subject.drop (subject.length - pattern.length))) := by
    rw [Scalar.eval, eval_length evalB visibleB, evalA, Cell.part_text short, visibleA, lastChars,
      if_neg (by simpa using nonempty)]
  rw [Clause.eval, back, evalB, Comparison.eval_equal_text, Option.some.injEq, Bool.eq_iff_iff,
    decide_eq_true_iff, List.isSuffixOf_iff_suffix, List.suffix_iff_eq_drop]
  exact eq_comm

end Patterns

/-! ## Tests -/

namespace FieldTest

/-- Whether a database can be trusted with a test of a value: what the test compares can be compared
as stored, and what it searches and searches for are plain texts. -/
def Faithful (value : Value) : FieldTest → Prop
  | .equals operand | .gt operand | .gte operand | .lt operand | .lte operand =>
    value.ComparesAsStored operand
  | .oneOf operands | .noneOf operands => ∀ operand ∈ operands, value.ComparesAsStored operand
  | .contains pattern | .startsWith pattern | .endsWith pattern =>
    PlainText pattern.text ∧ ∀ subject, value = .string subject → PlainText subject

theorem clause_equals {operand : Value} (present : operand.isNull = false) (field : String)
    (bound : Bound) :
    (equals operand).clause field bound = comparisonClause .equal field operand bound := by
  cases operand <;> first | rfl | contradiction

section Comparisons

variable {field : String} {kind : FieldKind} {value operand : Value}

theorem comparisonClause_eval {comparison : Comparison}
    (later : (comparisonClause comparison field operand bound).2 <+: final) :
    (comparisonClause comparison field operand bound).1.eval final row
      = ((row.cellAt field).compare? operand.parameter.cell).map comparison.accepts := by
  have evaluated := operand.bind_eval row later
  simp only [comparisonClause, Clause.eval, evaluated]
  rfl

/-- A comparison with a value that is not null, and may be stored in a column. -/
theorem eval_comparisonClause {comparison : Comparison} (notDecimal : kind ≠ .decimal)
    (held : kind.Holds value) (operandHeld : kind.Holds operand)
    (faithful : value.ComparesAsStored operand)
    (cell : row.cellAt field = kind.columnType.keep value.parameter.cell)
    (later : (comparisonClause comparison field operand bound).2 <+: final) :
    (comparisonClause comparison field operand bound).1.eval final row
      = (value.compare? operand).map comparison.accepts := by
  rw [comparisonClause_eval later, cell,
    FieldKind.compare?_cell notDecimal held operandHeld faithful]

end Comparisons

section Patterns

variable {field : String} {pattern : Pattern} {test : Scalar → Scalar → Clause}

/-- A text test sees the text of the column and the pattern as its mode does. -/
theorem textClause_eval {subject : String}
    {result : Truth} (cell : row.cellAt field = .text subject)
    (tested : ∀ a b : Scalar,
      a.eval final row = .text (String.ofList (pattern.mode.view subject)) →
      b.eval final row = .text (String.ofList (pattern.mode.view pattern.text)) →
      (test a b).eval final row = result)
    (later : (textClause test field pattern bound).2 <+: final) :
    (textClause test field pattern bound).1.eval final row = result := by
  have operand := Value.bind_eval (.string pattern.text) row later
  exact tested _ _ (eval_seenIn pattern.mode cell) (eval_seenIn pattern.mode operand)

theorem eval_seenIn_null {operand : Scalar} (mode : CaseMode)
    (evaluated : operand.eval final row = .null) :
    (seenIn mode operand).eval final row = .null := by
  cases mode with
  | sensitive => exact evaluated
  | insensitive => rw [seenIn, Scalar.eval, evaluated]; rfl

variable {subject : String} (cell : row.cellAt field = .text subject)
  (plainSubject : PlainText subject) (plainPattern : PlainText pattern.text)

include cell plainSubject plainPattern

omit plainPattern in
theorem eval_clause_contains (later : ((contains pattern).clause field bound).2 <+: final) :
    ((contains pattern).clause field bound).1.eval final row
      = some ((contains pattern).passes (.string subject)) := by
  refine textClause_eval cell ?_ later
  intro a b evalA evalB
  refine eval_contains evalA evalB ?_
  rw [CaseMode.length_view]
  exact plainSubject.2

theorem eval_clause_startsWith (later : ((startsWith pattern).clause field bound).2 <+: final) :
    ((startsWith pattern).clause field bound).1.eval final row
      = some ((startsWith pattern).passes (.string subject)) := by
  refine textClause_eval cell ?_ later
  intro a b evalA evalB
  refine eval_startsWith evalA evalB (plainSubject.visibleText_view _)
    (plainPattern.visibleText_view _) ?_
  rw [CaseMode.length_view]
  exact plainPattern.2

theorem eval_clause_endsWith (later : ((endsWith pattern).clause field bound).2 <+: final) :
    ((endsWith pattern).clause field bound).1.eval final row
      = some ((endsWith pattern).passes (.string subject)) := by
  by_cases empty : pattern.text.isEmpty = true
  · have nothing : pattern.mode.view pattern.text = [] := by
      rw [← List.length_eq_zero_iff, CaseMode.length_view, List.length_eq_zero_iff,
        String.toList_eq_nil_iff]
      simpa using empty
    have passed : (endsWith pattern).passes (.string subject) = true := by
      simp [passes, textPasses, Value.text?, nothing, Value.isNull]
    rw [clause, if_pos empty, passed, Clause.eval, Scalar.eval, cell]
    rfl
  · rw [clause, if_neg empty] at later ⊢
    refine textClause_eval cell ?_ later
    intro a b evalA evalB
    refine eval_endsWith evalA evalB (plainSubject.visibleText_view _)
      (plainPattern.visibleText_view _) ?_ ?_
    · rw [CaseMode.length_view]
      exact plainPattern.2
    · rw [← List.length_pos_iff, CaseMode.length_view, List.length_pos_iff, Ne,
        String.toList_eq_nil_iff]
      simpa using empty

end Patterns

/-! ## Null -/

/-- On null, a test that fails is false or unknown. -/
theorem eval_clause_null {field : Field} {test : FieldTest} (suits : test.Suits field)
    (cell : row.cellAt field.name = .null)
    (later : (test.clause field.name bound).2 <+: final) :
    ((test.clause field.name bound).1.eval final row).getD false = test.passes .null := by
  have column : (Scalar.column field.name).eval final row = .null := cell
  have compared : ∀ comparison operand bound,
      (comparisonClause comparison field.name operand bound).2 <+: final →
      ((comparisonClause comparison field.name operand bound).1.eval final row).getD false
        = false := by
    intro comparison operand bound later
    rw [comparisonClause_eval later, cell, Cell.compare?_null_left]
    rfl
  cases test with
  | equals operand =>
    rcases suits with held | ⟨rfl, -⟩
    -- A value that is not null is not the same as null; null itself has a test of its own.
    · rw [clause_equals held.isNull_eq_false] at later ⊢
      rw [compared _ _ _ later, passes, Value.same_comm, Value.same_null_right,
        held.isNull_eq_false]
    · simp [clause, Clause.eval, column, passes, Cell.isNull]
  | gt operand | gte operand | lt operand | lte operand => exact compared _ _ _ later
  | contains pattern =>
    have subject := eval_seenIn_null pattern.mode column
    simp only [clause, textClause, Clause.eval, Scalar.eval, subject]
    rfl
  | startsWith pattern =>
    have subject := eval_seenIn_null pattern.mode column
    simp only [clause, textClause, Clause.eval, Scalar.eval, subject]
    rfl
  | endsWith pattern =>
    have subject := eval_seenIn_null pattern.mode column
    by_cases empty : pattern.text.isEmpty = true
    · simp only [clause, if_pos empty, Clause.eval, column]
      rfl
    · simp only [clause, if_neg empty, textClause, Clause.eval, Scalar.eval, subject]
      rfl
  | oneOf operands =>
    cases operands with
    | nil => rfl
    | cons operand rest =>
      have items := bindAll_eval (operand :: rest) row later
      simp only [clause, Clause.eval, column, items]
      -- Null is among no items and not among none: unknown, which counts as false.
      rw [amongCells_null (by simp)]
      rfl
  | noneOf operands =>
    cases operands with
    | nil => simp [clause, Clause.eval, column, passes, Cell.isNull]
    | cons operand rest =>
      simp only [clause, Clause.eval, Clause.evalAll, column]
      rfl

/-! ## Values -/

/-- On any other value, a test is true or false as the value passes it or not. -/
theorem eval_clause_held {field : Field} {test : FieldTest} {value : Value}
    (suits : test.Suits field) (notDecimal : field.kind ≠ .decimal) (held : field.kind.Holds value)
    (faithful : test.Faithful value)
    (cell : row.cellAt field.name = field.kind.columnType.keep value.parameter.cell)
    (later : (test.clause field.name bound).2 <+: final) :
    (test.clause field.name bound).1.eval final row = some (test.passes value) := by
  have present := held.isNull_eq_false
  -- A value that is not null is not null in its column, so no comparison is unknown.
  have columnNotNull : ((Scalar.column field.name).eval final row).isNull = false := by
    rw [Scalar.eval, cell, ColumnType.isNull_keep, Value.isNull_parameter_cell, present]
  have compares : ∀ operand, field.kind.Holds operand → value.ComparesAsStored operand →
      (row.cellAt field.name).compare? operand.parameter.cell = value.compare? operand ∧
        (value.compare? operand).isSome = true := by
    intro operand operandHeld operandFaithful
    rw [cell]
    exact ⟨FieldKind.compare?_cell notDecimal held operandHeld operandFaithful,
      FieldKind.isSome_compare? held operandHeld operandFaithful⟩
  have compared : ∀ comparison operand bound, field.kind.Holds operand →
      value.ComparesAsStored operand →
      (comparisonClause comparison field.name operand bound).2 <+: final →
      ∃ order, value.compare? operand = some order ∧
        (comparisonClause comparison field.name operand bound).1.eval final row
          = some (comparison.accepts order) := by
    intro comparison operand bound operandHeld operandFaithful later
    obtain ⟨equal, isSome⟩ := compares operand operandHeld operandFaithful
    obtain ⟨order, ordered⟩ := Option.isSome_iff_exists.1 isSome
    refine ⟨order, ordered, ?_⟩
    rw [comparisonClause_eval later, equal, ordered]
    rfl
  have asText : field.kind.isText = true →
      ∃ subject, value = .string subject ∧ row.cellAt field.name = .text subject :=
    fun isText => cell ▸ held.of_isText isText
  cases test with
  | equals operand =>
    rcases suits with operandHeld | ⟨rfl, -⟩
    · rw [clause_equals operandHeld.isNull_eq_false] at later ⊢
      obtain ⟨order, ordered, evaluated⟩ := compared _ _ _ operandHeld faithful later
      rw [evaluated, passes, Value.same, ordered, present]
      cases order <;> rfl
    · rw [clause, Clause.eval, columnNotNull, passes, Value.same_null_right, present]
  | gt operand | gte operand | lt operand | lte operand =>
    obtain ⟨order, ordered, evaluated⟩ := compared _ _ _ suits.2 faithful later
    simp only [clause, evaluated, passes, ordered, present]
    cases order <;> rfl
  | oneOf operands =>
    cases operands with
    | nil => simp [clause, Clause.eval, passes]
    | cons operand rest =>
      have items := bindAll_eval (operand :: rest) row later
      have among := amongCells_eq present fun other member =>
        compares other (suits other member) (faithful other member)
      simp only [clause, Clause.eval, items]
      rw [passes, present]
      exact among
  | noneOf operands =>
    cases operands with
    | nil => simp [clause, Clause.eval, passes, columnNotNull, present]
    | cons operand rest =>
      have items := bindAll_eval (operand :: rest) row later
      have among := amongCells_eq present fun other member =>
        compares other (suits other member) (faithful other member)
      have evaluated : ((noneOf (operand :: rest)).clause field.name bound).1.eval final row
          = Truth.and (some true)
              (Truth.and (Truth.not (some ((operand :: rest).any value.same))) (some true)) := by
        simp only [clause, Clause.eval, Clause.evalAll, items, columnNotNull]
        rw [← among]
        rfl
      rw [evaluated, passes, present]
      cases (operand :: rest).any value.same <;> rfl
  | contains pattern =>
    obtain ⟨subject, rfl, text⟩ := asText suits
    exact eval_clause_contains text (faithful.2 subject rfl) later
  | startsWith pattern =>
    obtain ⟨subject, rfl, text⟩ := asText suits
    exact eval_clause_startsWith text (faithful.2 subject rfl) faithful.1 later
  | endsWith pattern =>
    obtain ⟨subject, rfl, text⟩ := asText suits
    exact eval_clause_endsWith text (faithful.2 subject rfl) faithful.1 later

/-- A clause that takes unknown for false is true exactly of the values that pass. -/
theorem eval_clause {field : Field} {test : FieldTest} {value : Value} (suits : test.Suits field)
    (notDecimal : field.kind ≠ .decimal) (fits : field.kind.Fits value)
    (faithful : test.Faithful value)
    (cell : row.cellAt field.name = field.kind.columnType.keep value.parameter.cell)
    (later : (test.clause field.name bound).2 <+: final) :
    ((test.clause field.name bound).1.eval final row).getD false = test.passes value := by
  rcases fits with rfl | held
  · refine eval_clause_null suits ?_ later
    rw [cell]
    cases field.kind.columnType <;> rfl
  · rw [eval_clause_held suits notDecimal held faithful cell later]
    rfl

end FieldTest

end RecordStore
