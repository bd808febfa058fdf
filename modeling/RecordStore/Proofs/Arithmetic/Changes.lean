import RecordStore.Proofs.Arithmetic.Decimals
import RecordStore.Proofs.Memory.Tables

/-! # Relative changes fail for overflow only

A relative change that has been read is arithmetic on two numbers of the kind of its field, and does
not divide by zero.  What can still go wrong is that the result leaves the kind: `Overflows` says so of
the exact result, and of the machine's where the kind is that of doubles.

* `Value.arithmetic?_eq_none_iff` is the case of two values, one line for each kind of number;
  `integer?_of_arithmetic?` says that results on integers are exact.
* `relative_of_applied` is what an update makes of one field.
* `apply_fails_iff_overflow` puts both together for the row.
-/

namespace RecordStore

theorem int32?_eq_none_iff {n : Int} : int32? n = none ↔ n < -2 ^ 31 ∨ 2 ^ 31 ≤ n := by
  have outside : n < -2 ^ 31 ∨ 2 ^ 31 ≤ n ↔ ¬ (-2 ^ 31 ≤ n ∧ n < 2 ^ 31) := by omega
  rw [outside]
  simp [int32?]

theorem int64?_eq_none_iff {n : Int} : int64? n = none ↔ n < -2 ^ 63 ∨ 2 ^ 63 ≤ n := by
  have outside : n < -2 ^ 63 ∨ 2 ^ 63 ≤ n ↔ ¬ (-2 ^ 63 ≤ n ∧ n < 2 ^ 63) := by omega
  rw [outside]
  simp [int64?]

/-! ## Exact results -/

namespace Arithmetic

/-- The exact result on integers; a quotient is truncated. -/
def onIntegers : Arithmetic → Int → Int → Int
  | .add, a, b => a + b
  | .subtract, a, b => a - b
  | .multiply, a, b => a * b
  | .divide, a, b => a.tdiv b

/-- The exact result on rational numbers. -/
def onRationals : Arithmetic → ℚ → ℚ → ℚ
  | .add, p, q => p + q
  | .subtract, p, q => p - q
  | .multiply, p, q => p * q
  | .divide, p, q => p / q

/-- The result of the machine, which may be infinite or no number. -/
def onDoubles : Arithmetic → Double → Double → Double
  | .add, x, y => x + y
  | .subtract, x, y => x - y
  | .multiply, x, y => x * y
  | .divide, x, y => x / y

/-- Whether arithmetic on two numbers of one kind leaves the kind. -/
inductive Overflows (op : Arithmetic) : Value → Value → Prop
  | int {a b : Int32} (outside : op.onIntegers a.toInt b.toInt < -2 ^ 31 ∨
      2 ^ 31 ≤ op.onIntegers a.toInt b.toInt) : Overflows op (.int a) (.int b)
  | bigInt {a b : Int64} (outside : op.onIntegers a.toInt b.toInt < -2 ^ 63 ∨
      2 ^ 63 ≤ op.onIntegers a.toInt b.toInt) : Overflows op (.bigInt a) (.bigInt b)
  | float {x y : Double} (infinite : (op.onDoubles x y).isFinite = false) :
      Overflows op (.float x) (.float y)
  | decimal {x y : Decimal} (exceeds : Decimal.Exceeds (op.onRationals x.value y.value)) :
      Overflows op (.decimal x) (.decimal y)

variable {op : Arithmetic}

theorem onInt?_eq_some {a b : Int} (divisor : op = .divide → b ≠ 0) :
    op.onInt? a b = some (op.onIntegers a b) := by
  cases op with
  | divide => exact if_neg (divisor rfl)
  | _ => rfl

theorem onDouble?_eq_none_iff {x y : Double} (divisor : op = .divide → y.isZero = false) :
    op.onDouble? x y = none ↔ (op.onDoubles x y).isFinite = false := by
  have computed : op.onDouble? x y = (some (op.onDoubles x y)).filter (·.isFinite) := by
    cases op with
    | divide => simp only [onDouble?, divisor rfl, Bool.false_eq_true, if_false, onDoubles]
    | _ => rfl
  rw [computed, Option.filter_eq_none_iff]
  simp

theorem onDecimal?_eq_none_iff {x y : Decimal} (divisor : op = .divide → y.isZero = false) :
    op.onDecimal? x y = none ↔ Decimal.Exceeds (op.onRationals x.value y.value) := by
  cases op with
  | add => exact x.add?_eq_none_iff y
  | subtract => exact x.sub?_eq_none_iff y
  | multiply => exact x.mul?_eq_none_iff y
  | divide => exact x.div?_eq_none_iff (divisor rfl)

end Arithmetic

/-! ## Two values -/

namespace Value

variable {op : Arithmetic} {kind : FieldKind} {current operand result : Value}

/-- On two numbers of one kind arithmetic has a result unless it leaves the kind. -/
theorem arithmetic?_eq_none_iff (numeric : kind.isNumeric = true) (currentHeld : kind.Holds current)
    (operandHeld : kind.Holds operand)
    (divisor : op = .divide → Changes.isZeroValue operand = false) :
    arithmetic? op current operand = none ↔ op.Overflows current operand := by
  cases currentHeld <;> first | contradiction | skip
  all_goals cases operandHeld
  case int a b =>
    have nonzero : op = .divide → b.toInt ≠ 0 := fun divides zero => by
      have := divisor divides
      simp [Changes.isZeroValue, ← Int32.toInt_inj, zero] at this
    rw [arithmetic?, Arithmetic.onInt?_eq_some nonzero, Option.map_eq_none_iff, Option.bind_some,
      int32?_eq_none_iff]
    refine ⟨.int, fun overflows => ?_⟩
    cases overflows with
    | int outside => exact outside
  case bigInt a b =>
    have nonzero : op = .divide → b.toInt ≠ 0 := fun divides zero => by
      have := divisor divides
      simp [Changes.isZeroValue, ← Int64.toInt_inj, zero] at this
    rw [arithmetic?, Arithmetic.onInt?_eq_some nonzero, Option.map_eq_none_iff, Option.bind_some,
      int64?_eq_none_iff]
    refine ⟨.bigInt, fun overflows => ?_⟩
    cases overflows with
    | bigInt outside => exact outside
  case float x y =>
    rw [arithmetic?, Option.map_eq_none_iff, Arithmetic.onDouble?_eq_none_iff divisor]
    refine ⟨.float, fun overflows => ?_⟩
    cases overflows with
    | float infinite => exact infinite
  case decimal x y =>
    rw [arithmetic?, Option.map_eq_none_iff, Arithmetic.onDecimal?_eq_none_iff divisor]
    refine ⟨.decimal, fun overflows => ?_⟩
    cases overflows with
    | decimal exceeds => exact exceeds

/-- A result on integers is the exact one. -/
theorem integer?_of_arithmetic? (computed : arithmetic? op current operand = some result) {a : Int}
    (held : current.integer? = some a) :
    ∃ b, operand.integer? = some b ∧ result.integer? = some (op.onIntegers a b) := by
  have exact_of_some : ∀ {b c : Int}, op.onInt? a b = some c → c = op.onIntegers a b := by
    intro b c some
    cases op <;> first | exact (Option.some.inj some).symm | skip
    rw [Arithmetic.onInt?] at some
    split at some
    · contradiction
    · exact (Option.some.inj some).symm
  cases current <;> cases held <;> cases operand <;>
    simp only [arithmetic?, Option.map_eq_some_iff, Option.bind_eq_some_iff, int32?_eq_some,
      int64?_eq_some, reduceCtorEq] at computed
  all_goals
    obtain ⟨word, ⟨c, some, fitting⟩, rfl⟩ := computed
    exact ⟨_, rfl, congrArg Option.some (fitting.trans (exact_of_some some))⟩

end Value

/-! ## Changes of a row -/

/-- The same, where the field may also be null, which stays null. -/
theorem Change.Sound.arithmetic?_eq_none_iff {field : Field} {op : Arithmetic} {current operand : Value}
    (sound : (Change.relative op operand).Sound field) (fits : field.kind.Fits current) :
    Value.arithmetic? op current operand = none ↔ op.Overflows current operand := by
  obtain ⟨operandHeld, numeric, divisor⟩ := sound
  rcases fits with rfl | held
  · exact ⟨(nomatch ·), (nomatch ·)⟩
  · exact Value.arithmetic?_eq_none_iff numeric held operandHeld divisor

namespace Changes

variable {entity : Entity} {raw : Json} {changes : Changes} {row changed : Record}

/-- Whether one of the changes takes a field of a row beyond the kind of the field. -/
def Overflow (changes : Changes) (row : Record) : Prop :=
  ∃ name op operand, changes.byField.get? name = some (.relative op operand) ∧
    op.Overflows (row.valueAt name) operand

/-- What an update makes of a field under arithmetic: null stays null, every other value becomes one of
the kind of the field, and an integer becomes the exact result. -/
theorem relative_of_applied (applied : changes.apply row = .ok changed) {field : Field} {name : String}
    {op : Arithmetic} {operand : Value}
    (bound : changes.byField.get? name = some (.relative op operand))
    (sound : (Change.relative op operand).Sound field) (fits : field.kind.Fits (row.valueAt name)) :
    (row.valueAt name = .null → changed.valueAt name = .null) ∧
    (row.valueAt name ≠ .null → field.kind.Holds (changed.valueAt name)) ∧
    ∀ a, (row.valueAt name).integer? = some a → ∃ b, operand.integer? = some b ∧
      (changed.valueAt name).integer? = some (op.onIntegers a b) := by
  have made := (apply_makes applied).valueAt name
  simp only [bound, Change.apply] at made
  split at made
  · next value computed =>
    rw [← Except.ok.inj made]
    refine ⟨fun isNull => ?_, fun notNull => ?_, fun a held => ?_⟩
    · rw [isNull] at computed
      exact (Option.some.inj computed).symm
    · exact Value.arithmetic?_holds (fits.resolve_left notNull) sound.1 computed
    · exact Value.integer?_of_arithmetic? computed held
  · contradiction

/-- An update that has been read fails on a row whose fields have their kinds only because a number
overflows, and with the error that names the field: its changes are arithmetic on numbers of one kind,
by divisors that are not zero.  Where it does not fail, every field keeps its kind, null stays null, and
an integer becomes the exact sum, difference, product or truncated quotient. -/
theorem apply_fails_iff_overflow
    (read : Changes.read entity raw = .ok changes ∨ readAny entity raw = .ok changes)
    (fits : entity.Fits row) :
    (∀ name op operand, changes.byField.get? name = some (.relative op operand) →
      ∃ field, entity.field? name = some field ∧ field.kind.isNumeric = true ∧
        field.kind.Fits (row.valueAt name) ∧ field.kind.Holds operand ∧
        (op = .divide → isZeroValue operand = false)) ∧
    ((∃ error, changes.apply row = .error error) ↔ changes.Overflow row) ∧
    (∀ error, changes.apply row = .error error →
      ∃ name op operand, changes.byField.get? name = some (.relative op operand) ∧
        op.Overflows (row.valueAt name) operand ∧
        error = .query (.arithmetic (Change.operatorName op) name operand.text)) ∧
    ∀ changed, changes.apply row = .ok changed →
      entity.Fits changed ∧
      ∀ name op operand, changes.byField.get? name = some (.relative op operand) →
        (row.valueAt name = .null → changed.valueAt name = .null) ∧
        (row.valueAt name ≠ .null →
          ∃ field, entity.field? name = some field ∧ field.kind.Holds (changed.valueAt name)) ∧
        ∀ a, (row.valueAt name).integer? = some a → ∃ b, operand.integer? = some b ∧
          (changed.valueAt name).integer? = some (op.onIntegers a b) := by
  have readAny : readAny entity raw = .ok changes := read.elim readAny_of_read id
  have each := readAny_sound readAny
  have refused : ∀ error, changes.apply row = .error error →
      ∃ name op operand, changes.byField.get? name = some (.relative op operand) ∧
        op.Overflows (row.valueAt name) operand ∧
        error = .query (.arithmetic (Change.operatorName op) name operand.text) := by
    intro error refused
    obtain ⟨name, op, operand, bound, none, isError⟩ := apply_eq_error refused
    obtain ⟨field, found, sound⟩ := each name _ bound
    exact ⟨name, op, operand, bound, (sound.arithmetic?_eq_none_iff (fits name field found)).1 none,
      isError⟩
  have overflowing : changes.Overflow row → ∃ error, changes.apply row = .error error := by
    rintro ⟨name, op, operand, bound, overflows⟩
    obtain ⟨field, found, sound⟩ := each name _ bound
    cases applied : changes.apply row with
    | error error => exact ⟨error, rfl⟩
    | ok changed =>
      -- The result that the change has given is one that arithmetic does not have.
      have made := (apply_makes applied).valueAt name
      have none := (sound.arithmetic?_eq_none_iff (fits name field found)).2 overflows
      simp [bound, Change.apply, none] at made
  refine ⟨?_, ⟨?_, overflowing⟩, refused, ?_⟩
  · intro name op operand bound
    obtain ⟨field, found, operandHeld, numeric, divisor⟩ := each name _ bound
    exact ⟨field, found, numeric, fits name field found, operandHeld, divisor⟩
  · rintro ⟨error, failed⟩
    obtain ⟨name, op, operand, bound, overflows, -⟩ := refused error failed
    exact ⟨name, op, operand, bound, overflows⟩
  · intro changed applied
    refine ⟨apply_fits (readAny_fits readAny) fits applied, fun name op operand bound => ?_⟩
    obtain ⟨field, found, sound⟩ := each name _ bound
    obtain ⟨ofNull, ofOther, ofInteger⟩ :=
      relative_of_applied applied bound sound (fits name field found)
    exact ⟨ofNull, fun notNull => ⟨field, found, ofOther notNull⟩, ofInteger⟩

/-! ### A host with the least port -/

/-- Hosts with a port, and the sizes of their memories if these are known. -/
def hosts : Entity :=
  ⟨"Hosts", [.ofKind .int "Port", (Field.ofKind .bigInt "Memory").orNull,
    (Field.ofKind .bigInt "Swap").orNull], ["Port"]⟩

def leastHost : Record :=
  .ofList [("Port", .int (-2147483648)), ("Memory", .bigInt 7), ("Swap", .null)]

/-- The least port has no negative.  A negative half is truncated, and what is unknown stays so. -/
theorem leastHost_changed :
    (∃ error, Changes.apply
      ⟨.ofList [("Port", .relative .divide (.int (-1))), ("Swap", .set .null)]⟩ leastHost
        = .error error) ∧
    ∃ changed, Changes.apply
      ⟨.ofList [("Memory", .relative .divide (.bigInt (-2))), ("Swap", .relative .add (.bigInt 1))]⟩
        leastHost = .ok changed ∧
      hosts.Fits changed ∧ changed.valueAt "Swap" = .null ∧
      (changed.valueAt "Memory").integer? = some (-3) := by
  have fits : hosts.Fits leastHost := by
    intro name field found
    obtain ⟨member, rfl⟩ := Entity.mem_of_field? found
    simp only [hosts, List.mem_cons, List.not_mem_nil, or_false] at member
    rcases member with rfl | rfl | rfl
    · exact .inr (.int _)
    · exact .inr (.bigInt _)
    · exact .inl rfl
  constructor
  · have read : Changes.read hosts
        (.obj [("Port", .obj [("divide", .int (-1))]), ("Swap", .null)])
        = .ok ⟨.ofList [("Port", .relative .divide (.int (-1))), ("Swap", .set .null)]⟩ := by decide
    refine (apply_fails_iff_overflow (.inl read) fits).2.1.2 ⟨"Port", .divide, .int (-1), rfl, ?_⟩
    exact .int (.inr (by decide))
  · have read : readAny hosts
        (.obj [("Memory", .obj [("divide", .int (-2))]), ("Swap", .obj [("increment", .int 1)])])
        = .ok ⟨.ofList [("Memory", .relative .divide (.bigInt (-2))),
            ("Swap", .relative .add (.bigInt 1))]⟩ := by decide
    obtain ⟨-, -, -, succeeds⟩ := apply_fails_iff_overflow (.inr read) fits
    obtain ⟨changed, applied⟩ : ∃ changed, Changes.apply
        ⟨.ofList [("Memory", .relative .divide (.bigInt (-2))),
          ("Swap", .relative .add (.bigInt 1))]⟩ leastHost = .ok changed := ⟨_, rfl⟩
    obtain ⟨changedFits, made⟩ := succeeds changed applied
    obtain ⟨b, isDivisor, quotient⟩ := (made "Memory" .divide (.bigInt (-2)) rfl).2.2 7 rfl
    cases isDivisor
    exact ⟨changed, applied, changedFits, (made "Swap" .add (.bigInt 1) rfl).1 rfl, quotient⟩

end Changes

end RecordStore
