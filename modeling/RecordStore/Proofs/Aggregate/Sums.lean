import Mathlib.Algebra.BigOperators.Group.List.Lemmas
import Mathlib.Algebra.Order.BigOperators.Group.List
import RecordStore.Aggregate.Selector
import RecordStore.Proofs.Typing.Rows

/-! # Sums of integers

Integers are added one after the other, and a partial sum that leaves 64 bits is the end of it, whatever
comes behind.  A sum that is computed is exact; whether it is computed depends on the order of the rows,
unless all numbers have one sign.

`sums_sound` says which orders give the sum, that no two of them give different sums, and that there is
one that gives it if the sum fits.
-/

namespace RecordStore

/-- Whether an integer fits 64 bits. -/
def FitsWord (n : Int) : Prop := -2 ^ 63 ≤ n ∧ n < 2 ^ 63

instance (n : Int) : Decidable (FitsWord n) := inferInstanceAs (Decidable (_ ∧ _))

theorem int64?_of_fitsWord {n : Int} (fits : FitsWord n) :
    ∃ w : Int64, w.toInt = n ∧ int64? n = some w := by
  have some : int64? n = some (Int64.ofInt n) := if_pos fits
  exact ⟨_, int64?_eq_some.1 some, some⟩

theorem int64?_eq_none {n : Int} (beyond : ¬ FitsWord n) : int64? n = none := if_neg beyond

/-- Whether the partial sums fit 64 bits when integers are added to a total in turn. -/
def StaysInWord (total : Int) (ns : List Int) : Prop :=
  ∀ front, front <+: ns → FitsWord (total + front.sum)

theorem staysInWord_nil {total : Int} : StaysInWord total [] ↔ FitsWord total := by
  simp [StaysInWord]

theorem staysInWord_cons {total n : Int} {ns : List Int} :
    StaysInWord total (n :: ns) ↔ FitsWord total ∧ StaysInWord (total + n) ns := by
  constructor
  · intro stays
    refine ⟨by simpa using stays [] List.nil_prefix, fun front isFront => ?_⟩
    have behind := stays (n :: front) (List.cons_prefix_cons.2 ⟨rfl, isFront⟩)
    rwa [List.sum_cons, ← Int.add_assoc] at behind
  · rintro ⟨fits, stays⟩ front isFront
    rcases List.prefix_cons_iff.1 isFront with rfl | ⟨rest, rfl, isRest⟩
    · simpa using fits
    · rw [List.sum_cons, ← Int.add_assoc]
      exact stays rest isRest

theorem StaysInWord.fits {total : Int} {ns : List Int} (stays : StaysInWord total ns) :
    FitsWord total ∧ FitsWord (total + ns.sum) :=
  ⟨by simpa using stays [] List.nil_prefix, stays ns List.prefix_rfl⟩

theorem sum_nonpos {ns : List Int} (nonpos : ∀ n ∈ ns, n ≤ 0) : ns.sum ≤ 0 := by
  simpa using List.sum_le_card_nsmul ns 0 nonpos

/-! ## Orders -/

section Orders

variable {α : Type} {number : α → Int} {items : List α}

/-- Something can be added next if everything together can: a number of the other sign than the total,
or any number if there is none. -/
theorem exists_next (fits : ∀ item ∈ items, FitsWord (number item)) {total : Int}
    (fitsTotal : FitsWord total) (fitsSum : FitsWord (total + (items.map number).sum))
    (nonempty : items ≠ []) : ∃ item ∈ items, FitsWord (total + number item) := by
  obtain ⟨first, rest, rfl⟩ := List.exists_cons_of_ne_nil nonempty
  rw [List.map_cons, List.sum_cons] at fitsSum
  unfold FitsWord at fits fitsTotal fitsSum ⊢
  by_cases positive : 0 ≤ total
  · by_cases other : ∃ item ∈ first :: rest, number item ≤ 0
    · obtain ⟨item, member, negative⟩ := other
      have bounds := fits item member
      exact ⟨item, member, by omega⟩
    · push Not at other
      obtain ⟨here, there⟩ := List.forall_mem_cons.1 other
      have more : 0 ≤ (rest.map number).sum := List.sum_nonneg (by simpa using fun item member =>
        (there item member).le)
      exact ⟨first, List.mem_cons_self, by omega⟩
  · by_cases other : ∃ item ∈ first :: rest, 0 ≤ number item
    · obtain ⟨item, member, nonneg⟩ := other
      have bounds := fits item member
      exact ⟨item, member, by omega⟩
    · push Not at other
      obtain ⟨here, there⟩ := List.forall_mem_cons.1 other
      have less : (rest.map number).sum ≤ 0 := sum_nonpos (by simpa using fun item member =>
        (there item member).le)
      exact ⟨first, List.mem_cons_self, by omega⟩

theorem exists_perm_staysInWord (fits : ∀ item ∈ items, FitsWord (number item)) {total : Int}
    (fitsTotal : FitsWord total) (fitsSum : FitsWord (total + (items.map number).sum)) :
    ∃ other : List α, other.Perm items ∧ StaysInWord total (other.map number) := by
  induction length : items.length generalizing items total with
  | zero =>
    obtain rfl := List.length_eq_zero_iff.1 length
    exact ⟨[], .nil, staysInWord_nil.2 fitsTotal⟩
  | succ count ih =>
    obtain ⟨next, member, fitsNext⟩ :=
      exists_next fits fitsTotal fitsSum (List.ne_nil_of_length_eq_add_one length)
    obtain ⟨front, back, rfl⟩ := List.append_of_mem member
    have perm : (front ++ next :: back).Perm (next :: (front ++ back)) := List.perm_middle
    have fitsRest : ∀ item ∈ front ++ back, FitsWord (number item) := fun item inRest =>
      fits item (perm.mem_iff.2 (List.mem_cons_of_mem _ inRest))
    have sum : total + number next + ((front ++ back).map number).sum
        = total + ((front ++ next :: back).map number).sum := by
      rw [(perm.map number).sum_eq, List.map_cons, List.sum_cons, Int.add_assoc]
    obtain ⟨others, permOthers, stays⟩ :=
      ih fitsRest fitsNext (sum ▸ fitsSum) (by simp at length ⊢; omega)
    exact ⟨next :: others, (permOthers.cons next).trans perm.symm,
      staysInWord_cons.2 ⟨fitsTotal, stays⟩⟩

/-- Numbers of one sign do not come back from where they have gone. -/
theorem staysInWord_of_one_sign {ns : List Int} (sign : (∀ n ∈ ns, 0 ≤ n) ∨ ∀ n ∈ ns, n ≤ 0)
    (fitsSum : FitsWord ns.sum) : StaysInWord 0 ns := by
  rintro front ⟨back, rfl⟩
  rw [List.sum_append] at fitsSum
  unfold FitsWord at *
  rcases sign with nonneg | nonpos
  · obtain ⟨inFront, inBack⟩ := List.forall_mem_append.1 nonneg
    have frontSum := List.sum_nonneg inFront
    have backSum := List.sum_nonneg inBack
    omega
  · obtain ⟨inFront, inBack⟩ := List.forall_mem_append.1 nonpos
    have frontSum := sum_nonpos inFront
    have backSum := sum_nonpos inBack
    omega

end Orders

/-! ## Columns -/

namespace Selector

open Table (column)

variable {entity : Entity} {field : Field} {rows : Table}

/-- Integers are added up if the partial sums fit. -/
theorem sumIntegers?_eq_some_iff {values : List Value}
    (integral : ∀ value ∈ values, (value.integer?).isSome = true) {total : Int}
    (fits : FitsWord total) {sum : Int} :
    sumIntegers? total values = some sum ↔
      StaysInWord total (values.filterMap Value.integer?) ∧
        sum = total + (values.filterMap Value.integer?).sum := by
  induction values generalizing total with
  | nil => simp [sumIntegers?, staysInWord_nil, fits, eq_comm]
  | cons value rest ih =>
    obtain ⟨here, there⟩ := List.forall_mem_cons.1 integral
    obtain ⟨n, held⟩ := Option.isSome_iff_exists.1 here
    rw [sumIntegers?, held, List.filterMap_cons_some held, staysInWord_cons, List.sum_cons,
      ← Int.add_assoc]
    by_cases fitsNext : FitsWord (total + n)
    · obtain ⟨w, -, word⟩ := int64?_of_fitsWord fitsNext
      simp only [word, Option.isSome_some, if_true, ih there fitsNext, fits, true_and]
    · simp only [int64?_eq_none fitsNext, Option.isSome_none, Bool.false_eq_true, if_false]
      exact ⟨fun none => absurd none (by simp), fun both => absurd both.1.2.fits.1 fitsNext⟩

/-- The sum of integers is exact, and computed if and only if the partial sums fit. -/
theorem sumValues_of_integers {head : Value} {values : List Value} (member : head ∈ values)
    (integral : ∀ value ∈ values, value.integer?.isSome = true) (name : String) :
    let ns := values.filterMap Value.integer?
    (StaysInWord 0 ns →
      ∃ w : Int64, w.toInt = ns.sum ∧ sumValues name head values = .ok (.bigInt w)) ∧
    (¬ StaysInWord 0 ns → sumValues name head values = .error (.query (.sumOverflow name))) := by
  intro ns
  have zero : FitsWord 0 := by decide
  have added := fun sum => @sumIntegers?_eq_some_iff values integral 0 zero sum
  have headIntegral := integral head member
  have summed : ∀ sum? : Option Value, ((sumIntegers? 0 values).bind int64?).map .bigInt = sum? →
      sumValues name head values = sum?.elim (.error (.query (.sumOverflow name))) .ok := by
    rintro _ rfl
    unfold sumValues
    cases head <;> first | contradiction | (cases (sumIntegers? 0 values).bind int64? <;> rfl)
  constructor
  · intro stays
    obtain ⟨w, same, word⟩ := int64?_of_fitsWord (Int.zero_add ns.sum ▸ stays.fits.2)
    have computed := (added ns.sum).2 ⟨stays, (Int.zero_add _).symm⟩
    exact ⟨w, same, summed (some (.bigInt w)) (by rw [computed, Option.bind_some, word]; rfl)⟩
  · intro leaves
    have none : sumIntegers? 0 values = none := by
      rw [Option.eq_none_iff_forall_ne_some]
      exact fun sum computed => leaves ((added sum).1 computed).1
    exact summed Option.none (by rw [none]; rfl)

theorem filterMap_values (name : String) (rows : Table) :
    ((rows.map fun row => row.valueAt name).filter fun value => !value.isNull).filterMap
      Value.integer? = column rows name := by
  rw [List.filterMap_filter, List.filterMap_map]
  refine congrArg (rows.filterMap ·) (funext fun row => ?_)
  cases held : row.valueAt name <;> simp [Value.isNull, Value.integer?, held]

theorem isSome_integer? {kind : FieldKind} (integral : kind = .int ∨ kind = .bigInt) {value : Value}
    (holds : kind.Holds value) : value.integer?.isSome = true := by
  rcases integral with rfl | rfl <;> cases holds <;> rfl

/-- The sum of a column is that of the integers in it. -/
theorem compute_sum (found : entity.field? field.name = some field)
    (integral : field.kind = .int ∨ field.kind = .bigInt) (fits : ∀ row ∈ rows, entity.Fits row)
    (nonempty : column rows field.name ≠ []) :
    (StaysInWord 0 (column rows field.name) →
      ∃ w : Int64, w.toInt = (column rows field.name).sum ∧
        sum.compute field.name rows = .ok (.bigInt w)) ∧
    (¬ StaysInWord 0 (column rows field.name) →
      sum.compute field.name rows = .error (.query (.sumOverflow field.name))) := by
  have ofColumn := filterMap_values field.name rows
  have integers : ∀ value ∈ (rows.map fun row => row.valueAt field.name).filter fun value =>
      !value.isNull, value.integer?.isSome = true := by
    intro value member
    obtain ⟨inRows, present⟩ := List.mem_filter.1 member
    obtain ⟨row, stored, rfl⟩ := List.mem_map.1 inRows
    exact isSome_integer? integral ((fits row stored _ _ found).holds (by simpa using present))
  unfold compute
  simp only
  generalize (rows.map fun row => row.valueAt field.name).filter (fun value => !value.isNull)
    = values at ofColumn integers
  cases values with
  | nil => exact absurd ofColumn.symm nonempty
  | cons head rest =>
    rw [← ofColumn]
    exact sumValues_of_integers List.mem_cons_self integers field.name

/-! ## Rows in other orders -/

theorem fitsWord_of_integer? {value : Value} {n : Int} (held : value.integer? = some n) :
    FitsWord n := by
  cases value with
  | int w =>
    cases held
    have low := w.le_toInt
    have high := w.toInt_lt
    unfold FitsWord
    omega
  | bigInt w =>
    cases held
    exact ⟨w.le_toInt, w.toInt_lt⟩
  | _ => contradiction

/-- What a row adds to the sum of a field. -/
def addend (name : String) (row : Record) : Int := (row.valueAt name).integer?.getD 0

theorem addend_cases (name : String) (row : Record) (rows : Table) :
    (addend name row = 0 ∧ column (row :: rows) name = column rows name) ∨
      column (row :: rows) name = addend name row :: column rows name := by
  unfold addend column
  cases held : (row.valueAt name).integer? with
  | none => exact .inl ⟨rfl, List.filterMap_cons_none held⟩
  | some n => exact .inr (List.filterMap_cons_some held)

theorem fitsWord_addend (name : String) (row : Record) : FitsWord (addend name row) := by
  unfold addend
  cases held : (row.valueAt name).integer? with
  | none => decide
  | some n => exact fitsWord_of_integer? held

theorem sum_addends (name : String) (rows : Table) :
    (rows.map (addend name)).sum = (column rows name).sum := by
  induction rows with
  | nil => rfl
  | cons row rest ih =>
    rw [List.map_cons, List.sum_cons, ih]
    rcases addend_cases name row rest with ⟨nothing, same⟩ | more
    · rw [nothing, same, Int.zero_add]
    · rw [more, List.sum_cons]

/-- Rows without a number add nothing. -/
theorem staysInWord_addends_iff (name : String) (rows : Table) {total : Int} (fits : FitsWord total) :
    StaysInWord total (rows.map (addend name)) ↔ StaysInWord total (column rows name) := by
  induction rows generalizing total with
  | nil => rfl
  | cons row rest ih =>
    rw [List.map_cons, staysInWord_cons]
    rcases addend_cases name row rest with ⟨nothing, same⟩ | more
    · rw [nothing, same, Int.add_zero, ih fits]
      exact and_iff_right fits
    · rw [more, staysInWord_cons]
      refine and_congr_right fun _ => ?_
      by_cases fitsNext : FitsWord (total + addend name row)
      · exact ih fitsNext
      · exact ⟨fun stays => absurd stays.fits.1 fitsNext, fun stays => absurd stays.fits.1 fitsNext⟩

theorem exists_perm_column (name : String) (rows : Table) (fitsSum : FitsWord (column rows name).sum) :
    ∃ other : Table, other.Perm rows ∧ StaysInWord 0 (column other name) := by
  have zero : FitsWord 0 := by decide
  rw [← sum_addends, ← Int.zero_add (List.sum _)] at fitsSum
  obtain ⟨other, perm, stays⟩ :=
    exists_perm_staysInWord (fun row _ => fitsWord_addend name row) zero fitsSum
  exact ⟨other, perm, (staysInWord_addends_iff name other zero).1 stays⟩

/-- A sum that is computed is exact, and it is computed if and only if every partial sum fits.  Of rows
in other orders a sum is computed to the same, if it is computed; if it fits, there is an order in which
it is; and if all numbers have one sign, it is computed in every order or in none. -/
theorem sums_sound (found : entity.field? field.name = some field)
    (integral : field.kind = .int ∨ field.kind = .bigInt) (fits : ∀ row ∈ rows, entity.Fits row)
    (nonempty : column rows field.name ≠ []) :
    let ns := column rows field.name
    let computed (rows : Table) : Prop := ∃ value, sum.compute field.name rows = .ok value
    (StaysInWord 0 ns →
      ∃ w : Int64, w.toInt = ns.sum ∧ sum.compute field.name rows = .ok (.bigInt w)) ∧
    (¬ StaysInWord 0 ns →
      sum.compute field.name rows = .error (.query (.sumOverflow field.name))) ∧
    (∀ other : Table, other.Perm rows → computed rows → computed other →
      sum.compute field.name other = sum.compute field.name rows) ∧
    (FitsWord ns.sum → ∃ other : Table, other.Perm rows ∧ computed other) ∧
    ((∀ n ∈ ns, 0 ≤ n) ∨ (∀ n ∈ ns, n ≤ 0) →
      ∀ other : Table, other.Perm rows → (computed other ↔ FitsWord ns.sum)) := by
  intro ns computed
  have columns : ∀ other : Table, other.Perm rows → (column other field.name).Perm ns :=
    fun other perm => perm.filterMap _
  have sums : ∀ other : Table, other.Perm rows →
      (StaysInWord 0 (column other field.name) →
        ∃ w : Int64, w.toInt = ns.sum ∧ sum.compute field.name other = .ok (.bigInt w)) ∧
      (¬ StaysInWord 0 (column other field.name) →
        sum.compute field.name other = .error (.query (.sumOverflow field.name))) := by
    intro other perm
    rw [← (columns other perm).sum_eq]
    refine compute_sum found integral (fun row stored => fits row (perm.subset stored)) ?_
    intro empty
    exact nonempty (List.perm_nil.1 (empty ▸ (columns other perm).symm))
  have computed_iff : ∀ other : Table, other.Perm rows →
      (computed other ↔ StaysInWord 0 (column other field.name)) := by
    intro other perm
    refine ⟨?_, fun stays => ?_⟩
    · rintro ⟨value, succeeded⟩
      by_contra leaves
      rw [(sums other perm).2 leaves] at succeeded
      contradiction
    · obtain ⟨w, -, succeeded⟩ := (sums other perm).1 stays
      exact ⟨_, succeeded⟩
  obtain ⟨exact', overflows⟩ := sums rows (.refl rows)
  refine ⟨exact', overflows, ?_, ?_, ?_⟩
  · intro other perm here there
    obtain ⟨w, sumHere, first⟩ := exact' ((computed_iff rows (.refl rows)).1 here)
    obtain ⟨w', sumThere, second⟩ := (sums other perm).1 ((computed_iff other perm).1 there)
    rw [first, second, Int64.toInt_inj.1 (sumThere.trans sumHere.symm)]
  · intro fitsSum
    obtain ⟨other, perm, stays⟩ := exists_perm_column field.name rows fitsSum
    exact ⟨other, perm, (computed_iff other perm).2 stays⟩
  · intro sign other perm
    have total : (column other field.name).sum = ns.sum := (columns other perm).sum_eq
    have signOther : (∀ n ∈ column other field.name, 0 ≤ n) ∨
        ∀ n ∈ column other field.name, n ≤ 0 :=
      sign.imp (fun nonneg n member => nonneg n ((columns other perm).subset member))
        fun nonpos n member => nonpos n ((columns other perm).subset member)
    rw [computed_iff other perm, ← total]
    refine ⟨fun stays => ?_, staysInWord_of_one_sign signOther⟩
    rw [← Int.zero_add (List.sum _)]
    exact stays.fits.2

/-! ## Transfers that cancel each other -/

def transferAmount : Field := .ofKind .bigInt "Amount"

def transfers : Entity := ⟨"Transfers", [.ofKind .int "Id", transferAmount], ["Id"]⟩

def transfer (id : Int32) (amount : Int64) : Record :=
  .ofList [("Id", .int id), ("Amount", .bigInt amount)]

theorem transfer_fits (id : Int32) (amount : Int64) : transfers.Fits (transfer id amount) := by
  have withId : transfers.Fits (FieldMap.empty.insert "Id" (.int id)) :=
    @Entity.Fits.insert_field transfers _ transfers.fits_empty (.ofKind .int "Id") rfl _
      (.inr (.int id))
  exact @Entity.Fits.insert_field transfers _ withId transferAmount rfl _ (.inr (.bigInt amount))

/-- All that there can be, one more, and one less. -/
def threeTransfers : Table :=
  [transfer 1 Int64.maxValue, transfer 2 1, transfer 3 (-1)]

theorem threeTransfers_fit : ∀ row ∈ threeTransfers, transfers.Fits row := by
  intro row member
  simp only [threeTransfers, List.mem_cons, List.not_mem_nil, or_false] at member
  rcases member with rfl | rfl | rfl <;> exact transfer_fits _ _

/-- There is no sum in the order of the table, but there is one in another order. -/
theorem threeTransfers_summed :
    sum.compute "Amount" threeTransfers = .error (.query (.sumOverflow "Amount")) ∧
    ∃ other : Table, other.Perm threeTransfers ∧
      ∃ value, sum.compute "Amount" other = .ok value := by
  obtain ⟨-, overflows, -, reordered, -⟩ := @sums_sound transfers transferAmount threeTransfers rfl
    (.inr rfl) threeTransfers_fit (by decide +kernel)
  refine ⟨overflows fun stays => ?_, reordered (by decide +kernel)⟩
  exact absurd (stays [9223372036854775807, 1] (by decide +kernel)) (by decide)

/-- The sum fits, but it is refused in one order and computed in another. -/
theorem threeTransfers_overflow :
    (∀ row ∈ threeTransfers, transfers.Fits row) ∧
    FitsWord (column threeTransfers "Amount").sum ∧
    sum.compute "Amount" threeTransfers = .error (.query (.sumOverflow "Amount")) ∧
    sum.compute "Amount" threeTransfers.reverse = .ok (.bigInt Int64.maxValue) :=
  ⟨threeTransfers_fit, by decide +kernel, by decide +kernel, by decide +kernel⟩

end Selector

end RecordStore
