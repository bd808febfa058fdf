import RecordStore.Proofs.Aggregate.Groups
import RecordStore.Proofs.Query.Windows
import RecordStore.Proofs.RoundTrip.Records
import RecordStore.Proofs.RoundTrip.Texts

/-! # Duplicates are told by their texts

Rows are distinct, and rows are grouped, by the texts of their values.  The texts of two admitted
values are the same if and only if the values are equal (`distinctKey_eq_iff`), which is narrower than
the equality of filters: two decimals of one number may have different scales, and zeros different
signs.  `same_iff` says that this is the only difference.

`duplicates_sound` says what remains of the equality of filters: a row that is dropped is the same as an
earlier one, and two rows that are kept, or two groups, are the same only if some value of one of them
is that of the other in a different spelling.
-/

namespace RecordStore

/-! ## Spellings -/

namespace Value

/-- Whether two values are one number in two spellings: decimals of different scales or signs, or the
two zeros among the doubles. -/
def Respelled : Value → Value → Prop
  | .decimal x, .decimal y => x ≠ y ∧ x.value = y.value
  | .float x, .float y => x ≠ y ∧ x.isZero = true ∧ y.isZero = true
  | _, _ => False

theorem Respelled.ne {a b : Value} (respelled : Respelled a b) : a ≠ b := by
  rintro rfl
  cases a with
  | decimal | float => exact respelled.1 rfl
  | _ => exact respelled

end Value

theorem Decimal.compare_eq_iff {x y : Decimal} : x.compare y = .eq ↔ x.value = y.value := by
  rw [compare_eq_compare_value, compare_eq_iff_eq]

/-- Doubles with one key are equal or zeros. -/
theorem Double.key_eq_iff {x y : Double} :
    x.key = y.key ↔ x = y ∨ x ≠ y ∧ x.isZero = true ∧ y.isZero = true := by
  simp only [isZero, decide_eq_true_eq]
  constructor
  · intro equal
    by_cases same : x = y
    · exact .inl same
    · refine .inr ⟨same, ?_⟩
      unfold key at equal
      by_cases signs : x.negative = y.negative
      · refine absurd (ext_parts signs ?_) same
        rw [signs] at equal
        split at equal <;> omega
      · cases signX : x.negative <;> cases signY : y.negative <;> simp_all
  · rintro (rfl | ⟨-, zeroX, zeroY⟩)
    · rfl
    · simp [key, zeroX, zeroY]

/-- Values of a kind are the same where they are equal, and where one is the other respelled. -/
theorem FieldKind.Admits.same_iff {kind : FieldKind} {a b : Value} (admitsA : kind.Admits a)
    (admitsB : kind.Admits b) : a.same b = true ↔ a = b ∨ a.Respelled b := by
  rw [Value.same_iff_of_isNull_eq_false admitsA.holds.isNull_eq_false]
  cases admitsA with
  | float finite =>
    cases admitsB with
    | float finite' =>
      simp [Value.compare?, Value.text?, Value.integer?, Value.toDouble?, Double.compare?,
        Double.isNaN_of_isFinite finite, Double.isNaN_of_isFinite finite', Double.key_eq_iff,
        Value.Respelled]
  | decimal x =>
    cases admitsB with
    | decimal y =>
      simp only [Value.compare?, Option.some.injEq, Decimal.compare_eq_iff, Value.decimal.injEq,
        Value.Respelled]
      by_cases same : x = y <;> simp [same]
  | dateTime t =>
    cases admitsB
    simp [Value.compare?, Timestamp.compare_eq_iff, Value.Respelled]
  | int m =>
    cases admitsB
    simp [Value.compare?, Value.text?, Value.integer?, Value.Respelled, Int32.toInt_inj]
  | bigInt m =>
    cases admitsB
    simp [Value.compare?, Value.text?, Value.integer?, Value.Respelled, Int64.toInt_inj]
  | string | enumeration | boolean =>
    cases admitsB
    simp [Value.compare?, Value.text?, Value.Respelled]

theorem Field.Admits.same_iff {field : Field} {a b : Value} (admitsA : field.Admits a)
    (admitsB : field.Admits b) : a.same b = true ↔ a = b ∨ a.Respelled b := by
  have nullIff : ∀ {value : Value},
      value.same .null = true ↔ value = .null ∨ value.Respelled .null := by
    intro value
    rw [Value.same_null_right, Value.isNull_iff]
    cases value <;> simp [Value.Respelled]
  rcases admitsA with ⟨rfl, -⟩ | heldA <;> rcases admitsB with ⟨rfl, -⟩ | heldB
  · simp
  · rw [Value.same_comm, nullIff, eq_comm]
    cases b <;> simp [Value.Respelled]
  · exact nullIff
  · exact heldA.same_iff heldB

/-! ## Keys -/

/-- Whether two rows have values that are the same on some fields. -/
def SameOn (fields : List String) (a b : Record) : Prop :=
  ∀ name ∈ fields, (a.valueAt name).same (b.valueAt name) = true

instance (fields : List String) (a b : Record) : Decidable (SameOn fields a b) :=
  inferInstanceAs (Decidable (∀ name ∈ fields, (a.valueAt name).same (b.valueAt name) = true))

/-- Whether two rows that are the same on some fields have a value in two spellings there. -/
def SameOnlyRespelled (fields : List String) (a b : Record) : Prop :=
  SameOn fields a b → ∃ name ∈ fields, (a.valueAt name).Respelled (b.valueAt name)

/-- Whether the values on some fields are those of a row of an entity. -/
def ShowsRow (entity : Entity) (fields : List String) (shown : Record) : Prop :=
  ∃ row, entity.WellTyped row ∧ ∀ name ∈ fields, shown.valueAt name = row.valueAt name

namespace ShowsRow

variable {entity : Entity} {fields : List String} {a b : Record}

theorem of_wellTyped (fields : List String) (wellTyped : entity.WellTyped a) :
    ShowsRow entity fields a := ⟨a, wellTyped, fun _ _ => rfl⟩

/-- A name stands for a field, which admits the values of both, or for nothing. -/
theorem admits (showsA : ShowsRow entity fields a) (showsB : ShowsRow entity fields b) {name : String}
    (listed : name ∈ fields) :
    (a.valueAt name = .null ∧ b.valueAt name = .null) ∨
      ∃ field : Field, field.Admits (a.valueAt name) ∧ field.Admits (b.valueAt name) := by
  obtain ⟨rowA, wellTypedA, valuesA⟩ := showsA
  obtain ⟨rowB, wellTypedB, valuesB⟩ := showsB
  rw [valuesA name listed, valuesB name listed]
  by_cases known : name ∈ entity.fieldNames
  · obtain ⟨field, member, rfl⟩ := Entity.mem_fieldNames.1 known
    exact .inr ⟨field, wellTypedA.admits field member, wellTypedB.admits field member⟩
  · have absent : ∀ {row : Record}, entity.WellTyped row → row.valueAt name = .null := by
      intro row wellTyped
      have missing := (wellTyped.names name).not.2 known
      rw [FieldMap.contains, Option.isSome_iff_ne_none, not_not] at missing
      rw [FieldMap.valueAt, missing, Option.getD_none]
    exact .inl ⟨absent wellTypedA, absent wellTypedB⟩

theorem same_iff (showsA : ShowsRow entity fields a) (showsB : ShowsRow entity fields b)
    {name : String} (listed : name ∈ fields) :
    (a.valueAt name).same (b.valueAt name) = true ↔
      a.valueAt name = b.valueAt name ∨ (a.valueAt name).Respelled (b.valueAt name) := by
  rcases showsA.admits showsB listed with ⟨nullA, nullB⟩ | ⟨field, admitsA, admitsB⟩
  · simp [nullA, nullB]
  · exact admitsA.same_iff admitsB

/-- The keys of two rows are the same if and only if the rows have equal values. -/
theorem distinctKey_eq_iff (showsA : ShowsRow entity fields a) (showsB : ShowsRow entity fields b) :
    distinctKey fields a = distinctKey fields b ↔
      ∀ name ∈ fields, a.valueAt name = b.valueAt name := by
  rw [distinctKey, distinctKey, List.map_inj_left]
  refine forall₂_congr fun name listed => ?_
  rcases showsA.admits showsB listed with ⟨nullA, nullB⟩ | ⟨field, admitsA, admitsB⟩
  · simp [nullA, nullB]
  · exact admitsA.compact_toJson_inj admitsB

theorem sameOn_of_distinctKey_eq (showsA : ShowsRow entity fields a)
    (showsB : ShowsRow entity fields b) (equal : distinctKey fields a = distinctKey fields b) :
    SameOn fields a b := fun name listed =>
  (showsA.same_iff showsB listed).2 (.inl ((showsA.distinctKey_eq_iff showsB).1 equal name listed))

theorem sameOnlyRespelled_of_distinctKey_ne (showsA : ShowsRow entity fields a)
    (showsB : ShowsRow entity fields b) (different : distinctKey fields a ≠ distinctKey fields b) :
    SameOnlyRespelled fields a b := by
  intro same
  by_contra none
  refine different ((showsA.distinctKey_eq_iff showsB).2 fun name listed => ?_)
  rcases (showsA.same_iff showsB listed).1 (same name listed) with equal | respelled
  · exact equal
  · exact absurd ⟨name, listed, respelled⟩ none

end ShowsRow

/-! ## Rows that are kept -/

section Kept

variable {fields : List String}

theorem firstOfEach_concat (seen : List (List String)) (rows : List Record) (row : Record) :
    firstOfEach fields seen (rows ++ [row]) = firstOfEach fields seen rows ++
      if distinctKey fields row ∈ seen ∨ ∃ earlier ∈ rows, distinctKey fields earlier =
        distinctKey fields row then [] else [row] := by
  induction rows generalizing seen with
  | nil => simp [firstOfEach]
  | cons first rest ih =>
    rw [List.cons_append, firstOfEach, firstOfEach]
    by_cases repeated : distinctKey fields first ∈ seen
    · simp only [repeated, if_true, ih]
      grind
    · simp only [repeated, if_false, ih]
      grind

/-- Kept rows have different keys. -/
theorem nodup_firstOfEach (seen : List (List String)) (rows : List Record) :
    ((firstOfEach fields seen rows).map (distinctKey fields)).Nodup ∧
      ∀ row ∈ firstOfEach fields seen rows, distinctKey fields row ∉ seen := by
  induction rows generalizing seen with
  | nil => simp [firstOfEach]
  | cons first rest ih =>
    rw [firstOfEach]
    split
    · exact ih seen
    · next unseen =>
      obtain ⟨nodup, fresh⟩ := ih (distinctKey fields first :: seen)
      have later : ∀ row ∈ firstOfEach fields (distinctKey fields first :: seen) rest,
          distinctKey fields row ≠ distinctKey fields first ∧ distinctKey fields row ∉ seen := by
        intro row kept
        simpa using fresh row kept
      refine ⟨List.nodup_cons.2 ⟨fun repeated => ?_, nodup⟩, List.forall_mem_cons.2 ⟨unseen, ?_⟩⟩
      · obtain ⟨row, kept, same⟩ := List.mem_map.1 repeated
        exact (later row kept).1 same
      · exact fun row kept => (later row kept).2

variable {entity : Entity} {rows : List Record}

theorem keepDistinct_of_ne_nil (given : fields ≠ []) (rows : List Record) :
    keepDistinct fields rows = firstOfEach fields [] rows := by
  rw [keepDistinct, if_neg]
  simpa using given

/-- Rows that are kept are apart, but for values that are respelled. -/
theorem pairwise_keepDistinct (given : fields ≠ []) (wellTyped : ∀ row ∈ rows, entity.WellTyped row) :
    (keepDistinct fields rows).Pairwise (SameOnlyRespelled fields) := by
  have different := (@nodup_firstOfEach fields [] rows).1
  rw [← keepDistinct_of_ne_nil given, List.Nodup, List.pairwise_map] at different
  refine different.imp_of_mem fun {a b} keptA keptB apart => ?_
  have shows : ∀ row ∈ keepDistinct fields rows, ShowsRow entity fields row := fun row kept =>
    .of_wellTyped fields (wellTyped row ((Plan.keepDistinct_sublist fields rows).subset kept))
  exact (shows a keptA).sameOnlyRespelled_of_distinctKey_ne (shows b keptB) apart

/-- The row behind some others is kept, or it has the values of one of them. -/
theorem keepDistinct_concat (given : fields ≠ []) {row : Record}
    (wellTyped : ∀ other ∈ rows ++ [row], entity.WellTyped other) :
    keepDistinct fields (rows ++ [row]) = keepDistinct fields rows ++ [row] ∨
      keepDistinct fields (rows ++ [row]) = keepDistinct fields rows ∧
        ∃ earlier ∈ rows, SameOn fields earlier row := by
  obtain ⟨typedRows, typedRow⟩ := List.forall_mem_append.1 wellTyped
  rw [keepDistinct_of_ne_nil given, keepDistinct_of_ne_nil given, firstOfEach_concat]
  split
  · next repeated =>
    obtain ⟨earlier, member, same⟩ := repeated.resolve_left List.not_mem_nil
    refine .inr ⟨List.append_nil _, earlier, member, ?_⟩
    exact (ShowsRow.of_wellTyped fields (typedRows earlier member)).sameOn_of_distinctKey_eq
      (.of_wellTyped fields (typedRow row List.mem_cons_self)) same
  · exact .inl rfl

end Kept

/-! ## Groups -/

namespace GroupQuery

variable {entity : Entity} {query : GroupQuery} {rows : List Record}

theorem key_of_reduce {members : List Record} {group : Group}
    (reduced : query.reduce members = .ok (some group)) : group.key = keyOf query.fields members := by
  obtain ⟨values, -, reduced⟩ := bind_eq_ok.1 reduced
  split at reduced
  · cases reduced
    rfl
  · obtain ⟨tested, -, reduced⟩ := bind_eq_ok.1 reduced
    split at reduced <;> cases reduced
    rfl

/-- The groups of parts are those of some of the parts. -/
theorem reduceAll_sublist {parts : List (List Record)} {groups : List Group}
    (reduced : query.reduceAll parts = .ok groups) :
    (groups.map (·.key)).Sublist (parts.map (keyOf query.fields)) := by
  induction parts generalizing groups with
  | nil => cases reduced; exact .slnil
  | cons members rest ih =>
    obtain ⟨group?, became, reduced⟩ := bind_eq_ok.1 reduced
    obtain ⟨later, restReduced, equal⟩ := bind_eq_ok.1 reduced
    cases equal
    cases group? with
    | none => exact (ih restReduced).cons _
    | some group =>
      rw [Option.toList_some, List.singleton_append, List.map_cons, List.map_cons,
        key_of_reduce became]
      exact (ih restReduced).cons_cons _

/-- Groups are apart, but for values that are respelled. -/
theorem pairwise_group (wellTyped : ∀ row ∈ rows, entity.WellTyped row) {groups : List Group}
    (grouped : query.group rows = .ok groups) :
    groups.Pairwise fun a b => SameOnlyRespelled query.fields a.key b.key := by
  obtain ⟨unordered, reduced, equal⟩ := bind_eq_ok.1 grouped
  cases equal
  obtain ⟨keys, distinct, occurs, parted⟩ := partition_eq query.fields rows
  rw [parted] at reduced
  have some := reduceAll_sublist reduced
  rw [List.map_map] at some
  have shows : ∀ group ∈ unordered, ShowsRow entity query.fields group.key := by
    intro group member
    obtain ⟨key, listed, equal⟩ := List.mem_map.1 (some.subset (List.mem_map_of_mem member))
    obtain ⟨first, stored, -, values⟩ := exists_keyOf ((occurs key).1 listed)
    exact ⟨first, wellTyped first stored, equal ▸ values⟩
  have different : (unordered.map fun group => distinctKey query.fields group.key).Nodup := by
    have keyed : ∀ key ∈ keys,
        distinctKey query.fields (keyOf query.fields (withKey query.fields key rows)) = key :=
      fun key listed => distinctKey_keyOf ((occurs key).1 listed)
    have subkeys := some.map (distinctKey query.fields)
    rw [List.map_map, List.map_map] at subkeys
    exact subkeys.nodup (((List.map_congr_left keyed).trans (List.map_id keys)).symm ▸ distinct)
  -- A page of the sorted groups has some of the groups, which are apart in any order.
  let le (a b : Group) : Bool := compareRows query.order a.key b.key != .gt
  have perm : (unordered.mergeSort le).Perm unordered := List.mergeSort_perm unordered le
  have page : (takeAtMost query.take? ((unordered.mergeSort le).drop query.skip)).Sublist
      (unordered.mergeSort le) := (Plan.takeAtMost_sublist _ _).trans (List.drop_sublist _ _)
  have differentOnPage := (page.map _).nodup ((perm.map _).nodup_iff.2 different)
  rw [List.Nodup, List.pairwise_map] at differentOnPage
  refine differentOnPage.imp_of_mem fun {a b} shownA shownB apart => ?_
  have onPage := fun group shown => shows group (perm.subset (page.subset shown))
  exact (onPage a shownA).sameOnlyRespelled_of_distinctKey_ne (onPage b shownB) apart

end GroupQuery

/-! ## Both -/

/-- The rows that are kept, and the groups, of well-typed rows are the same on all the fields only where
one of them has a value in a different spelling; and a row that is dropped is the same as an earlier
row on all of them. -/
theorem duplicates_sound {entity : Entity} {rows : List Record}
    (wellTyped : ∀ row ∈ rows, entity.WellTyped row) :
    (∀ plan : Plan, plan.distinct ≠ [] →
      plan.paginate rows
        = takeAtMost plan.page.take? ((keepDistinct plan.distinct rows).drop plan.page.skip) ∧
      (plan.paginate rows).Pairwise (SameOnlyRespelled plan.distinct) ∧
      ∀ before row after, rows = before ++ row :: after →
        keepDistinct plan.distinct (before ++ [row]) = keepDistinct plan.distinct before ++ [row] ∨
        keepDistinct plan.distinct (before ++ [row]) = keepDistinct plan.distinct before ∧
          ∃ earlier ∈ before, SameOn plan.distinct earlier row) ∧
    ∀ (query : GroupQuery) (groups : List Group), query.group rows = .ok groups →
      groups.Pairwise fun a b => SameOnlyRespelled query.fields a.key b.key := by
  refine ⟨fun plan given => ⟨rfl, ?_, ?_⟩, ?_⟩
  · exact (pairwise_keepDistinct given wellTyped).sublist (plan.paginate_sublist_keepDistinct rows)
  · rintro before row after rfl
    refine keepDistinct_concat given fun other member => wellTyped other ?_
    rw [List.append_cons]
    exact List.mem_append_left _ member
  · exact fun query groups grouped => GroupQuery.pairwise_group wellTyped grouped

/-! ## Amounts in two spellings -/

/-- One, written without places and with as many as there can be. -/
def plainOne : Decimal := .ofInt64 1

def paddedOne : Decimal := ⟨false, 10000000000000000000000000000, Decimal.maxScale, by decide, le_rfl⟩

/-- Three amounts, of which the last one is written as the first. -/
def threeAmounts : List Record :=
  [amount 1 plainOne, amount 2 paddedOne, amount 3 plainOne]

theorem threeAmounts_wellTyped : ∀ row ∈ threeAmounts, amounts.WellTyped row := by
  intro row member
  simp only [threeAmounts, List.mem_cons, List.not_mem_nil, or_false] at member
  rcases member with rfl | rfl | rfl <;> exact (amount_wellTyped _ _).1

def byAmount : Plan := ⟨.always, [], none, ⟨.forward, 0, none⟩, ["Amount"]⟩

theorem threeAmounts_kept :
    byAmount.paginate threeAmounts = [amount 1 plainOne, amount 2 paddedOne] ∧
    (byAmount.paginate threeAmounts).Pairwise (SameOnlyRespelled ["Amount"]) := by
  obtain ⟨rowsSound, -⟩ := duplicates_sound threeAmounts_wellTyped
  exact ⟨by decide +kernel, (rowsSound byAmount (by decide)).2.1⟩

def amountGroup (x : Decimal) : Group := ⟨.ofList [("Amount", .decimal x)], .empty⟩

/-- Groups of equal amounts, without aggregates and in no order. -/
def amountGroups : GroupQuery := ⟨["Amount"], .always, .always, [], 0, none, ⟨[]⟩⟩

/-- Filters take the two amounts that are kept for the same, and they make two groups. -/
theorem threeAmounts_repeated :
    (∀ row ∈ threeAmounts, amounts.WellTyped row) ∧
    byAmount.paginate threeAmounts = [amount 1 plainOne, amount 2 paddedOne] ∧
    SameOn ["Amount"] (amount 1 plainOne) (amount 2 paddedOne) ∧
    amountGroups.group threeAmounts
      = .ok [amountGroup plainOne, amountGroup paddedOne] ∧
    SameOn ["Amount"] (amountGroup plainOne).key (amountGroup paddedOne).key := by
  have reduced : amountGroups.reduceAll (GroupQuery.partition ["Amount"] threeAmounts)
      = .ok [amountGroup plainOne, amountGroup paddedOne] := by decide +kernel
  have sorted : [amountGroup plainOne, amountGroup paddedOne].mergeSort
      (fun a b => compareRows [] a.key b.key != .gt)
      = [amountGroup plainOne, amountGroup paddedOne] :=
    List.mergeSort_of_pairwise (by decide +kernel)
  refine ⟨threeAmounts_wellTyped, by decide +kernel, by decide +kernel, ?_, by decide +kernel⟩
  rw [GroupQuery.group, show amountGroups.fields = ["Amount"] from rfl, reduced]
  exact congrArg Except.ok sorted

end RecordStore
