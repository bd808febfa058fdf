/-!
# Maps from names

`FieldMap α` is a finite map from names to values, kept in increasing order of the names.  Strings
are compared by code points, which is also the order of their UTF-8 bytes, so `entries` is the order
in which every object of this library is printed and walked.

* `get?_insert`, `get?_erase`, `get?_mapValues`, `get?_filter` say what each operation does to a
  lookup.
* `ext` says that lookups decide equality: a map has one representation only.
-/

namespace RecordStore

/-- Puts a binding into an increasing list of bindings, over the binding of the same name if there
is one. -/
def insertEntry {α : Type} (name : String) (value : α) :
    List (String × α) → List (String × α)
  | [] => [(name, value)]
  | (name', value') :: rest =>
    if name < name' then (name, value) :: (name', value') :: rest
    else if name = name' then (name, value) :: rest
    else (name', value') :: insertEntry name value rest

/-- The value bound to a name in a list of bindings. -/
def lookupEntry {α : Type} (name : String) : List (String × α) → Option α
  | [] => none
  | (name', value) :: rest => if name = name' then some value else lookupEntry name rest

/-- A finite map from names to values, in increasing order of the names. -/
structure FieldMap (α : Type) where
  entries : List (String × α)
  sorted : entries.Pairwise (fun a b => a.1 < b.1)
deriving DecidableEq

/-! ## Increasing lists of bindings -/

private theorem lt_or_gt_of_ne {a b : String} (h : a ≠ b) : a < b ∨ b < a := by
  rcases String.le_total a b with hle | hle
  · by_cases hlt : a < b
    · exact .inl hlt
    · exact absurd (String.le_antisymm hle (String.not_lt.1 hlt)) h
  · by_cases hlt : b < a
    · exact .inr hlt
    · exact absurd (String.le_antisymm (String.not_lt.1 hlt) hle) h

theorem mem_insertEntry {α : Type} {name : String} {value : α} {entries : List (String × α)}
    {entry : String × α} (h : entry ∈ insertEntry name value entries) :
    entry = (name, value) ∨ entry ∈ entries := by
  induction entries with
  | nil => simpa [insertEntry] using h
  | cons head rest ih =>
    obtain ⟨name', value'⟩ := head
    unfold insertEntry at h
    split at h
    · simpa using h
    · split at h
      · rcases List.mem_cons.1 h with h | h
        · exact .inl h
        · exact .inr (List.mem_cons_of_mem _ h)
      · rcases List.mem_cons.1 h with h | h
        · exact .inr (h ▸ List.mem_cons_self)
        · exact (ih h).imp id (List.mem_cons_of_mem _)

theorem insertEntry_sorted {α : Type} (name : String) (value : α) {entries : List (String × α)}
    (h : entries.Pairwise (fun a b => a.1 < b.1)) :
    (insertEntry name value entries).Pairwise (fun a b => a.1 < b.1) := by
  induction entries with
  | nil => simp [insertEntry]
  | cons head rest ih =>
    obtain ⟨name', value'⟩ := head
    have hrest := List.pairwise_cons.1 h
    unfold insertEntry
    split
    · rename_i hlt
      refine List.pairwise_cons.2 ⟨?_, h⟩
      intro entry hentry
      rcases List.mem_cons.1 hentry with rfl | hentry
      · exact hlt
      · exact String.lt_trans hlt (hrest.1 entry hentry)
    · split
      · rename_i heq
        subst heq
        exact List.pairwise_cons.2 ⟨hrest.1, hrest.2⟩
      · rename_i hnlt hne
        refine List.pairwise_cons.2 ⟨?_, ih hrest.2⟩
        intro entry hentry
        rcases mem_insertEntry hentry with rfl | hentry
        · exact (lt_or_gt_of_ne hne).resolve_left hnlt
        · exact hrest.1 entry hentry

theorem lookupEntry_insertEntry {α : Type} (name : String) (value : α)
    (entries : List (String × α)) (other : String) :
    lookupEntry other (insertEntry name value entries)
      = if other = name then some value else lookupEntry other entries := by
  induction entries with
  | nil => simp [insertEntry, lookupEntry]
  | cons head rest ih =>
    obtain ⟨name', value'⟩ := head
    unfold insertEntry
    split
    · simp [lookupEntry]
    · split
      · rename_i heq
        subst heq
        by_cases h : other = name <;> simp [lookupEntry, h]
      · rename_i hne
        by_cases h : other = name'
        · have : ¬ other = name := fun hn => hne (hn.symm.trans h)
          simp [lookupEntry, h, Ne.symm hne]
        · simp [lookupEntry, h, ih]

theorem lookupEntry_eq_none {α : Type} {name : String} {entries : List (String × α)} :
    lookupEntry name entries = none ↔ ∀ entry ∈ entries, entry.1 ≠ name := by
  induction entries with
  | nil => simp [lookupEntry]
  | cons head rest ih =>
    obtain ⟨name', value⟩ := head
    by_cases h : name = name'
    · simp [lookupEntry, h]
    · simp [lookupEntry, h, ih, Ne.symm h]

theorem lookupEntry_eq_some {α : Type} {name : String} {value : α} {entries : List (String × α)}
    (hsorted : entries.Pairwise (fun a b => a.1 < b.1)) :
    lookupEntry name entries = some value ↔ (name, value) ∈ entries := by
  induction entries with
  | nil => simp [lookupEntry]
  | cons head rest ih =>
    obtain ⟨name', value'⟩ := head
    have hrest := List.pairwise_cons.1 hsorted
    by_cases h : name = name'
    · subst h
      simp only [lookupEntry, if_true, Option.some.injEq, List.mem_cons, Prod.mk.injEq, true_and]
      constructor
      · exact fun heq => .inl heq.symm
      · rintro (heq | hmem)
        · exact heq.symm
        · exact absurd (hrest.1 _ hmem) (String.lt_irrefl name)
    · simp [lookupEntry, h, ih hrest.2]

namespace FieldMap

variable {α : Type}

/-! ## Operations -/

/-- The map without bindings. -/
def empty : FieldMap α := ⟨[], List.Pairwise.nil⟩

instance : Inhabited (FieldMap α) := ⟨empty⟩

def get? (m : FieldMap α) (name : String) : Option α := lookupEntry name m.entries

def contains (m : FieldMap α) (name : String) : Bool := (m.get? name).isSome

/-- Binds a name, over its earlier binding. -/
def insert (m : FieldMap α) (name : String) (value : α) : FieldMap α :=
  ⟨insertEntry name value m.entries, insertEntry_sorted name value m.sorted⟩

/-- The bindings whose name and value pass a test. -/
def filter (m : FieldMap α) (keep : String → α → Bool) : FieldMap α :=
  ⟨m.entries.filter fun entry => keep entry.1 entry.2, m.sorted.filter _⟩

/-- The map without a name. -/
def erase (m : FieldMap α) (name : String) : FieldMap α :=
  m.filter fun name' _ => name' != name

/-- The map with every value replaced by its image. -/
def mapValues {β : Type} (m : FieldMap α) (f : String → α → β) : FieldMap β :=
  ⟨m.entries.map fun entry => (entry.1, f entry.1 entry.2), by
    rw [List.pairwise_map]
    exact m.sorted⟩

/-- The map of a list of bindings, of which the last one of a name counts. -/
def ofList (entries : List (String × α)) : FieldMap α :=
  entries.foldl (fun m entry => m.insert entry.1 entry.2) empty

/-- The bound names, in increasing order. -/
def keys (m : FieldMap α) : List String := m.entries.map (·.1)

/-- The bound values, in the order of their names. -/
def values (m : FieldMap α) : List α := m.entries.map (·.2)

def size (m : FieldMap α) : Nat := m.entries.length

def isEmpty (m : FieldMap α) : Bool := m.entries.isEmpty

/-! ## Lookups decide everything -/

@[simp] theorem get?_empty (name : String) : (empty : FieldMap α).get? name = none := rfl

@[simp] theorem get?_insert (m : FieldMap α) (name : String) (value : α) (other : String) :
    (m.insert name value).get? other = if other = name then some value else m.get? other :=
  lookupEntry_insertEntry name value m.entries other

theorem get?_eq_some {m : FieldMap α} {name : String} {value : α} :
    m.get? name = some value ↔ (name, value) ∈ m.entries :=
  lookupEntry_eq_some m.sorted

@[simp] theorem get?_filter (m : FieldMap α) (keep : String → α → Bool) (name : String) :
    (m.filter keep).get? name = (m.get? name).filter (keep name) := by
  apply Option.ext
  intro value
  simp [get?_eq_some, filter, Option.filter_eq_some_iff]

@[simp] theorem get?_erase (m : FieldMap α) (name other : String) :
    (m.erase name).get? other = if other = name then none else m.get? other := by
  by_cases h : other = name
  · simp [erase, h]
  · cases hget : m.get? other <;> simp [erase, h, hget, Option.filter]

@[simp] theorem get?_mapValues {β : Type} (m : FieldMap α) (f : String → α → β) (name : String) :
    (m.mapValues f).get? name = (m.get? name).map (f name) := by
  apply Option.ext
  intro value
  simp only [get?_eq_some, mapValues, List.mem_map, Option.map_eq_some_iff, Prod.mk.injEq]
  constructor
  · rintro ⟨⟨k, v⟩, hmem, rfl, rfl⟩
    exact ⟨v, hmem, rfl⟩
  · rintro ⟨v, hmem, rfl⟩
    exact ⟨(name, v), hmem, rfl, rfl⟩

theorem mem_keys {m : FieldMap α} {name : String} :
    name ∈ m.keys ↔ ∃ value, m.get? name = some value := by
  simp only [keys, List.mem_map, get?_eq_some]
  constructor
  · rintro ⟨⟨k, v⟩, hmem, rfl⟩
    exact ⟨v, hmem⟩
  · rintro ⟨v, hmem⟩
    exact ⟨(name, v), hmem, rfl⟩

theorem contains_iff {m : FieldMap α} {name : String} : m.contains name = true ↔ name ∈ m.keys := by
  rw [mem_keys, contains, Option.isSome_iff_exists]

theorem entries_nodup (m : FieldMap α) : m.entries.Nodup := by
  refine List.Pairwise.imp ?_ m.sorted
  rintro a b hlt rfl
  exact String.lt_irrefl a.1 hlt

/-- Two maps are equal when they look up equally. -/
theorem ext {m m' : FieldMap α} (h : ∀ name, m.get? name = m'.get? name) : m = m' := by
  have hmem : ∀ entry : String × α, entry ∈ m.entries ↔ entry ∈ m'.entries := by
    rintro ⟨name, value⟩
    rw [← get?_eq_some, ← get?_eq_some, h]
  have hentries : m.entries = m'.entries := by
    have perm : m.entries.Perm m'.entries :=
      (List.perm_ext_iff_of_nodup m.entries_nodup m'.entries_nodup).2 hmem
    refine perm.eq_of_pairwise ?_ m.sorted m'.sorted
    intro a b _ _ hab hba
    exact absurd (String.lt_trans hab hba) (String.lt_irrefl a.1)
  obtain ⟨entries, sorted⟩ := m
  obtain ⟨entries', sorted'⟩ := m'
  subst hentries
  rfl

end FieldMap

end RecordStore
