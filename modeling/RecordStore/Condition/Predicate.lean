/-!
# Predicate trees

A `Predicate` combines leaf conditions with conjunction, disjunction and a negation that says "none
of these".  What a leaf means is left to its owner: `holds` evaluates a tree under a reading of its
leaves.

* `holdsAll_eq_all` and `holdsAny_eq_any` say that members are combined as lists are.
* `holds_map` says that a tree whose leaves are renamed is read through the renaming.
* `holds_congr` says that a reading counts at the leaves of a tree only.
-/

namespace RecordStore

/-- A combination of leaf conditions. -/
inductive Predicate (Leaf : Type) where
  | leaf (condition : Leaf)
  /-- All members hold; so does the empty conjunction. -/
  | and (members : List (Predicate Leaf))
  /-- Some member holds; the empty disjunction does not. -/
  | or (members : List (Predicate Leaf))
  /-- No member holds. -/
  | not (members : List (Predicate Leaf))

namespace Predicate

variable {Leaf Leaf' : Type}

/-- The predicate that always holds. -/
def always : Predicate Leaf := .and []

instance : Inhabited (Predicate Leaf) := ⟨always⟩

/-- Whether a tree is the empty conjunction. -/
def isAlways : Predicate Leaf → Bool
  | .and [] => true
  | _ => false

/-- The conjunction of predicates; a single one stands for itself. -/
def conjunction : List (Predicate Leaf) → Predicate Leaf
  | [only] => only
  | members => .and members

/-! ## Evaluation -/

mutual

/-- Whether a tree holds under a reading of its leaves. -/
def holds (reading : Leaf → Bool) : Predicate Leaf → Bool
  | .leaf condition => reading condition
  | .and members => holdsAll reading members
  | .or members => holdsAny reading members
  | .not members => !holdsAny reading members

def holdsAll (reading : Leaf → Bool) : List (Predicate Leaf) → Bool
  | [] => true
  | member :: rest => member.holds reading && holdsAll reading rest

def holdsAny (reading : Leaf → Bool) : List (Predicate Leaf) → Bool
  | [] => false
  | member :: rest => member.holds reading || holdsAny reading rest

end

theorem holdsAll_eq_all (reading : Leaf → Bool) (members : List (Predicate Leaf)) :
    holdsAll reading members = members.all fun member => member.holds reading := by
  induction members with
  | nil => rfl
  | cons member rest ih => simp [holdsAll, ih]

theorem holdsAny_eq_any (reading : Leaf → Bool) (members : List (Predicate Leaf)) :
    holdsAny reading members = members.any fun member => member.holds reading := by
  induction members with
  | nil => rfl
  | cons member rest ih => simp [holdsAny, ih]

theorem holds_conjunction (reading : Leaf → Bool) (members : List (Predicate Leaf)) :
    (conjunction members).holds reading = members.all fun member => member.holds reading := by
  unfold conjunction
  split
  · simp
  · simp [holds, holdsAll_eq_all]

/-! ## Shape -/

mutual

/-- How deep composites nest; a leaf by itself has depth 0. -/
def depth : Predicate Leaf → Nat
  | .leaf _ => 0
  | .and members => 1 + depthOfAll members
  | .or members => 1 + depthOfAll members
  | .not members => 1 + depthOfAll members

def depthOfAll : List (Predicate Leaf) → Nat
  | [] => 0
  | member :: rest => max member.depth (depthOfAll rest)

end

mutual

/-- The leaves, from left to right. -/
def leaves : Predicate Leaf → List Leaf
  | .leaf condition => [condition]
  | .and members => leavesOfAll members
  | .or members => leavesOfAll members
  | .not members => leavesOfAll members

def leavesOfAll : List (Predicate Leaf) → List Leaf
  | [] => []
  | member :: rest => member.leaves ++ leavesOfAll rest

end

mutual

theorem holds_congr {reading reading' : Leaf → Bool} :
    ∀ predicate : Predicate Leaf,
      (∀ condition ∈ predicate.leaves, reading condition = reading' condition) →
      predicate.holds reading = predicate.holds reading'
  | .leaf condition, agree => agree condition List.mem_cons_self
  | .and members, agree => holdsAll_congr members agree
  | .or members, agree => holdsAny_congr members agree
  | .not members, agree => congrArg (!·) (holdsAny_congr members agree)

theorem holdsAll_congr {reading reading' : Leaf → Bool} :
    ∀ members : List (Predicate Leaf),
      (∀ condition ∈ leavesOfAll members, reading condition = reading' condition) →
      holdsAll reading members = holdsAll reading' members
  | [], _ => rfl
  | member :: rest, agree => by
    obtain ⟨here, there⟩ := List.forall_mem_append.1 agree
    rw [holdsAll, holdsAll, holds_congr member here, holdsAll_congr rest there]

theorem holdsAny_congr {reading reading' : Leaf → Bool} :
    ∀ members : List (Predicate Leaf),
      (∀ condition ∈ leavesOfAll members, reading condition = reading' condition) →
      holdsAny reading members = holdsAny reading' members
  | [], _ => rfl
  | member :: rest, agree => by
    obtain ⟨here, there⟩ := List.forall_mem_append.1 agree
    rw [holdsAny, holdsAny, holds_congr member here, holdsAny_congr rest there]

end

mutual

/-- The tree with every leaf replaced by its image. -/
def map (f : Leaf → Leaf') : Predicate Leaf → Predicate Leaf'
  | .leaf condition => .leaf (f condition)
  | .and members => .and (mapAll f members)
  | .or members => .or (mapAll f members)
  | .not members => .not (mapAll f members)

def mapAll (f : Leaf → Leaf') : List (Predicate Leaf) → List (Predicate Leaf')
  | [] => []
  | member :: rest => member.map f :: mapAll f rest

end

mutual

theorem holds_map (f : Leaf → Leaf') (reading : Leaf' → Bool) :
    ∀ predicate : Predicate Leaf,
      (predicate.map f).holds reading = predicate.holds fun condition => reading (f condition)
  | .leaf _ => rfl
  | .and members => by simp [map, holds, holdsAll_mapAll f reading members]
  | .or members => by simp [map, holds, holdsAny_mapAll f reading members]
  | .not members => by simp [map, holds, holdsAny_mapAll f reading members]

theorem holdsAll_mapAll (f : Leaf → Leaf') (reading : Leaf' → Bool) :
    ∀ members : List (Predicate Leaf),
      holdsAll reading (mapAll f members) = holdsAll (fun condition => reading (f condition)) members
  | [] => rfl
  | member :: rest => by
    simp [mapAll, holdsAll, holds_map f reading member, holdsAll_mapAll f reading rest]

theorem holdsAny_mapAll (f : Leaf → Leaf') (reading : Leaf' → Bool) :
    ∀ members : List (Predicate Leaf),
      holdsAny reading (mapAll f members) = holdsAny (fun condition => reading (f condition)) members
  | [] => rfl
  | member :: rest => by
    simp [mapAll, holdsAny, holds_map f reading member, holdsAny_mapAll f reading rest]

end

end Predicate

end RecordStore
