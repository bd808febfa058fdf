import Mathlib.Data.Fintype.Card
import Mathlib.Data.List.Chain
import RecordStore.Request.Lifecycle

/-! # The phases that a request goes through

A lifecycle is changed in two ways: it is moved on to a phase, which `canBecome` has to allow, or it
is failed, which looks only at whether its phase is the last one.  `FollowsPhases` is what both keep,
so that it holds of every lifecycle: the history is a path of allowed moves that leads from the
beginning to the phase it is in.

* Every allowed move leads deeper (`depth_lt_of_canBecome`), and there are four depths.  A path
  therefore never comes to a phase again, and is no longer than four phases.
* Completion is allowed behind the dispatch only, so that a path without the one is without the other
  (`FollowsPhases.dispatched_mem`).
-/

namespace RecordStore

/-! ## Depths of phases -/

namespace Phase

/-- How many moves away from the beginning a phase is. -/
def depth : Phase → Fin 4
  | .received => 0
  | .validated => 1
  | .dispatched => 2
  | .completed => 3
  | .failed => 3

theorem depth_lt_of_canBecome {p q : Phase} (allowed : p.canBecome q = true) :
    p.depth < q.depth := by
  cases p <;> cases q <;> first | decide | contradiction

/-- A phase that is not the last one can fail. -/
theorem canBecome_failed (p : Phase) : p.canBecome .failed = !p.isTerminal := by
  cases p <;> rfl

theorem canBecome_of_isTerminal {p : Phase} (last : p.isTerminal = true) (q : Phase) :
    p.canBecome q = false := by
  cases p <;> first | rfl | contradiction

theorem eq_dispatched_of_canBecome_completed {p : Phase} (allowed : p.canBecome .completed = true) :
    p = .dispatched := by
  cases p <;> first | rfl | contradiction

end Phase

/-- What is in a chain is in front of it, or has something in front of it. -/
theorem exists_rel_of_mem_isChain {α : Type} {R : α → α → Prop} {a : α} {items : List α}
    (chain : items.IsChain R) (member : a ∈ items) :
    items.head? = some a ∨ ∃ b ∈ items, R b a := by
  obtain ⟨front, behind, rfl⟩ := List.append_of_mem member
  rcases List.eq_nil_or_concat front with rfl | ⟨front, b, rfl⟩
  · exact .inl rfl
  · rw [List.concat_eq_append, List.append_assoc, List.singleton_append,
      List.isChain_append_cons_cons] at chain
    exact .inr ⟨b, by simp, chain.2.1⟩

namespace Lifecycle

/-! ## Events -/

/-- What happens to a lifecycle. -/
inductive Event where
  | advance (next : Phase)
  | fail (error : RequestError)

/-- The error that an event gives back, if it gives one, and the lifecycle afterwards. -/
def handle (l : Lifecycle) : Event → Option RequestError × Lifecycle
  | .advance next =>
    match l.advance next with
    | .ok moved => (none, moved)
    | .error error => (some error, l)
  | .fail error =>
    let (error, failed) := l.failWith error
    (some error, failed)

/-- The lifecycle after one event and another. -/
def run (l : Lifecycle) : List Event → Lifecycle
  | [] => l
  | event :: rest => (l.handle event).2.run rest

variable {l : Lifecycle}

theorem run_append (l : Lifecycle) (events later : List Event) :
    l.run (events ++ later) = (l.run events).run later := by
  induction events generalizing l with
  | nil => rfl
  | cons event rest ih => exact ih _

theorem handle_advance_of_canBecome {next : Phase} (allowed : l.phase.canBecome next = true) :
    l.handle (.advance next) = (none, ⟨next, l.history ++ [next]⟩) := by
  simp only [handle, advance, if_pos allowed]

theorem handle_advance_of_not_canBecome {next : Phase} (refused : l.phase.canBecome next = false) :
    l.handle (.advance next) = (some (.internal (.illegalTransition l.phase next)), l) := by
  simp only [handle, advance, refused, Bool.false_eq_true, if_false]

/-- An event moves a lifecycle on to a phase that is allowed, or leaves it alone. -/
theorem handle_cases (l : Lifecycle) (event : Event) :
    (∃ next, l.phase.canBecome next = true ∧ (l.handle event).2 = ⟨next, l.history ++ [next]⟩) ∨
      (l.handle event).2 = l := by
  cases event with
  | advance next =>
    cases allowed : l.phase.canBecome next with
    | true => exact .inl ⟨next, allowed, by rw [handle_advance_of_canBecome allowed]⟩
    | false => exact .inr (by rw [handle_advance_of_not_canBecome allowed])
  | fail error =>
    simp only [handle, failWith, fail]
    cases last : l.phase.isTerminal with
    | true => exact .inr rfl
    | false => exact .inl ⟨.failed, by rw [Phase.canBecome_failed, last]; rfl, rfl⟩

theorem handle_of_isTerminal (last : l.phase.isTerminal = true) (event : Event) :
    (l.handle event).2 = l := by
  rcases l.handle_cases event with ⟨next, allowed, -⟩ | same
  · rw [Phase.canBecome_of_isTerminal last] at allowed
    contradiction
  · exact same

theorem run_of_isTerminal (last : l.phase.isTerminal = true) (events : List Event) :
    l.run events = l := by
  induction events with
  | nil => rfl
  | cons event rest ih => rw [run, handle_of_isTerminal last, ih]

/-! ## Paths -/

/-- Whether a lifecycle has come to its phase from the beginning, by moves that are allowed. -/
structure FollowsPhases (l : Lifecycle) : Prop where
  begins : l.history.head? = some .received
  moves : l.history.IsChain fun p q => p.canBecome q = true
  ends : l.history.getLast? = some l.phase

theorem followsPhases_start : start.FollowsPhases :=
  ⟨rfl, .singleton _, rfl⟩

namespace FollowsPhases

theorem handle (follows : l.FollowsPhases) (event : Event) : (l.handle event).2.FollowsPhases := by
  rcases l.handle_cases event with ⟨next, allowed, moved⟩ | same
  · rw [moved]
    refine ⟨?_, follows.moves.append (.singleton next) ?_, List.getLast?_concat⟩
    · rw [List.head?_append, follows.begins]
      rfl
    · simpa [follows.ends] using allowed
  · rwa [same]

theorem run (follows : l.FollowsPhases) (events : List Event) : (l.run events).FollowsPhases := by
  induction events generalizing l with
  | nil => exact follows
  | cons event rest ih => exact ih (follows.handle event)

theorem depths_nodup (follows : l.FollowsPhases) : (l.history.map Phase.depth).Nodup := by
  have deeper : (l.history.map Phase.depth).IsChain (· < ·) :=
    (List.isChain_map Phase.depth).2 (follows.moves.imp fun _ _ => Phase.depth_lt_of_canBecome)
  exact deeper.pairwise.imp ne_of_lt

theorem history_nodup (follows : l.FollowsPhases) : l.history.Nodup :=
  follows.depths_nodup.of_map _

theorem length_history_le (follows : l.FollowsPhases) : l.history.length ≤ 4 := by
  simpa using follows.depths_nodup.length_le_card

/-- A request that was completed has been dispatched. -/
theorem dispatched_mem (follows : l.FollowsPhases) (completed : .completed ∈ l.history) :
    .dispatched ∈ l.history := by
  rcases exists_rel_of_mem_isChain follows.moves completed with first | ⟨before, member, allowed⟩
  · rw [follows.begins] at first
    contradiction
  · rwa [Phase.eq_dispatched_of_canBecome_completed allowed] at member

end FollowsPhases

/-- After events of any kind, in any order, a lifecycle has gone along the phases from the beginning
to the one that it is in, and has come to none twice.  A move fails where it is not allowed, and then
leaves the lifecycle as it is; a failure gives back its error; and nothing changes a lifecycle in its
last phase.  One that failed without a dispatch was not completed either. -/
theorem phases_followed (events : List Event) :
    let l := start.run events
    l.history.head? = some .received ∧
    (l.history.IsChain fun p q => p.canBecome q = true) ∧
    l.history.getLast? = some l.phase ∧
    l.history.Nodup ∧ l.history.length ≤ 4 ∧
    (∀ next, (l.handle (.advance next)).1.isSome = true ↔ l.phase.canBecome next = false) ∧
    (∀ next, (l.handle (.advance next)).1.isSome = true → (l.handle (.advance next)).2 = l) ∧
    (∀ error, (l.handle (.fail error)).1 = some error) ∧
    (l.phase.isTerminal = true → ∀ later, start.run (events ++ later) = l) ∧
    (l.history.getLast? = some .failed → .dispatched ∉ l.history → .completed ∉ l.history) := by
  intro l
  have follows : l.FollowsPhases := followsPhases_start.run events
  have fails : ∀ next,
      (l.handle (.advance next)).1.isSome = true ↔ l.phase.canBecome next = false := by
    intro next
    cases allowed : l.phase.canBecome next with
    | true => simp [handle_advance_of_canBecome allowed]
    | false => simp [handle_advance_of_not_canBecome allowed]
  refine ⟨follows.begins, follows.moves, follows.ends, follows.history_nodup,
    follows.length_history_le, fails, fun next failed => ?_, fun error => rfl, fun last later => ?_,
    fun _ notDispatched completed => notDispatched (follows.dispatched_mem completed)⟩
  · rw [handle_advance_of_not_canBecome ((fails next).1 failed)]
  · rw [run_append]
    exact run_of_isTerminal last later

/-- A move that skips a phase is refused, and nothing follows a failure. -/
example :
    (start.run
        [.advance .validated, .advance .completed, .fail .cancelled, .advance .dispatched]).history
      = [.received, .validated, .failed] := by
  decide

end Lifecycle

end RecordStore
