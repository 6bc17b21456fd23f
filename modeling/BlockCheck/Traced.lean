/-
This file holds computations that record events and may fail. Such a computation is just
its events in order and its outcome, so that both can be reasoned about apart: the
outcomes of a sequence of steps are those of the steps without their events
(`outcome_bind`), and the events of a step that fails are kept.
-/

import BlockCheck.Event

namespace BlockCheck

/-- The events of a computation, in order, and its outcome. -/
structure Traced (Failure Value : Type) where
  events : List Event
  outcome : Except Failure Value

namespace Traced

variable {Failure Value Next : Type}

/-- Succeed without events. -/
def succeed (value : Value) : Traced Failure Value := ⟨[], .ok value⟩

/-- Fail without events. -/
def fail (failure : Failure) : Traced Failure Value := ⟨[], .error failure⟩

/-- Continue after a success; after a failure nothing more happens. -/
def andThen (first : Traced Failure Value) (continuation : Value → Traced Failure Next) :
    Traced Failure Next :=
  match first.outcome with
  | .ok value => ⟨first.events ++ (continuation value).events, (continuation value).outcome⟩
  | .error failure => ⟨first.events, .error failure⟩

instance : Monad (Traced Failure) where
  pure := succeed
  bind := andThen

/-- Record events before a computation. -/
def after (recorded : List Event) (traced : Traced Failure Value) : Traced Failure Value :=
  { traced with events := recorded ++ traced.events }

/-- Record one event. -/
def record (event : Event) : Traced Failure Unit := ⟨[event], .ok ()⟩

/-- Change how a failure is told. -/
def mapFailure {Other : Type} (change : Failure → Other) (traced : Traced Failure Value) :
    Traced Other Value :=
  ⟨traced.events, traced.outcome.mapError change⟩

/-! ### Two steps -/

/-- After a success the second step follows, with the events of the first before its own. -/
theorem bind_of_ok {first : Traced Failure Value} {value : Value}
    (succeeded : first.outcome = .ok value) (continuation : Value → Traced Failure Next) :
    first >>= continuation = (continuation value).after first.events := by
  change first.andThen continuation = _
  unfold andThen
  rw [succeeded]
  rfl

/-- After a failure nothing follows. -/
theorem bind_of_error {first : Traced Failure Value} {failure : Failure}
    (failed : first.outcome = .error failure) (continuation : Value → Traced Failure Next) :
    first >>= continuation = ⟨first.events, .error failure⟩ := by
  change first.andThen continuation = _
  unfold andThen
  rw [failed]

/-- What is recorded before the first step is recorded before both. -/
theorem after_bind (recorded : List Event) (first : Traced Failure Value)
    (continuation : Value → Traced Failure Next) :
    first.after recorded >>= continuation = (first >>= continuation).after recorded := by
  cases ended : first.outcome with
  | ok value =>
    have sameEnd : (first.after recorded).outcome = .ok value := ended
    rw [bind_of_ok ended, bind_of_ok sameEnd]
    simp only [after, List.append_assoc]
  | error failure =>
    have sameEnd : (first.after recorded).outcome = .error failure := ended
    rw [bind_of_error ended, bind_of_error sameEnd]
    rfl

/-! ### Outcomes without events -/

@[simp] theorem outcome_pure (value : Value) :
    (pure value : Traced Failure Value).outcome = .ok value := rfl

/-- The outcome of two steps is that of the steps without their events. -/
@[simp] theorem outcome_bind (first : Traced Failure Value)
    (continuation : Value → Traced Failure Next) :
    (first >>= continuation).outcome =
      first.outcome.bind fun value => (continuation value).outcome := by
  change (first.andThen continuation).outcome = _
  unfold andThen
  cases first.outcome <;> rfl

@[simp] theorem outcome_after (recorded : List Event) (traced : Traced Failure Value) :
    (traced.after recorded).outcome = traced.outcome := rfl

@[simp] theorem outcome_record (event : Event) :
    (record event : Traced Failure Unit).outcome = .ok () := rfl

@[simp] theorem outcome_fail (failure : Failure) :
    (fail failure : Traced Failure Value).outcome = .error failure := rfl

@[simp] theorem outcome_mapFailure {Other : Type} (change : Failure → Other)
    (traced : Traced Failure Value) :
    (traced.mapFailure change).outcome = traced.outcome.mapError change := rfl

/-! ### Events -/

@[simp] theorem events_pure (value : Value) :
    (pure value : Traced Failure Value).events = [] := rfl

/-- After a success the events of the second step follow. -/
theorem events_bind_of_ok {first : Traced Failure Value} {value : Value}
    (succeeded : first.outcome = .ok value) (continuation : Value → Traced Failure Next) :
    (first >>= continuation).events = first.events ++ (continuation value).events := by
  rw [bind_of_ok succeeded]
  rfl

/-- After a failure there are no more events. -/
theorem events_bind_of_error {first : Traced Failure Value} {failure : Failure}
    (failed : first.outcome = .error failure) (continuation : Value → Traced Failure Next) :
    (first >>= continuation).events = first.events := by
  rw [bind_of_error failed]

/-- What is true of the events of both steps is true of their events together. -/
theorem forall_mem_events_bind {property : Event → Prop} {first : Traced Failure Value}
    {continuation : Value → Traced Failure Next} (before : ∀ event ∈ first.events, property event)
    (after : ∀ value, ∀ event ∈ (continuation value).events, property event) :
    ∀ event ∈ (first >>= continuation).events, property event := by
  cases succeeded : first.outcome with
  | ok value =>
    rw [events_bind_of_ok succeeded]
    exact List.forall_mem_append.mpr ⟨before, after value⟩
  | error failure =>
    rw [events_bind_of_error succeeded]
    exact before

/-- A step that only computes adds no events, whether it is reached or not. -/
@[simp] theorem events_bind_pure (first : Traced Failure Value) (change : Value → Next) :
    (first >>= fun value => pure (change value)).events = first.events := by
  cases succeeded : first.outcome with
  | ok value => rw [events_bind_of_ok succeeded, events_pure, List.append_nil]
  | error failure => exact events_bind_of_error succeeded _

@[simp] theorem events_after (recorded : List Event) (traced : Traced Failure Value) :
    (traced.after recorded).events = recorded ++ traced.events := rfl

@[simp] theorem events_record (event : Event) :
    (record event : Traced Failure Unit).events = [event] := rfl

@[simp] theorem events_fail (failure : Failure) :
    (fail failure : Traced Failure Value).events = [] := rfl

@[simp] theorem events_mapFailure {Other : Type} (change : Failure → Other)
    (traced : Traced Failure Value) :
    (traced.mapFailure change).events = traced.events := rfl

end Traced

end BlockCheck
