import JavaSource.Log.Event

/-!
# Computations That Report

A computation that reports is a value together with the events reported on
the way to it. Running one computation after another puts their events side
by side, so nothing is reported twice and nothing is lost. A computation
that can fail is a `Logged` one whose value is either an error or a result:
its events survive the failure.

## Main definitions

* `Logged`: A value with the events reported on the way to it.
* `Logged.report`: Reporting one event.

## Theorems

* `Logged.events_bind`: Events of a sequence stand in the order of its steps.
-/

namespace JavaSource

open Log (Event)

/-- A value with the events reported on the way to it. -/
structure Logged (α : Type) where
  /-- The outcome. -/
  value : α
  /-- What was reported, the earliest first. -/
  events : List Event

namespace Logged

@[ext]
theorem ext {α : Type} {x y : Logged α} (hv : x.value = y.value) (he : x.events = y.events) :
    x = y := by
  cases x
  cases y
  simp_all only

instance : Monad Logged where
  pure a := ⟨a, []⟩
  bind x f := ⟨(f x.value).value, x.events ++ (f x.value).events⟩

/-- Report one event. -/
def report (e : Event) : Logged Unit :=
  ⟨(), [e]⟩

@[simp]
theorem value_pure {α : Type} (a : α) : (pure a : Logged α).value = a := rfl

@[simp]
theorem events_pure {α : Type} (a : α) : (pure a : Logged α).events = [] := rfl

@[simp]
theorem value_bind {α β : Type} (x : Logged α) (f : α → Logged β) :
    (x >>= f).value = (f x.value).value := rfl

/-- Events of a sequence stand in the order of its steps. -/
@[simp]
theorem events_bind {α β : Type} (x : Logged α) (f : α → Logged β) :
    (x >>= f).events = x.events ++ (f x.value).events := rfl

@[simp]
theorem value_map {α β : Type} (f : α → β) (x : Logged α) : (f <$> x).value = f x.value := rfl

@[simp]
theorem events_map {α β : Type} (f : α → β) (x : Logged α) : (f <$> x).events = x.events := by
  show x.events ++ [] = x.events
  rw [List.append_nil]

instance : LawfulMonad Logged :=
  LawfulMonad.mk' Logged
    (fun _ => Logged.ext rfl (List.append_nil _))
    (fun _ _ => Logged.ext rfl (List.nil_append _))
    (fun _ _ _ => Logged.ext rfl (List.append_assoc _ _ _))

end Logged

end JavaSource
