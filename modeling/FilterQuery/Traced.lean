import FilterQuery.Event

/-!
# Results with their events

A function that records events returns them beside its result, the earliest first.  Functions of
this kind are put in sequence as in any monad, and their events in the same order.  That the events
are part of the result, and nothing else is, makes "what is recorded while a function runs" a plain
statement about its value.
-/

namespace FilterQuery

/-- A result, and what happened on the way to it. -/
structure Traced (α : Type) where
  value : α
  events : List Event
  deriving DecidableEq, Repr

namespace Traced

instance : Monad Traced where
  pure value := ⟨value, []⟩
  bind first next := ⟨(next first.value).value, first.events ++ (next first.value).events⟩

/-- Records one event. -/
def record (event : Event) : Traced Unit :=
  ⟨(), [event]⟩

@[simp] theorem value_pure {α : Type} (a : α) : (pure a : Traced α).value = a := rfl

@[simp] theorem events_pure {α : Type} (a : α) : (pure a : Traced α).events = [] := rfl

@[simp] theorem value_bind {α β : Type} (first : Traced α) (next : α → Traced β) :
    (first >>= next).value = (next first.value).value := rfl

@[simp] theorem events_bind {α β : Type} (first : Traced α) (next : α → Traced β) :
    (first >>= next).events = first.events ++ (next first.value).events := rfl

@[ext] theorem ext {α : Type} {a b : Traced α} (hv : a.value = b.value)
    (he : a.events = b.events) : a = b := by
  cases a; cases b; simp_all

instance : LawfulMonad Traced := LawfulMonad.mk' Traced
  (by intro α x; ext1 <;> simp [Functor.map])
  (by intro α β a f; ext1 <;> simp)
  (by intro α β γ x f g; ext1 <;> simp)

end Traced

end FilterQuery
