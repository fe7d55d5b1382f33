import ViewLang.Event

/-!
# Where events go

Events are handed over one at a time, at the moment at which they happen. A sink is whatever takes
them: a collection that keeps them in order, or a log that writes them down at once.
-/

namespace ViewLang

/-- The states of a sink, and what becomes of one that is given an event. -/
class Sink (σ : Type) where
  emit : σ → Event → σ

namespace Sink

/-- A collection of events. -/
instance : Sink (Array Event) where
  emit := Array.push

@[simp] theorem emit_array (events : Array Event) (event : Event) :
    emit events event = events.push event := rfl

end Sink

end ViewLang
