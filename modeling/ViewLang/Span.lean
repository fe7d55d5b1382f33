/-!
# Spans

A span is a range of byte offsets in a source. Nothing forces its ends to be in order: a span whose
end is not after its start is empty.
-/

namespace ViewLang

/-- A range of bytes, from `start` up to but not including `stop`. -/
structure Span where
  /-- The offset of the first byte. -/
  start : Nat
  /-- The offset just past the last byte. -/
  stop : Nat
deriving DecidableEq, Repr, Inhabited

namespace Span

/-- The span without bytes at `offset`. -/
def empty (offset : Nat) : Span :=
  ⟨offset, offset⟩

/-- The number of bytes covered, zero when the ends are not in order. -/
def length (s : Span) : Nat :=
  s.stop - s.start

/-- Whether the span covers no byte. -/
def isEmpty (s : Span) : Bool :=
  s.length == 0

@[simp] theorem length_empty (offset : Nat) : (empty offset).length = 0 :=
  Nat.sub_self offset

end Span

end ViewLang
