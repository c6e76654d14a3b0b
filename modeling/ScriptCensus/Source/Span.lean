/-!
# Source spans

A `SourceSpan` is a region of a text: a range of bytes, and the lines it lies on. Spans of trees that
were not read from a text may be degenerate; `SourceSpan.lines` repairs the lines.
-/

namespace ScriptCensus

/-- A region of a text. Lines and columns count from one, columns in bytes. -/
structure SourceSpan where
  /-- Offset of the first byte. -/
  start : Nat
  /-- Offset after the last byte. -/
  stop : Nat
  startLine : Nat
  endLine : Nat
  startColumn : Nat
deriving Repr, BEq, DecidableEq, Inhabited

namespace SourceSpan

/-- The number of bytes of a span; none if it ends before it starts. -/
def length (s : SourceSpan) : Nat :=
  s.stop - s.start

/-- Whether a span has no bytes. -/
def isEmpty (s : SourceSpan) : Bool :=
  s.stop ≤ s.start

/-- Whether the bytes of one span lie within those of another. -/
def contains (outer inner : SourceSpan) : Bool :=
  outer.start ≤ inner.start && inner.stop ≤ outer.stop

/-- First and last line of a span: the first is at least one, the last at least the first. -/
def lines (s : SourceSpan) : Nat × Nat :=
  let first := max s.startLine 1
  (first, max s.endLine first)

end SourceSpan

end ScriptCensus
