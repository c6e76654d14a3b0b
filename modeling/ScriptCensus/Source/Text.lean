/-!
# Source text

A source text is read as a sequence of characters, while spans count bytes and lines. `SourceText`
keeps, for every character position, the rest of the text, the byte offset and the line, so that a
position is a single number and everything else about it is looked up.
-/

namespace ScriptCensus

/-- What is known about one character position of a text. -/
structure Place where
  /-- The text from this position on. -/
  rest : List Char
  /-- Number of bytes before this position. -/
  offset : Nat
  /-- Number of line breaks before this position. -/
  row : Nat
  /-- Number of bytes since the last line break. -/
  column : Nat
deriving Inhabited

/-- A text with its character positions; there is one more position than there are characters. -/
structure SourceText where
  places : Array Place
deriving Inhabited

namespace SourceText

/-- The places of a text, the end of the text included, from the given offset, row and column on. -/
def placesFrom : List Char → Nat → Nat → Nat → List Place
  | [], offset, row, column => [⟨[], offset, row, column⟩]
  | here@(c :: rest), offset, row, column =>
    let size := c.utf8Size
    ⟨here, offset, row, column⟩ ::
      (if c = '\n' then placesFrom rest (offset + size) (row + 1) 0
       else placesFrom rest (offset + size) row (column + size))

/-- Reads a string as a source text. -/
def ofString (s : String) : SourceText :=
  ⟨(placesFrom s.toList 0 0 0).toArray⟩

/-- The last position, after all characters. -/
def size (t : SourceText) : Nat :=
  t.places.size - 1

/-- What is known about a position; a position past the end counts as the end. -/
def place (t : SourceText) (i : Nat) : Place :=
  t.places.getD i (t.places.getD t.size default)

/-- The text from a position on. -/
def rest (t : SourceText) (i : Nat) : List Char :=
  (t.place i).rest

/-- The number of bytes before a position. -/
def offset (t : SourceText) (i : Nat) : Nat :=
  (t.place i).offset

/-- The number of line breaks before a position. -/
def row (t : SourceText) (i : Nat) : Nat :=
  (t.place i).row

/-- The number of bytes between two positions. -/
def bytesBetween (t : SourceText) (i j : Nat) : Nat :=
  t.offset j - t.offset i

/-- The number of line breaks between two positions. -/
def rowsBetween (t : SourceText) (i j : Nat) : Nat :=
  t.row j - t.row i

end SourceText

end ScriptCensus
