import ScriptCensus.Tree.Basic

/-!
# Printing a subtree

A subtree is printed from its tokens alone (`SyntaxNode.tokens`), so that a subtree with recovered
tokens prints as any other. The layout (`layout`) keeps line breaks but no more than one blank line,
keeps adjacent tokens adjacent, and indents each line by two blanks for each open bracket.
-/

namespace ScriptCensus

/-- Why a subtree cannot be printed. -/
inductive PrintError where
  /-- A named token was expected and not found, so its text is unknown. -/
  | missingNode (kind : String) (line : Nat)
  /-- There is no token to print. -/
  | empty
deriving Repr, BEq, DecidableEq, Inhabited

/-- The wording of an error. -/
def PrintError.message : PrintError → String
  | missingNode kind line => s!"recovered {kind} at line {line} has no source text"
  | empty => "node has no printable tokens"

/-- A piece of text with its place. -/
structure PlacedToken where
  text : String
  span : SourceSpan
deriving Repr, BEq, DecidableEq, Inhabited

/-- A printed subtree. -/
structure Printed where
  text : String
  /-- From the first to the last token. -/
  span : SourceSpan
deriving Repr, BEq, DecidableEq, Inhabited

/-! ## Leaves and tokens -/

mutual

/-- The leaves of a node in order, before some further leaves. -/
def SyntaxNode.leavesBefore (further : List Leaf) : SyntaxNode → List Leaf
  | .mk _ _ fields => SyntaxNode.fieldLeavesBefore further fields

/-- The leaves of some fields in order, before some further leaves. -/
def SyntaxNode.fieldLeavesBefore (further : List Leaf) : List (String × SyntaxValue) → List Leaf
  | [] => further
  | (_, value) :: rest => value.leavesBefore (SyntaxNode.fieldLeavesBefore further rest)

/-- The leaves of a value in order, before some further leaves. -/
def SyntaxValue.leavesBefore (further : List Leaf) : SyntaxValue → List Leaf
  | .node n => n.leavesBefore further
  | .sequence items => SyntaxValue.itemLeavesBefore further items
  | .leaf l => l :: further
  | .absent => further

/-- The leaves of some values in order, before some further leaves. -/
def SyntaxValue.itemLeavesBefore (further : List Leaf) : List SyntaxValue → List Leaf
  | [] => further
  | value :: rest => value.leavesBefore (SyntaxValue.itemLeavesBefore further rest)

end

/-- The leaves of a node, in order. -/
def SyntaxNode.leaves (n : SyntaxNode) : List Leaf :=
  n.leavesBefore []

/-- The token that a leaf prints as, if it prints at all. -/
def Leaf.token? : Leaf → Except PrintError (Option PlacedToken)
  | token _ text span => .ok (if text.isEmpty then none else some ⟨text, span⟩)
  | missing kind false span => .ok (some ⟨kind, span⟩)
  | missing kind true span => .error (.missingNode kind span.startLine)

/-- The tokens that some leaves print as; the first leaf that cannot be printed decides. -/
def tokensOf : List Leaf → Except PrintError (List PlacedToken)
  | [] => .ok []
  | l :: rest =>
    match l.token? with
    | .error e => .error e
    | .ok none => tokensOf rest
    | .ok (some t) =>
      match tokensOf rest with
      | .error e => .error e
      | .ok ts => .ok (t :: ts)

/-- The tokens that a node prints as, in order. -/
def SyntaxNode.tokens (n : SyntaxNode) : Except PrintError (List PlacedToken) :=
  tokensOf n.leaves

/-! ## Layout -/

namespace PlacedToken

/-- Whether the lines after a token are indented further. -/
def opens (t : PlacedToken) : Bool :=
  t.text == "\x7b" || t.text == "(" || t.text == "[" || t.text == "$\x7b"

/-- Whether a token ends an indentation. -/
def closes (t : PlacedToken) : Bool :=
  t.text == "\x7d" || t.text == ")" || t.text == "]"

/-- The indentation of a line that starts with a token. -/
def depthAt (t : PlacedToken) (depth : Nat) : Nat :=
  if t.closes then depth - 1 else depth

/-- The indentation after a token. -/
def depthAfter (t : PlacedToken) (depth : Nat) : Nat :=
  if t.opens then t.depthAt depth + 1 else t.depthAt depth

end PlacedToken

/-- What stands between two tokens. -/
def separator (previous next : PlacedToken) (depth : Nat) : String :=
  if next.span.startLine > previous.span.endLine then
    (if next.span.startLine - previous.span.endLine > 1 then "\n\n" else "\n") ++
      String.ofList (List.replicate (2 * depth) ' ')
  else if next.span.start > previous.span.stop then " "
  else ""

/-- The pieces of text for some tokens that follow a token, at an indentation: separators and tokens
in turn. -/
def piecesAfter (previous : PlacedToken) (depth : Nat) : List PlacedToken → List String
  | [] => []
  | t :: rest =>
    separator previous t (t.depthAt depth) :: t.text :: piecesAfter t (t.depthAfter depth) rest

/-- The text of some tokens. -/
def layout : List PlacedToken → String
  | [] => ""
  | t :: rest => String.join (t.text :: piecesAfter t (t.depthAfter 0) rest)

/-- The span from one token to another. -/
def spanBetween (first last : PlacedToken) : SourceSpan :=
  ⟨first.span.start, last.span.stop, first.span.startLine, last.span.endLine,
    first.span.startColumn⟩

/-- Prints some tokens. -/
def printTokens : List PlacedToken → Except PrintError Printed
  | [] => .error .empty
  | t :: rest => .ok ⟨layout (t :: rest), spanBetween t (rest.getLastD t)⟩

/-- Prints a subtree. -/
def SyntaxNode.print (n : SyntaxNode) : Except PrintError Printed :=
  match n.tokens with
  | .ok ts => printTokens ts
  | .error e => .error e

end ScriptCensus
