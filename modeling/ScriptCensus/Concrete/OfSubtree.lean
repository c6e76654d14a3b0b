import ScriptCensus.Concrete.Basic
import ScriptCensus.Parsing.Subtree

/-!
# The visible tree

The parser builds nodes for all symbols of the grammar. In the concrete tree hidden nodes are replaced
by their children, and children bear the names and fields that the production of their parent gives
them.
-/

namespace ScriptCensus.ConcreteTree

open Parsing Automaton

variable (a : Automaton) (text : SourceText)

/-- What is known about a node that shows as a symbol. -/
def infoOf (symbol : Nat) (d : SubtreeData) : ConcreteInfo :=
  { kind := a.name symbol
    named := a.visibility symbol == .named
    isError := symbol == errorSymbol
    isMissing := d.missing
    startByte := text.offset d.starts
    endByte := text.offset d.stops
    startRow := text.row d.starts
    endRow := text.row d.stops
    startColumn := (text.place d.starts).column }

mutual

/-- The concrete tree of a subtree that shows as a symbol. -/
def ofSubtreeAs (symbol : Nat) : Subtree → ConcreteTree
  | .node d cs => .node (infoOf a text symbol d) (visibleAll (a.production d.production) none 0 cs)

/-- The visible trees of the children of a node, in a place of its production. -/
def visibleAll (p : Production) (inherited : Option String) (place : Nat) :
    List Subtree → List (Option String × ConcreteTree)
  | [] => []
  | t :: rest =>
    visible p inherited place t ++
      visibleAll p inherited (if t.extra then place else place + 1) rest

/-- The visible trees of one child: itself, or if it is hidden its own children. What may stand
anywhere fills no field. -/
def visible (p : Production) (inherited : Option String) (place : Nat) :
    Subtree → List (Option String × ConcreteTree)
  | .node d cs =>
    let renamed := if d.extra then 0 else p.aliases.getD place 0
    let field := if d.extra then none else (p.fields.lookup place).or inherited
    if d.symbol != 0 && (renamed != 0 || d.visible) then
      [(field, ofSubtreeAs (if renamed = 0 then d.symbol else renamed) (.node d cs))]
    else visibleAll (a.production d.production) field 0 cs

end

/-- The concrete tree of a whole parse. -/
def ofSubtree (t : Subtree) : ConcreteTree :=
  ofSubtreeAs a text t.symbol t

end ScriptCensus.ConcreteTree
