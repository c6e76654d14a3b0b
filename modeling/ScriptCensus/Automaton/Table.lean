import ScriptCensus.Automaton.Basic

/-!
# Reading packed tables

The tables of an automaton are packed in five texts: the distinct lists of actions, the sets of
tokens that share them, the rows of the two tables, and the states that refer to the rows.
-/

namespace ScriptCensus

/-- The texts that hold the tables of an automaton. -/
structure PackedTable where
  entries : String
  groups : String
  tokenRows : String
  gotoRows : String
  states : String

namespace PackedTable

open Packed

/-- Reads an action; the precedence of a reduction is stored with sixteen added. -/
def action : StateM Reader ParseAction := do
  match ← next with
  | 0 => return .shift (← next)
  | 1 => return .shiftRepetition (← next)
  | 2 => return .shiftExtra
  | 3 =>
    let symbol ← next
    let count ← next
    let precedence ← next
    return .reduce symbol count ((precedence : Int) - 16) (← next)
  | 4 => return .accept
  | _ => return .recover

/-- Reads the actions for a token. -/
def entry : StateM Reader ActionEntry := do
  let reusable ← next
  return ⟨(← many action).toList, reusable == 1⟩

/-- The sums of the prefixes of a list of differences. -/
def undoDifferences (ds : Array Nat) : Array Nat :=
  (ds.foldl (fun (sums, last) d => (sums.push (last + d), last + d)) (#[], 0)).1

/-- Reads an increasing list of symbols from their differences. -/
def group : StateM Reader (Array Nat) := do
  return undoDifferences (← many next)

/-- Reads a pair of numbers. -/
def pair : StateM Reader (Nat × Nat) := do
  return (← next, ← next)

/-- The row in which every token of a group has the entry of that group. -/
def tokenRow (tokenCount : Nat) (groups : Array (Array Nat)) (pairs : Array (Nat × Nat)) :
    Array Nat :=
  pairs.foldl (fun row (entry, group) =>
    (groups.getD group #[]).foldl (fun row token => row.setIfInBounds token (entry + 1)) row)
    (Array.replicate tokenCount 0)

/-- The row of the states after symbols, from the differences between the symbols. -/
def gotoRow (tokenCount width : Nat) (pairs : Array (Nat × Nat)) : Array Nat :=
  (pairs.foldl (fun (row, last) (difference, state) =>
    let symbol := last + difference
    (row.setIfInBounds (symbol - tokenCount) state, symbol)) (Array.replicate width 0, 0)).1

/-- Reads a state. -/
def state : StateM Reader ParseState := do
  return ⟨← next, ← next, ← next, ← next⟩

/-- Puts the tables of an automaton in place. -/
def install (t : PackedTable) (a : Automaton) : Automaton :=
  let groups := read (many group) t.groups
  let width := a.symbols.size - a.tokenCount
  { a with
    entries := read (many entry) t.entries
    tokenRows := (read (many (many pair)) t.tokenRows).map (tokenRow a.tokenCount groups)
    gotoRows := (read (many (many pair)) t.gotoRows).map (gotoRow a.tokenCount width)
    states := read (many state) t.states }

end PackedTable

end ScriptCensus
