/-!
# JSON values

A `JsonValue` is what a JSON text stands for. The members of an object are kept as a list; those of an
object that was read are sorted by key and have distinct keys (`insertMember`).
-/

namespace ScriptCensus

/-- A number of a JSON text. -/
inductive JsonNumber where
  | natural (n : Nat)
  /-- The number `-n`. -/
  | negative (n : Nat)
  | float (f : Float)
deriving Repr, Inhabited

/-- What a JSON text stands for. -/
inductive JsonValue where
  | null
  | bool (b : Bool)
  | number (n : JsonNumber)
  | string (s : String)
  | array (items : List JsonValue)
  | object (members : List (String × JsonValue))
deriving Inhabited

namespace JsonValue

/-- Adds a member to sorted members; an earlier member of the same key is replaced. Keys are ordered
by code points. -/
def insertMember (key : String) (value : JsonValue) :
    List (String × JsonValue) → List (String × JsonValue)
  | [] => [(key, value)]
  | (k, v) :: rest =>
    if key < k then (key, value) :: (k, v) :: rest
    else if key = k then (key, value) :: rest
    else (k, v) :: insertMember key value rest

/-- The value of a member. -/
def member? (key : String) : JsonValue → Option JsonValue
  | object members => members.lookup key
  | _ => none

end JsonValue

end ScriptCensus
