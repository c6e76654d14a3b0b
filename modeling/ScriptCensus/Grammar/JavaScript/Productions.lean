import ScriptCensus.Automaton.Basic

/-!
# The JavaScript productions

How the children of each kind of reduction are renamed, and which fields they fill.
-/

namespace ScriptCensus.Grammar.JavaScript

/-- The productions in order. -/
def productions : List Production :=
  [⟨[], []⟩, ⟨[1], []⟩, ⟨[], [(0, "decorator")]⟩, ⟨[], [(1, "declaration")]⟩, ⟨[259], []⟩,
   ⟨[], [(0, "name")]⟩, ⟨[], [(1, "body")]⟩, ⟨[], [(1, "constructor")]⟩,
   ⟨[], [(1, "argument"), (0, "operator")]⟩, ⟨[], [(1, "arguments"), (0, "function")]⟩,
   ⟨[], [(0, "argument"), (1, "operator")]⟩, ⟨[], [(1, "close_tag"), (0, "open_tag")]⟩, ⟨[], []⟩,
   ⟨[], [(2, "declaration")]⟩, ⟨[260], [(2, "body"), (0, "label")]⟩,
   ⟨[1], [(0, "left"), (2, "right")]⟩, ⟨[1], [(2, "body"), (0, "parameter")]⟩, ⟨[0, 261], []⟩,
   ⟨[0, 262], []⟩, ⟨[0, 1], []⟩, ⟨[], [(1, "source")]⟩, ⟨[], [(2, "body"), (1, "object")]⟩,
   ⟨[], [(0, "name")]⟩, ⟨[], [(0, "kind")]⟩, ⟨[], [(1, "condition"), (2, "consequence")]⟩,
   ⟨[], [(2, "body"), (1, "value")]⟩, ⟨[], [(2, "body")]⟩, ⟨[], [(2, "body"), (1, "condition")]⟩,
   ⟨[], [(1, "body"), (2, "handler")]⟩, ⟨[], [(1, "body"), (2, "finalizer")]⟩,
   ⟨[0, 260], [(1, "label")]⟩, ⟨[], [(1, "name")]⟩, ⟨[], [(0, "attribute")]⟩,
   ⟨[], [(0, "member")]⟩, ⟨[], [(0, "property")]⟩, ⟨[], [(2, "body"), (1, "name")]⟩,
   ⟨[], [(2, "body")]⟩, ⟨[], [(2, "body"), (1, "parameters")]⟩,
   ⟨[], [(2, "arguments"), (1, "constructor")]⟩, ⟨[], [(1, "pattern")]⟩,
   ⟨[], [(0, "left"), (2, "right")]⟩, ⟨[], [(2, "body"), (0, "parameter")]⟩,
   ⟨[], [(0, "left"), (1, "operator"), (2, "right")]⟩,
   ⟨[0, 0, 259], [(0, "object"), (2, "property")]⟩, ⟨[], [(0, "object"), (2, "property")]⟩,
   ⟨[0, 0, 259], [(0, "object"), (1, "optional_chain"), (2, "property")]⟩,
   ⟨[], [(0, "object"), (1, "optional_chain"), (2, "property")]⟩,
   ⟨[], [(2, "arguments"), (0, "function"), (1, "optional_chain")]⟩,
   ⟨[], [(2, "close_tag"), (0, "open_tag")]⟩, ⟨[], [(2, "body"), (0, "parameters")]⟩,
   ⟨[], [(2, "declaration")]⟩, ⟨[], [(2, "body")]⟩, ⟨[], []⟩, ⟨[], [(2, "value")]⟩,
   ⟨[262], [(0, "left"), (2, "right")]⟩, ⟨[], [(0, "key"), (2, "value")]⟩,
   ⟨[], [(2, "body"), (0, "name"), (1, "parameters")]⟩, ⟨[], [(1, "value")]⟩,
   ⟨[], [(3, "alternative"), (1, "condition"), (2, "consequence")]⟩, ⟨[], [(3, "body")]⟩,
   ⟨[], [(1, "body"), (3, "condition")]⟩, ⟨[], [(1, "body"), (3, "finalizer"), (2, "handler")]⟩,
   ⟨[], [(1, "name")]⟩, ⟨[], []⟩, ⟨[], [(1, "property")]⟩, ⟨[], [(0, "property")]⟩,
   ⟨[], [(1, "property")]⟩, ⟨[], []⟩, ⟨[], []⟩, ⟨[], [(3, "body"), (1, "name")]⟩,
   ⟨[0, 1], [(3, "body"), (1, "parameter")]⟩, ⟨[], [(3, "body"), (2, "parameters")]⟩,
   ⟨[], [(3, "body"), (1, "parameter")]⟩, ⟨[], [(3, "body"), (1, "parameters")]⟩,
   ⟨[], [(3, "body"), (1, "name"), (2, "parameters")]⟩, ⟨[], [(3, "flags"), (1, "pattern")]⟩,
   ⟨[], [(2, "index"), (0, "object")]⟩, ⟨[], [(3, "declaration")]⟩,
   ⟨[], [(3, "body"), (2, "name")]⟩, ⟨[], [(3, "body")]⟩, ⟨[], [(2, "alias"), (0, "name")]⟩,
   ⟨[], [(3, "body"), (1, "name"), (2, "parameters")]⟩, ⟨[], [(1, "property")]⟩,
   ⟨[], [(2, "property")]⟩, ⟨[], [(1, "property")]⟩, ⟨[], [(4, "body"), (3, "parameters")]⟩,
   ⟨[], [(4, "body"), (2, "name"), (3, "parameters")]⟩,
   ⟨[], [(4, "alternative"), (0, "condition"), (2, "consequence")]⟩,
   ⟨[], [(3, "index"), (0, "object"), (1, "optional_chain")]⟩, ⟨[], [(3, "value")]⟩,
   ⟨[], [(4, "body"), (2, "name")]⟩, ⟨[], [(4, "body"), (2, "name"), (3, "parameters")]⟩,
   ⟨[0, 1], [(1, "left"), (2, "operator"), (3, "right")]⟩,
   ⟨[], [(1, "left"), (2, "operator"), (3, "right")]⟩,
   ⟨[], [(5, "body"), (3, "condition"), (2, "initializer")]⟩, ⟨[], [(2, "property")]⟩,
   ⟨[], [(5, "body"), (3, "name"), (4, "parameters")]⟩,
   ⟨[], [(5, "body"), (3, "name"), (4, "parameters")]⟩, ⟨[], [(3, "body"), (1, "value")]⟩,
   ⟨[], [(1, "kind"), (2, "left"), (3, "operator"), (4, "right")]⟩,
   ⟨[], [(6, "body"), (3, "condition"), (4, "increment"), (2, "initializer")]⟩,
   ⟨[], [(6, "body"), (3, "condition"), (4, "condition"), (2, "initializer")]⟩,
   ⟨[], [(6, "body"), (4, "condition"), (2, "initializer")]⟩,
   ⟨[], [(4, "body"), (2, "parameter")]⟩, ⟨[], [(6, "body"), (4, "name"), (5, "parameters")]⟩,
   ⟨[], [(1, "kind"), (2, "left"), (4, "operator"), (5, "right")]⟩,
   ⟨[], [(1, "kind"), (2, "left"), (4, "operator"), (5, "right")]⟩,
   ⟨[], [(7, "body"), (3, "condition"), (4, "condition"), (5, "increment"), (2, "initializer")]⟩,
   ⟨[], [(7, "body"), (4, "condition"), (5, "increment"), (2, "initializer")]⟩,
   ⟨[], [(7, "body"), (4, "condition"), (5, "condition"), (2, "initializer")]⟩,
   ⟨[], [(8, "body"), (4, "condition"), (5, "condition"), (6, "increment"), (2, "initializer")]⟩]

end ScriptCensus.Grammar.JavaScript
