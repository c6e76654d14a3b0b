import ScriptCensus.Automaton.Basic

/-!
# The TypeScript productions

How the children of each kind of reduction are renamed, and which fields they fill.
-/

namespace ScriptCensus.Grammar.TypeScript

/-- The productions in order. -/
def productions : List Production :=
  [⟨[], []⟩, ⟨[1], []⟩, ⟨[], [(0, "decorator")]⟩, ⟨[], [(0, "parameters")]⟩,
   ⟨[], [(1, "declaration")]⟩, ⟨[], [(0, "name")]⟩, ⟨[], []⟩, ⟨[375], []⟩,
   ⟨[], [(1, "argument"), (0, "operator")]⟩, ⟨[], [(0, "pattern")]⟩, ⟨[], []⟩,
   ⟨[], [(1, "body")]⟩, ⟨[], [(1, "constructor")]⟩, ⟨[376], []⟩, ⟨[376], [(0, "name")]⟩,
   ⟨[377], []⟩, ⟨[], []⟩, ⟨[], []⟩, ⟨[], []⟩, ⟨[], [(1, "arguments"), (0, "function")]⟩,
   ⟨[], [(0, "argument"), (1, "operator")]⟩, ⟨[], [(1, "type_arguments")]⟩,
   ⟨[], [(0, "parameters"), (1, "return_type")]⟩,
   ⟨[], [(1, "parameters"), (0, "type_parameters")]⟩, ⟨[], []⟩, ⟨[], [(2, "declaration")]⟩,
   ⟨[1], [(0, "left"), (2, "right")]⟩, ⟨[378], [(2, "body"), (0, "label")]⟩,
   ⟨[1], [(2, "body"), (0, "parameter")]⟩, ⟨[], [(1, "source")]⟩,
   ⟨[], [(1, "body"), (0, "name")]⟩, ⟨[0, 379], []⟩, ⟨[0, 380], []⟩, ⟨[0, 1], []⟩,
   ⟨[], [(2, "body"), (1, "object")]⟩, ⟨[], [(0, "name")]⟩, ⟨[], [(0, "name"), (1, "type")]⟩,
   ⟨[], [(0, "kind")]⟩, ⟨[], [(1, "condition"), (2, "consequence")]⟩,
   ⟨[], [(2, "body"), (1, "value")]⟩, ⟨[], [(2, "body")]⟩, ⟨[], [(1, "pattern")]⟩, ⟨[], []⟩,
   ⟨[], [(1, "type")]⟩, ⟨[], [(1, "pattern")]⟩, ⟨[], [(2, "body"), (1, "condition")]⟩,
   ⟨[], [(1, "body"), (2, "handler")]⟩, ⟨[], [(1, "body"), (2, "finalizer")]⟩,
   ⟨[0, 378], [(1, "label")]⟩, ⟨[0, 376], [(2, "body"), (1, "name")]⟩, ⟨[], [(0, "value")]⟩,
   ⟨[], []⟩, ⟨[], [(2, "body")]⟩, ⟨[], [(2, "body"), (1, "type_parameters")]⟩,
   ⟨[], [(2, "body")]⟩, ⟨[], [(2, "arguments"), (1, "constructor")]⟩,
   ⟨[], [(1, "constructor"), (2, "type_arguments")]⟩, ⟨[], []⟩, ⟨[], []⟩, ⟨[], []⟩, ⟨[], []⟩,
   ⟨[], []⟩, ⟨[0, 376], [(1, "name")]⟩, ⟨[376], [(0, "name"), (1, "type_arguments")]⟩,
   ⟨[376], [(0, "name"), (1, "value")]⟩, ⟨[376], [(1, "constraint"), (0, "name")]⟩,
   ⟨[0, 376], []⟩, ⟨[0, 153], []⟩, ⟨[], [(0, "name"), (1, "type_arguments")]⟩,
   ⟨[], [(1, "arguments"), (0, "function")]⟩, ⟨[], [(0, "left"), (2, "right")]⟩,
   ⟨[], [(2, "body"), (0, "parameter")]⟩, ⟨[], [(0, "left"), (1, "operator"), (2, "right")]⟩,
   ⟨[0, 376, 381], [(2, "body"), (1, "name")]⟩, ⟨[], [(2, "body"), (1, "name")]⟩,
   ⟨[0, 0, 375], [(0, "object"), (2, "property")]⟩, ⟨[], [(0, "object"), (2, "property")]⟩,
   ⟨[0, 0, 375], [(0, "object"), (1, "optional_chain"), (2, "property")]⟩,
   ⟨[], [(0, "object"), (1, "optional_chain"), (2, "property")]⟩,
   ⟨[], [(2, "arguments"), (0, "function"), (1, "type_arguments")]⟩,
   ⟨[], [(2, "arguments"), (0, "function")]⟩, ⟨[], [(2, "body")]⟩,
   ⟨[], [(1, "parameters"), (2, "return_type"), (0, "type_parameters")]⟩,
   ⟨[], [(2, "declaration")]⟩, ⟨[], [(2, "body")]⟩, ⟨[], []⟩, ⟨[], [(2, "value")]⟩,
   ⟨[], [(1, "name")]⟩, ⟨[], [(2, "source")]⟩, ⟨[233, 0, 375], [(0, "object"), (2, "property")]⟩,
   ⟨[380], [(0, "left"), (2, "right")]⟩, ⟨[], [(0, "key"), (2, "value")]⟩,
   ⟨[], [(2, "body"), (0, "name")]⟩, ⟨[], [(1, "value")]⟩, ⟨[], [(0, "name"), (2, "type")]⟩,
   ⟨[], [(0, "name"), (1, "type")]⟩, ⟨[], [(3, "body"), (2, "name")]⟩,
   ⟨[], [(3, "alternative"), (1, "condition"), (2, "consequence")]⟩, ⟨[], [(3, "body")]⟩,
   ⟨[], [(2, "type")]⟩, ⟨[], [(2, "pattern")]⟩, ⟨[], []⟩, ⟨[], [(2, "type")]⟩,
   ⟨[], [(1, "type")]⟩, ⟨[], [(2, "pattern")]⟩, ⟨[], [(1, "body"), (3, "condition")]⟩,
   ⟨[], [(1, "body"), (3, "finalizer"), (2, "handler")]⟩, ⟨[], [(0, "name")]⟩, ⟨[], []⟩,
   ⟨[], [(1, "name")]⟩, ⟨[], []⟩, ⟨[0, 376], [(3, "body"), (1, "name")]⟩,
   ⟨[0, 376], [(3, "body"), (1, "name"), (2, "type_parameters")]⟩,
   ⟨[], [(1, "type_arguments"), (0, "value")]⟩, ⟨[], []⟩,
   ⟨[], [(3, "body"), (1, "type_parameters")]⟩, ⟨[0, 1], [(3, "body"), (1, "parameter")]⟩,
   ⟨[], [(3, "body")]⟩, ⟨[], [(3, "body"), (1, "parameter")]⟩, ⟨[], [(3, "body")]⟩,
   ⟨[], [(1, "name")]⟩, ⟨[], [(3, "body"), (1, "name")]⟩,
   ⟨[], [(3, "arguments"), (1, "constructor"), (2, "type_arguments")]⟩,
   ⟨[0, 1], [(1, "left"), (3, "right")]⟩, ⟨[], [(1, "left"), (3, "right")]⟩,
   ⟨[], [(3, "flags"), (1, "pattern")]⟩, ⟨[], [(1, "parameters")]⟩,
   ⟨[], [(0, "function"), (1, "type_arguments")]⟩, ⟨[], [(0, "function"), (1, "type_arguments")]⟩,
   ⟨[], [(1, "arguments"), (0, "function")]⟩, ⟨[], [(0, "function"), (1, "type_arguments")]⟩,
   ⟨[0, 376], [(1, "name"), (2, "value")]⟩, ⟨[0, 376], [(2, "constraint"), (1, "name")]⟩,
   ⟨[0, 0, 376], [(0, "module"), (2, "name")]⟩,
   ⟨[376], [(1, "constraint"), (0, "name"), (2, "value")]⟩,
   ⟨[], [(0, "parameters"), (2, "return_type")]⟩, ⟨[0, 0, 375], [(0, "object"), (2, "property")]⟩,
   ⟨[], [(0, "object"), (2, "property")]⟩, ⟨[0, 0, 375], [(0, "object"), (2, "property")]⟩,
   ⟨[], [(0, "object"), (2, "property")]⟩, ⟨[0, 0, 376], [(3, "body"), (2, "name")]⟩,
   ⟨[0, 376], [(1, "type")]⟩, ⟨[], [(1, "type")]⟩, ⟨[0, 376, 0, 381], [(3, "body"), (1, "name")]⟩,
   ⟨[0, 376, 0, 381], [(3, "body"), (1, "name"), (2, "type_parameters")]⟩,
   ⟨[], [(2, "index"), (0, "object")]⟩,
   ⟨[], [(3, "arguments"), (0, "function"), (2, "type_arguments")]⟩, ⟨[], [(3, "declaration")]⟩,
   ⟨[0, 0, 376], [(3, "body"), (2, "name")]⟩, ⟨[], [(3, "body")]⟩,
   ⟨[], [(3, "body"), (2, "type_parameters")]⟩, ⟨[], []⟩, ⟨[], [(2, "alias"), (0, "name")]⟩,
   ⟨[0, 376], [(1, "name"), (3, "value")]⟩, ⟨[1], [(2, "alias"), (0, "name")]⟩,
   ⟨[], [(3, "body"), (0, "name")]⟩, ⟨[], [(3, "pattern")]⟩, ⟨[], [(2, "type")]⟩,
   ⟨[], [(3, "pattern")]⟩, ⟨[], [(2, "name")]⟩, ⟨[], [(1, "name")]⟩,
   ⟨[], [(1, "name"), (2, "type")]⟩, ⟨[], [(0, "name")]⟩, ⟨[], [(0, "name")]⟩,
   ⟨[], [(2, "name")]⟩, ⟨[], [(1, "name")]⟩, ⟨[], [(1, "name"), (2, "type")]⟩,
   ⟨[0, 376], [(4, "body"), (1, "name"), (2, "type_parameters")]⟩, ⟨[], []⟩, ⟨[], [(4, "body")]⟩,
   ⟨[], [(2, "name")]⟩, ⟨[], [(4, "body"), (2, "name")]⟩, ⟨[], [(1, "parameters"), (2, "type")]⟩,
   ⟨[], [(2, "parameters"), (1, "type_parameters")]⟩, ⟨[], [(2, "parameters")]⟩,
   ⟨[0, 0, 375], [(0, "object"), (2, "property")]⟩, ⟨[], [(0, "object"), (2, "property")]⟩,
   ⟨[0, 376], [(2, "constraint"), (1, "name"), (3, "value")]⟩,
   ⟨[], [(1, "parameters"), (3, "type")]⟩,
   ⟨[], [(1, "parameters"), (3, "return_type"), (0, "type_parameters")]⟩,
   ⟨[0, 0, 376], [(4, "body"), (2, "name")]⟩,
   ⟨[0, 0, 376], [(4, "body"), (2, "name"), (3, "type_parameters")]⟩, ⟨[0, 376], [(1, "type")]⟩,
   ⟨[], [(1, "type")]⟩, ⟨[0, 376, 0, 0, 381], [(4, "body"), (1, "name"), (2, "type_parameters")]⟩,
   ⟨[], [(4, "alternative"), (0, "condition"), (2, "consequence")]⟩,
   ⟨[], [(3, "index"), (0, "object"), (1, "optional_chain")]⟩, ⟨[1], [(0, "name"), (2, "type")]⟩,
   ⟨[], [(3, "value")]⟩, ⟨[0, 0, 376], [(4, "body"), (2, "name")]⟩,
   ⟨[0, 0, 376], [(4, "body"), (2, "name"), (3, "type_parameters")]⟩,
   ⟨[], [(4, "body"), (2, "type_parameters")]⟩, ⟨[0, 0, 0, 376], [(4, "body"), (3, "name")]⟩,
   ⟨[], [(3, "alias"), (1, "name")]⟩,
   ⟨[0, 376], [(1, "name"), (2, "type_parameters"), (4, "value")]⟩,
   ⟨[0, 1], [(3, "alias"), (1, "name")]⟩, ⟨[], [(4, "body"), (1, "name")]⟩,
   ⟨[0, 1], [(1, "left"), (2, "operator"), (3, "right")]⟩,
   ⟨[], [(1, "left"), (2, "operator"), (3, "right")]⟩,
   ⟨[], [(5, "body"), (3, "condition"), (2, "initializer")]⟩, ⟨[], [(4, "pattern")]⟩,
   ⟨[], [(1, "name")]⟩, ⟨[376], [(0, "name"), (2, "type")]⟩, ⟨[], [(3, "type")]⟩,
   ⟨[], [(2, "name")]⟩, ⟨[], [(2, "name"), (3, "type")]⟩, ⟨[], [(1, "name")]⟩,
   ⟨[], [(1, "name"), (3, "type")]⟩, ⟨[], [(1, "name"), (2, "type")]⟩, ⟨[], [(3, "name")]⟩,
   ⟨[], [(0, "name"), (2, "type")]⟩, ⟨[], [(3, "name")]⟩, ⟨[], [(2, "name")]⟩,
   ⟨[], [(2, "name"), (3, "type")]⟩, ⟨[], [(1, "name")]⟩, ⟨[], [(1, "name"), (3, "type")]⟩,
   ⟨[], [(1, "name"), (2, "type")]⟩, ⟨[], [(5, "body"), (3, "name")]⟩,
   ⟨[], [(2, "parameters"), (3, "type"), (1, "type_parameters")]⟩,
   ⟨[], [(2, "parameters"), (3, "type")]⟩, ⟨[], [(3, "parameters"), (2, "type_parameters")]⟩,
   ⟨[], [(2, "index"), (0, "object")]⟩, ⟨[], [(2, "index"), (0, "object")]⟩,
   ⟨[], [(2, "index"), (0, "object")]⟩,
   ⟨[], [(2, "parameters"), (4, "type"), (1, "type_parameters")]⟩,
   ⟨[], [(2, "parameters"), (4, "type")]⟩,
   ⟨[0, 0, 376], [(5, "body"), (2, "name"), (3, "type_parameters")]⟩, ⟨[], []⟩,
   ⟨[], [(1, "name")]⟩, ⟨[], []⟩, ⟨[], []⟩,
   ⟨[0, 0, 376], [(5, "body"), (2, "name"), (3, "type_parameters")]⟩,
   ⟨[0, 0, 0, 376], [(5, "body"), (3, "name")]⟩,
   ⟨[0, 0, 0, 376], [(5, "body"), (3, "name"), (4, "type_parameters")]⟩, ⟨[], [(4, "source")]⟩,
   ⟨[], [(5, "body"), (2, "name")]⟩, ⟨[], [(3, "body"), (1, "value")]⟩,
   ⟨[], [(1, "kind"), (2, "left"), (3, "operator"), (4, "right")]⟩,
   ⟨[], [(6, "body"), (3, "condition"), (4, "increment"), (2, "initializer")]⟩,
   ⟨[], [(6, "body"), (3, "condition"), (4, "condition"), (2, "initializer")]⟩,
   ⟨[], [(6, "body"), (4, "condition"), (2, "initializer")]⟩,
   ⟨[], [(4, "body"), (2, "parameter")]⟩, ⟨[], [(2, "name")]⟩, ⟨[], [(3, "name")]⟩,
   ⟨[], [(2, "name")]⟩, ⟨[], [(2, "name"), (4, "type")]⟩, ⟨[], [(2, "name"), (3, "type")]⟩,
   ⟨[], [(1, "name"), (3, "type")]⟩, ⟨[], [(3, "name")]⟩, ⟨[], [(3, "name"), (4, "type")]⟩,
   ⟨[], [(4, "type")]⟩, ⟨[], [(4, "name")]⟩, ⟨[], [(3, "name")]⟩,
   ⟨[], [(3, "name"), (4, "type")]⟩, ⟨[], [(2, "name")]⟩, ⟨[], [(2, "name"), (4, "type")]⟩,
   ⟨[], [(2, "name"), (3, "type")]⟩, ⟨[], [(4, "name")]⟩, ⟨[], [(1, "name"), (3, "type")]⟩,
   ⟨[], [(3, "parameters"), (4, "type"), (2, "type_parameters")]⟩,
   ⟨[], [(3, "index"), (0, "object")]⟩, ⟨[], [(3, "index"), (0, "object")]⟩,
   ⟨[], [(3, "index"), (0, "object")]⟩, ⟨[], [(3, "index"), (0, "object")]⟩,
   ⟨[], [(3, "parameters"), (5, "type"), (2, "type_parameters")]⟩, ⟨[0, 0, 0, 375], []⟩,
   ⟨[0, 0, 0, 376], [(6, "body"), (3, "name"), (4, "type_parameters")]⟩,
   ⟨[], [(6, "body"), (3, "name")]⟩, ⟨[], [(6, "body"), (4, "name")]⟩,
   ⟨[], [(1, "kind"), (2, "left"), (4, "operator"), (5, "right")]⟩,
   ⟨[], [(1, "kind"), (2, "left"), (4, "operator"), (5, "right")]⟩,
   ⟨[], [(7, "body"), (3, "condition"), (4, "condition"), (5, "increment"), (2, "initializer")]⟩,
   ⟨[], [(7, "body"), (4, "condition"), (5, "increment"), (2, "initializer")]⟩,
   ⟨[], [(7, "body"), (4, "condition"), (5, "condition"), (2, "initializer")]⟩,
   ⟨[], [(5, "body"), (2, "parameter"), (3, "type")]⟩,
   ⟨[0, 1], [(3, "index_type"), (1, "name"), (5, "type")]⟩,
   ⟨[376], [(4, "alias"), (0, "name"), (2, "type")]⟩,
   ⟨[], [(3, "index_type"), (1, "name"), (5, "type")]⟩, ⟨[], [(0, "sign"), (5, "type")]⟩,
   ⟨[], [(3, "name")]⟩, ⟨[], [(4, "name")]⟩, ⟨[], [(2, "name"), (4, "type")]⟩,
   ⟨[], [(3, "name")]⟩, ⟨[], [(3, "name"), (5, "type")]⟩, ⟨[], [(3, "name"), (4, "type")]⟩,
   ⟨[], [(4, "name")]⟩, ⟨[], [(4, "name"), (5, "type")]⟩, ⟨[], [(5, "name")]⟩,
   ⟨[], [(3, "name")]⟩, ⟨[], [(3, "name"), (5, "type")]⟩, ⟨[], [(3, "name"), (4, "type")]⟩,
   ⟨[], [(2, "name"), (4, "type")]⟩, ⟨[], [(4, "name")]⟩, ⟨[], [(4, "name"), (5, "type")]⟩,
   ⟨[], [(5, "name")]⟩, ⟨[], [(6, "alternative"), (4, "consequence"), (0, "left"), (2, "right")]⟩,
   ⟨[], [(7, "body"), (4, "name")]⟩, ⟨[], [(7, "body"), (5, "name")]⟩,
   ⟨[], [(8, "body"), (4, "condition"), (5, "condition"), (6, "increment"), (2, "initializer")]⟩,
   ⟨[], [(4, "name")]⟩, ⟨[], [(5, "name")]⟩, ⟨[], [(3, "name"), (5, "type")]⟩,
   ⟨[0, 0, 1], [(4, "index_type"), (2, "name"), (6, "type")]⟩,
   ⟨[], [(4, "index_type"), (2, "name"), (6, "type")]⟩, ⟨[], [(4, "name")]⟩,
   ⟨[], [(4, "name"), (6, "type")]⟩, ⟨[], [(4, "name"), (5, "type")]⟩, ⟨[], [(5, "name")]⟩,
   ⟨[], [(5, "name"), (6, "type")]⟩, ⟨[], [(3, "name"), (5, "type")]⟩, ⟨[], [(4, "name")]⟩,
   ⟨[], [(4, "name"), (6, "type")]⟩, ⟨[], [(4, "name"), (5, "type")]⟩, ⟨[], [(5, "name")]⟩,
   ⟨[], [(5, "name"), (6, "type")]⟩, ⟨[], [(6, "name")]⟩, ⟨[], [(8, "body"), (5, "name")]⟩,
   ⟨[], [(8, "body"), (6, "name")]⟩,
   ⟨[0, 0, 0, 1], [(5, "index_type"), (3, "name"), (0, "sign"), (7, "type")]⟩,
   ⟨[], [(5, "index_type"), (3, "name"), (0, "sign"), (7, "type")]⟩, ⟨[], [(5, "name")]⟩,
   ⟨[], [(4, "name"), (6, "type")]⟩, ⟨[], [(5, "name")]⟩, ⟨[], [(5, "name"), (7, "type")]⟩,
   ⟨[], [(5, "name"), (6, "type")]⟩, ⟨[], [(6, "name")]⟩, ⟨[], [(4, "name"), (6, "type")]⟩,
   ⟨[], [(5, "name")]⟩, ⟨[], [(5, "name"), (7, "type")]⟩, ⟨[], [(5, "name"), (6, "type")]⟩,
   ⟨[], [(6, "name")]⟩, ⟨[], [(6, "name"), (7, "type")]⟩, ⟨[], [(9, "body"), (6, "name")]⟩,
   ⟨[], [(5, "name"), (7, "type")]⟩, ⟨[], [(6, "name")]⟩, ⟨[], [(5, "name"), (7, "type")]⟩,
   ⟨[], [(6, "name")]⟩, ⟨[], [(6, "name"), (8, "type")]⟩, ⟨[], [(6, "name"), (7, "type")]⟩,
   ⟨[], [(6, "name"), (8, "type")]⟩]

end ScriptCensus.Grammar.TypeScript
