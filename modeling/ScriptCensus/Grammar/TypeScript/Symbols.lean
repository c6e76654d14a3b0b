import ScriptCensus.Automaton.Basic

/-!
# The TypeScript symbols

The symbols of the grammar: the end of the text, the tokens, the rules, and the names that only
renamed children bear.
-/

namespace ScriptCensus.Grammar.TypeScript

/-- The symbols in order. -/
def symbols : List GrammarSymbol :=
  [.silent "end", .ruled "identifier", .ruled "hash_bang_line", .verbatim "export", .verbatim "*",
   .verbatim "default", .verbatim "type", .verbatim "import", .verbatim "=", .verbatim "as",
   .verbatim "namespace", .verbatim "\x7b", .verbatim ",", .verbatim "\x7d", .verbatim "typeof",
   .verbatim "from", .verbatim "with", .verbatim "var", .verbatim "let", .verbatim "const",
   .verbatim "!", .verbatim "else", .verbatim "if", .verbatim "switch", .verbatim "for",
   .verbatim "(", .verbatim ";", .verbatim ")", .verbatim "await", .verbatim "in", .verbatim "of",
   .verbatim "while", .verbatim "do", .verbatim "try", .verbatim "break", .verbatim "continue",
   .verbatim "debugger", .verbatim "return", .verbatim "throw", .verbatim ":", .verbatim "case",
   .verbatim "catch", .verbatim "finally", .verbatim "yield", .verbatim "[", .verbatim "]",
   .verbatim ".", .verbatim "class", .verbatim "async", .verbatim "function", .verbatim "=>",
   .verbatim "?.", .verbatim "new", .verbatim "using", .verbatim "+=", .verbatim "-=",
   .verbatim "*=", .verbatim "/=", .verbatim "%=", .verbatim "^=", .verbatim "&=", .verbatim "|=",
   .verbatim ">>=", .verbatim ">>>=", .verbatim "<<=", .verbatim "**=", .verbatim "&&=",
   .verbatim "||=", .verbatim "??=", .verbatim "...", .verbatim "&&", .verbatim "||",
   .verbatim ">>", .verbatim ">>>", .verbatim "<<", .verbatim "&", .verbatim "^", .verbatim "|",
   .verbatim "+", .verbatim "-", .verbatim "/", .verbatim "%", .verbatim "**", .verbatim "<",
   .verbatim "<=", .verbatim "==", .verbatim "===", .verbatim "!=", .verbatim "!==",
   .verbatim ">=", .verbatim ">", .verbatim "??", .verbatim "instanceof", .verbatim "~",
   .verbatim "void", .verbatim "delete", .verbatim "++", .verbatim "--", .verbatim "\"",
   .verbatim "'", .ruled "string_fragment", .ruled "string_fragment", .ruled "escape_sequence",
   .ruled "comment", .verbatim "\x60", .verbatim "$\x7b", .verbatim "/", .ruled "regex_pattern",
   .ruled "regex_flags", .ruled "number", .ruled "private_property_identifier",
   .verbatim "target", .verbatim "meta", .ruled "this", .ruled "super", .ruled "true",
   .ruled "false", .ruled "null", .ruled "undefined", .verbatim "@", .verbatim "static",
   .verbatim "readonly", .verbatim "get", .verbatim "set", .verbatim "?", .verbatim "declare",
   .verbatim "public", .verbatim "private", .verbatim "protected", .verbatim "override",
   .verbatim "module", .verbatim "any", .verbatim "number", .verbatim "boolean",
   .verbatim "string", .verbatim "symbol", .verbatim "object", .verbatim "abstract",
   .verbatim "accessor", .verbatim "satisfies", .verbatim "require", .verbatim "extends",
   .verbatim "implements", .verbatim "global", .verbatim "interface", .verbatim "enum",
   .verbatim "-?:", .verbatim "+?:", .verbatim "?:", .verbatim "asserts", .verbatim "infer",
   .verbatim "is", .verbatim "keyof", .verbatim "unique symbol", .verbatim "unknown",
   .verbatim "never", .verbatim "\x7b|", .verbatim "|\x7d", .silent "_automatic_semicolon",
   .ruled "string_fragment", .verbatim "?", .ruled "html_comment", .ruled "jsx_text",
   .silent "_function_signature_automatic_semicolon", .silent "__error_recovery",
   .ruled "program", .ruled "export_statement", .ruled "namespace_export", .ruled "export_clause",
   .ruled "export_specifier", .silent "_module_export_name", .silent "declaration",
   .ruled "import", .ruled "import_statement", .ruled "import_clause", .silent "_from_clause",
   .ruled "namespace_import", .ruled "named_imports", .ruled "import_specifier",
   .ruled "import_attribute", .silent "statement", .ruled "expression_statement",
   .ruled "variable_declaration", .ruled "lexical_declaration", .ruled "variable_declarator",
   .ruled "statement_block", .ruled "else_clause", .ruled "if_statement",
   .ruled "switch_statement", .ruled "for_statement", .ruled "for_in_statement",
   .silent "_for_header", .ruled "while_statement", .ruled "do_statement", .ruled "try_statement",
   .ruled "with_statement", .ruled "break_statement", .ruled "continue_statement",
   .ruled "debugger_statement", .ruled "return_statement", .ruled "throw_statement",
   .ruled "empty_statement", .ruled "labeled_statement", .ruled "switch_body",
   .ruled "switch_case", .ruled "switch_default", .ruled "catch_clause", .ruled "finally_clause",
   .ruled "parenthesized_expression", .silent "expression", .silent "primary_expression",
   .ruled "yield_expression", .ruled "object", .ruled "object_pattern",
   .ruled "assignment_pattern", .ruled "object_assignment_pattern", .ruled "array",
   .ruled "array_pattern", .ruled "nested_identifier", .ruled "class", .ruled "class_declaration",
   .ruled "class_heritage", .ruled "function_expression", .ruled "function_declaration",
   .ruled "generator_function", .ruled "generator_function_declaration", .ruled "arrow_function",
   .silent "_call_signature", .silent "_formal_parameter", .ruled "optional_chain",
   .ruled "call_expression", .ruled "new_expression", .ruled "await_expression",
   .ruled "member_expression", .ruled "subscript_expression", .ruled "assignment_expression",
   .silent "_augmented_assignment_lhs", .ruled "augmented_assignment_expression",
   .silent "_initializer", .silent "_destructuring_pattern", .ruled "spread_element",
   .ruled "ternary_expression", .ruled "binary_expression", .ruled "unary_expression",
   .ruled "update_expression", .ruled "sequence_expression", .ruled "string",
   .ruled "template_string", .ruled "template_substitution", .ruled "regex",
   .ruled "meta_property", .ruled "arguments", .ruled "decorator", .ruled "member_expression",
   .ruled "call_expression", .ruled "class_body", .ruled "formal_parameters",
   .ruled "class_static_block", .silent "pattern", .ruled "rest_pattern",
   .ruled "method_definition", .ruled "pair", .ruled "pair_pattern", .silent "_property_name",
   .ruled "computed_property_name", .ruled "public_field_definition",
   .silent "_import_identifier", .ruled "non_null_expression", .ruled "method_signature",
   .ruled "abstract_method_signature", .ruled "function_signature",
   .ruled "parenthesized_expression", .ruled "type_assertion", .ruled "as_expression",
   .ruled "satisfies_expression", .ruled "instantiation_expression",
   .ruled "import_require_clause", .ruled "extends_clause", .silent "_extends_clause_single",
   .ruled "implements_clause", .ruled "ambient_declaration", .ruled "abstract_class_declaration",
   .ruled "module", .ruled "internal_module", .silent "_module", .ruled "import_alias",
   .ruled "nested_type_identifier", .ruled "interface_declaration", .ruled "extends_type_clause",
   .ruled "enum_declaration", .ruled "enum_body", .ruled "enum_assignment",
   .ruled "type_alias_declaration", .ruled "accessibility_modifier", .ruled "override_modifier",
   .ruled "required_parameter", .ruled "optional_parameter", .silent "_parameter_name",
   .ruled "omitting_type_annotation", .ruled "adding_type_annotation",
   .ruled "opting_type_annotation", .ruled "type_annotation", .ruled "member_expression",
   .ruled "call_expression", .ruled "asserts", .ruled "asserts_annotation", .silent "type",
   .ruled "required_parameter", .ruled "optional_parameter", .ruled "optional_type",
   .ruled "rest_type", .silent "_tuple_type_member", .ruled "constructor_type",
   .silent "primary_type", .ruled "template_type", .ruled "template_literal_type",
   .ruled "infer_type", .ruled "conditional_type", .ruled "generic_type", .ruled "type_predicate",
   .ruled "type_predicate_annotation", .ruled "member_expression", .ruled "subscript_expression",
   .ruled "call_expression", .ruled "instantiation_expression", .ruled "type_query",
   .ruled "index_type_query", .ruled "lookup_type", .ruled "mapped_type_clause",
   .ruled "literal_type", .ruled "unary_expression", .ruled "existential_type",
   .ruled "flow_maybe_type", .ruled "parenthesized_type", .ruled "predefined_type",
   .ruled "type_arguments", .ruled "object_type", .ruled "call_signature",
   .ruled "property_signature", .ruled "type_parameters", .ruled "type_parameter",
   .ruled "default_type", .ruled "constraint", .ruled "construct_signature",
   .ruled "index_signature", .ruled "array_type", .ruled "tuple_type", .ruled "readonly_type",
   .ruled "union_type", .ruled "intersection_type", .ruled "function_type",
   .silent "program_repeat1", .silent "export_statement_repeat1", .silent "export_clause_repeat1",
   .silent "named_imports_repeat1", .silent "variable_declaration_repeat1",
   .silent "switch_body_repeat1", .silent "object_repeat1", .silent "object_pattern_repeat1",
   .silent "array_repeat1", .silent "array_pattern_repeat1",
   .silent "sequence_expression_repeat1", .silent "string_repeat1", .silent "string_repeat2",
   .silent "template_string_repeat1", .silent "class_body_repeat1",
   .silent "formal_parameters_repeat1", .silent "extends_clause_repeat1",
   .silent "implements_clause_repeat1", .silent "extends_type_clause_repeat1",
   .silent "enum_body_repeat1", .silent "template_literal_type_repeat1",
   .silent "object_type_repeat1", .silent "type_parameters_repeat1", .silent "tuple_type_repeat1",
   .ruled "property_identifier", .ruled "type_identifier", .ruled "this_type",
   .ruled "statement_identifier", .ruled "shorthand_property_identifier",
   .ruled "shorthand_property_identifier_pattern", .ruled "interface_body"]

/-- The number of symbols that are tokens, the end of the text included. -/
def tokenCount : Nat := 165

/-- The context-dependent tokens that the states expect. -/
def contextModes : List (List ContextToken) :=
  [[],
   [.automaticSemicolon, .templateChars, .ternaryMark, .htmlComment, .logicalOr, .escapeSequence,
    .jsxText, .signatureSemicolon, .errorRecovery],
   [.htmlComment],
   [.ternaryMark, .htmlComment, .logicalOr],
   [.automaticSemicolon, .ternaryMark, .htmlComment, .logicalOr],
   [.automaticSemicolon, .htmlComment],
   [.automaticSemicolon, .htmlComment, .signatureSemicolon],
   [.templateChars, .htmlComment, .escapeSequence],
   [.templateChars, .htmlComment],
   [.htmlComment, .escapeSequence],
   [.htmlComment, .regexPattern]]

/-- The symbols of the context-dependent tokens. -/
def contextSymbols : List (ContextToken × Nat) :=
  [(.automaticSemicolon, 158), (.templateChars, 159), (.ternaryMark, 160), (.htmlComment, 161),
   (.logicalOr, 71), (.escapeSequence, 102), (.regexPattern, 107), (.jsxText, 162),
   (.signatureSemicolon, 163), (.errorRecovery, 164)]

end ScriptCensus.Grammar.TypeScript
