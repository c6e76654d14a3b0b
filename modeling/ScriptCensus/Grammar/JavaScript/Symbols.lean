import ScriptCensus.Automaton.Basic

/-!
# The JavaScript symbols

The symbols of the grammar: the end of the text, the tokens, the rules, and the names that only
renamed children bear.
-/

namespace ScriptCensus.Grammar.JavaScript

/-- The symbols in order. -/
def symbols : List GrammarSymbol :=
  [.silent "end", .ruled "identifier", .ruled "hash_bang_line", .verbatim "export", .verbatim "*",
   .verbatim "default", .verbatim "as", .verbatim "\x7b", .verbatim ",", .verbatim "\x7d",
   .verbatim "import", .verbatim "from", .verbatim "with", .verbatim "var", .verbatim "let",
   .verbatim "const", .verbatim "else", .verbatim "if", .verbatim "switch", .verbatim "for",
   .verbatim "(", .verbatim ";", .verbatim ")", .verbatim "await", .verbatim "in", .verbatim "of",
   .verbatim "while", .verbatim "do", .verbatim "try", .verbatim "break", .verbatim "continue",
   .verbatim "debugger", .verbatim "return", .verbatim "throw", .verbatim ":", .verbatim "case",
   .verbatim "catch", .verbatim "finally", .verbatim "yield", .verbatim "=", .verbatim "[",
   .verbatim "]", .ruled "html_character_reference", .verbatim "<", .verbatim ">",
   .ruled "identifier", .verbatim ".", .verbatim "</", .verbatim "/>", .verbatim "\"",
   .verbatim "'", .ruled "string_fragment", .ruled "string_fragment", .verbatim "class",
   .verbatim "extends", .verbatim "async", .verbatim "function", .verbatim "=>",
   .ruled "optional_chain", .verbatim "new", .verbatim "+=", .verbatim "-=", .verbatim "*=",
   .verbatim "/=", .verbatim "%=", .verbatim "^=", .verbatim "&=", .verbatim "|=",
   .verbatim ">>=", .verbatim ">>>=", .verbatim "<<=", .verbatim "**=", .verbatim "&&=",
   .verbatim "||=", .verbatim "??=", .verbatim "...", .verbatim "&&", .verbatim "||",
   .verbatim ">>", .verbatim ">>>", .verbatim "<<", .verbatim "&", .verbatim "^", .verbatim "|",
   .verbatim "+", .verbatim "-", .verbatim "/", .verbatim "%", .verbatim "**", .verbatim "<=",
   .verbatim "==", .verbatim "===", .verbatim "!=", .verbatim "!==", .verbatim ">=",
   .verbatim "??", .verbatim "instanceof", .verbatim "!", .verbatim "~", .verbatim "typeof",
   .verbatim "void", .verbatim "delete", .verbatim "++", .verbatim "--", .ruled "string_fragment",
   .ruled "string_fragment", .ruled "escape_sequence", .ruled "comment", .verbatim "\x60",
   .verbatim "$\x7b", .verbatim "/", .ruled "regex_pattern", .ruled "regex_flags",
   .ruled "number", .ruled "private_property_identifier", .verbatim "target", .verbatim "meta",
   .ruled "this", .ruled "super", .ruled "true", .ruled "false", .ruled "null",
   .ruled "undefined", .verbatim "@", .verbatim "static", .verbatim "static get", .verbatim "get",
   .verbatim "set", .silent "_automatic_semicolon", .ruled "string_fragment", .verbatim "?",
   .ruled "html_comment", .ruled "jsx_text", .ruled "program", .ruled "export_statement",
   .ruled "namespace_export", .ruled "export_clause", .ruled "export_specifier",
   .silent "_module_export_name", .silent "declaration", .ruled "import",
   .ruled "import_statement", .ruled "import_clause", .silent "_from_clause",
   .ruled "namespace_import", .ruled "named_imports", .ruled "import_specifier",
   .ruled "import_attribute", .silent "statement", .ruled "expression_statement",
   .ruled "variable_declaration", .ruled "lexical_declaration", .ruled "variable_declarator",
   .ruled "statement_block", .ruled "else_clause", .ruled "if_statement",
   .ruled "switch_statement", .ruled "for_statement", .ruled "for_in_statement",
   .silent "_for_header", .ruled "while_statement", .ruled "do_statement", .ruled "try_statement",
   .ruled "with_statement", .ruled "break_statement", .ruled "continue_statement",
   .ruled "debugger_statement", .ruled "return_statement", .ruled "throw_statement",
   .ruled "empty_statement", .ruled "labeled_statement", .ruled "switch_body",
   .ruled "switch_case", .ruled "switch_default", .ruled "catch_clause", .ruled "finally_clause",
   .ruled "parenthesized_expression", .silent "expression", .silent "primary_expression",
   .ruled "yield_expression", .ruled "object", .ruled "object_pattern",
   .ruled "assignment_pattern", .ruled "object_assignment_pattern", .ruled "array",
   .ruled "array_pattern", .ruled "jsx_element", .ruled "jsx_expression",
   .ruled "jsx_opening_element", .ruled "member_expression", .ruled "jsx_namespace_name",
   .ruled "jsx_closing_element", .ruled "jsx_self_closing_element", .ruled "jsx_attribute",
   .ruled "string", .ruled "class", .ruled "class_declaration", .ruled "class_heritage",
   .ruled "function_expression", .ruled "function_declaration", .ruled "generator_function",
   .ruled "generator_function_declaration", .ruled "arrow_function", .ruled "call_expression",
   .ruled "new_expression", .ruled "await_expression", .ruled "member_expression",
   .ruled "subscript_expression", .ruled "assignment_expression",
   .silent "_augmented_assignment_lhs", .ruled "augmented_assignment_expression",
   .silent "_initializer", .silent "_destructuring_pattern", .ruled "spread_element",
   .ruled "ternary_expression", .ruled "binary_expression", .ruled "unary_expression",
   .ruled "update_expression", .ruled "sequence_expression", .ruled "string",
   .ruled "template_string", .ruled "template_substitution", .ruled "regex",
   .ruled "meta_property", .ruled "arguments", .ruled "decorator", .ruled "member_expression",
   .ruled "call_expression", .ruled "class_body", .ruled "field_definition",
   .ruled "formal_parameters", .ruled "class_static_block", .silent "pattern",
   .ruled "rest_pattern", .ruled "method_definition", .ruled "pair", .ruled "pair_pattern",
   .silent "_property_name", .ruled "computed_property_name", .silent "program_repeat1",
   .silent "export_statement_repeat1", .silent "export_clause_repeat1",
   .silent "named_imports_repeat1", .silent "variable_declaration_repeat1",
   .silent "switch_body_repeat1", .silent "object_repeat1", .silent "object_pattern_repeat1",
   .silent "array_repeat1", .silent "array_pattern_repeat1", .silent "jsx_element_repeat1",
   .silent "jsx_opening_element_repeat1", .silent "_jsx_string_repeat1",
   .silent "_jsx_string_repeat2", .silent "sequence_expression_repeat1", .silent "string_repeat1",
   .silent "string_repeat2", .silent "template_string_repeat1", .silent "class_body_repeat1",
   .silent "formal_parameters_repeat1", .ruled "property_identifier",
   .ruled "statement_identifier", .ruled "shorthand_property_identifier",
   .ruled "shorthand_property_identifier_pattern"]

/-- The number of symbols that are tokens, the end of the text included. -/
def tokenCount : Nat := 133

/-- The context-dependent tokens that the states expect. -/
def contextModes : List (List ContextToken) :=
  [[],
   [.automaticSemicolon, .templateChars, .ternaryMark, .htmlComment, .logicalOr, .escapeSequence,
    .jsxText],
   [.htmlComment],
   [.ternaryMark, .htmlComment, .logicalOr],
   [.automaticSemicolon, .ternaryMark, .htmlComment, .logicalOr],
   [.automaticSemicolon, .htmlComment],
   [.htmlComment, .jsxText],
   [.templateChars, .htmlComment, .escapeSequence],
   [.htmlComment, .escapeSequence],
   [.htmlComment, .regexPattern]]

/-- The symbols of the context-dependent tokens. -/
def contextSymbols : List (ContextToken × Nat) :=
  [(.automaticSemicolon, 128), (.templateChars, 129), (.ternaryMark, 130), (.htmlComment, 131),
   (.logicalOr, 77), (.escapeSequence, 106), (.regexPattern, 111), (.jsxText, 132)]

end ScriptCensus.Grammar.JavaScript
