import FormatConfig.Peg.Engine
import FormatConfig.Text.Unicode

/-!
# The JSON5 grammar

JSON5 extends JSON with comments, trailing commas, single-quoted strings, unquoted
keys, hexadecimal numbers, `Infinity` and `NaN`, and line continuations in strings. The
grammar below follows the syntactic and lexical grammar of the JSON5 specification.
An unquoted key starts with a letter, `$`, `_` or a `\u` escape, and goes on with
those, non-spacing marks, diacritics, decimal digits, connector punctuation, and the
zero-width non-joiner and joiner.

Rules are listed in the order of `Rule`, which is also the order in which error reports
name them. Only some rules are reported: the value rules (`array`, `boolean`, `null`,
`number`, `object`, `string`), `identifier`, the pieces of strings, and the end of
input. The others are silent helpers.
-/

namespace FormatConfig

namespace Json5

open Peg

/-- The rules of the JSON5 grammar. -/
inductive Rule where
  | eoi
  | comment
  | whitespace
  | array
  | boolean
  | charEscapeSequence
  | charLiteral
  | decimalIntegerLiteral
  | decimalLiteral
  | doubleQuoteChar
  | escapeChar
  | escapeSequence
  | exponentPart
  | hexEscapeSequence
  | hexIntegerLiteral
  | identifier
  | identifierPart
  | identifierStart
  | key
  | lineContinuation
  | lineTerminator
  | lineTerminatorSequence
  | nonEscapeChar
  | nulEscapeSequence
  | null
  | number
  | numericLiteral
  | object
  | pair
  | singleEscapeChar
  | singleQuoteChar
  | string
  | text
  | unicodeEscapeSequence
  | unicodeLetter
  | value
deriving DecidableEq, Repr, Inhabited

namespace Rule

/-- The rule's name in error reports. -/
def name : Rule → String
  | .eoi => "EOI"
  | .comment => "COMMENT"
  | .whitespace => "WHITESPACE"
  | .array => "array"
  | .boolean => "boolean"
  | .charEscapeSequence => "char_escape_sequence"
  | .charLiteral => "char_literal"
  | .decimalIntegerLiteral => "decimal_integer_literal"
  | .decimalLiteral => "decimal_literal"
  | .doubleQuoteChar => "double_quote_char"
  | .escapeChar => "escape_char"
  | .escapeSequence => "escape_sequence"
  | .exponentPart => "exponent_part"
  | .hexEscapeSequence => "hex_escape_sequence"
  | .hexIntegerLiteral => "hex_integer_literal"
  | .identifier => "identifier"
  | .identifierPart => "identifier_part"
  | .identifierStart => "identifier_start"
  | .key => "key"
  | .lineContinuation => "line_continuation"
  | .lineTerminator => "line_terminator"
  | .lineTerminatorSequence => "line_terminator_sequence"
  | .nonEscapeChar => "non_escape_char"
  | .nulEscapeSequence => "nul_escape_sequence"
  | .null => "null"
  | .number => "number"
  | .numericLiteral => "numeric_literal"
  | .object => "object"
  | .pair => "pair"
  | .singleEscapeChar => "single_escape_char"
  | .singleQuoteChar => "single_quote_char"
  | .string => "string"
  | .text => "text"
  | .unicodeEscapeSequence => "unicode_escape_sequence"
  | .unicodeLetter => "unicode_letter"
  | .value => "value"

/-- The rule's place in the order of `Rule`. -/
def rank (r : Rule) : Nat := r.ctorIdx

/-- How each rule is declared. -/
def kind : Rule → RuleKind
  | .eoi | .array | .object => .normal
  | .boolean | .charEscapeSequence | .charLiteral | .hexEscapeSequence
  | .nulEscapeSequence | .null | .number | .unicodeEscapeSequence => .atomic
  | .identifier | .string => .compoundAtomic
  | _ => .silent

end Rule

/-- A literal text. -/
def str (s : String) : Expr Rule := .lit s.toList

/-- One given character. -/
def chr (c : Char) : Expr Rule := .lit [c]

/-- A sequence of expressions. -/
def seqs : List (Expr Rule) → Expr Rule
  | [] => .lit []
  | [e] => e
  | e :: es => .seq e (seqs es)

/-- Ordered alternatives. -/
def alts : List (Expr Rule) → Expr Rule
  | [] => .notAhead (.lit [])
  | [e] => e
  | e :: es => .alt e (alts es)

/-- A decimal digit. -/
def digit : Expr Rule := .range '0' '9'

/-- A hexadecimal digit. -/
def hexDigit : Expr Rule := .charIf fun c =>
  ('0' ≤ c && c ≤ '9') || ('a' ≤ c && c ≤ 'f') || ('A' ≤ c && c ≤ 'F')

/-- One or more of `e`. -/
def many1 (e : Expr Rule) : Expr Rule := .seq e (.many e)

/-- The body of each rule. -/
def body : Rule → Expr Rule
  | .eoi => .endOfInput
  | .comment => alts [
      seqs [str "/*", .many (seqs [.notAhead (str "*/"), .any]), str "*/"],
      seqs [str "//", .many (seqs [.notAhead (.call .lineTerminator), .any])]]
  | .whitespace => alts [chr '\t', chr (Char.ofNat 0x0B), chr (Char.ofNat 0x0C), chr ' ',
      chr (Char.ofNat 0xA0), chr (Char.ofNat 0xFEFF), .charIf Unicode.isSpaceSeparator,
      .call .lineTerminator]
  | .array => alts [
      seqs [str "[", str "]"],
      seqs [str "[", .call .value, .many (seqs [str ",", .call .value]), .opt (str ","), str "]"]]
  | .boolean => alts [str "true", str "false"]
  | .charEscapeSequence => alts [.call .singleEscapeChar, .call .nonEscapeChar]
  | .charLiteral => seqs [.notAhead (alts [str "\\", .call .lineTerminator]), .any]
  | .decimalIntegerLiteral => alts [str "0", seqs [.range '1' '9', .many digit]]
  | .decimalLiteral => alts [
      seqs [.call .decimalIntegerLiteral, str ".", .many digit, .opt (.call .exponentPart)],
      seqs [str ".", many1 digit, .opt (.call .exponentPart)],
      seqs [.call .decimalIntegerLiteral, .opt (.call .exponentPart)]]
  | .doubleQuoteChar => alts [
      seqs [str "\\", .call .escapeSequence],
      .call .lineContinuation,
      seqs [.notAhead (str "\""), .call .charLiteral]]
  | .escapeChar => alts [.call .singleEscapeChar, digit, str "x", str "u"]
  | .escapeSequence => alts [
      .call .charEscapeSequence,
      .call .nulEscapeSequence,
      seqs [str "x", .call .hexEscapeSequence],
      seqs [str "u", .call .unicodeEscapeSequence]]
  | .exponentPart => seqs [.litNoCase ['e'], .opt (alts [str "+", str "-"]), many1 digit]
  | .hexEscapeSequence => seqs [hexDigit, hexDigit]
  | .hexIntegerLiteral => seqs [.litNoCase ['0', 'x'], many1 hexDigit]
  | .identifier => seqs [.call .identifierStart, .many (.call .identifierPart)]
  | .identifierPart => alts [
      .call .identifierStart,
      seqs [.ahead (alts [.charIf Unicode.isNonspacingMark, .charIf Unicode.isDiacritic,
          .charIf Unicode.isDecimalDigit,
          .charIf Unicode.isConnector, chr (Char.ofNat 0x200C), chr (Char.ofNat 0x200D)]),
        .call .charLiteral]]
  | .identifierStart => alts [
      seqs [.ahead (alts [.call .unicodeLetter, str "$", str "_"]), .call .charLiteral],
      seqs [str "\\u", .call .unicodeEscapeSequence]]
  | .key => alts [.call .identifier, .call .string]
  | .lineContinuation => seqs [str "\\", .call .lineTerminatorSequence]
  | .lineTerminator => alts [chr '\n', chr '\r', chr (Char.ofNat 0x2028), chr (Char.ofNat 0x2029)]
  | .lineTerminatorSequence => alts [str "\r\n", .call .lineTerminator]
  | .nonEscapeChar => seqs [.notAhead (alts [.call .escapeChar, .call .lineTerminator]), .any]
  | .nulEscapeSequence => str "0"
  | .null => str "null"
  | .number => seqs [.opt (alts [str "+", str "-"]), .call .numericLiteral]
  | .numericLiteral => alts [.call .hexIntegerLiteral, .call .decimalLiteral, str "Infinity",
      str "NaN"]
  | .object => alts [
      seqs [str "\x7b", str "\x7d"],
      seqs [str "\x7b", .call .pair, .many (seqs [str ",", .call .pair]), .opt (str ","),
        str "\x7d"]]
  | .pair => seqs [.call .key, str ":", .call .value]
  | .singleEscapeChar => alts [str "'", str "\"", str "\\", str "b", str "f", str "n", str "r",
      str "t", str "v"]
  | .singleQuoteChar => alts [
      seqs [str "\\", .call .escapeSequence],
      .call .lineContinuation,
      seqs [.notAhead (str "'"), .call .charLiteral]]
  | .string => alts [
      seqs [str "\"", .many (.call .doubleQuoteChar), str "\""],
      seqs [str "'", .many (.call .singleQuoteChar), str "'"]]
  | .text => seqs [.startOfInput, .call .value, .call .eoi]
  | .unicodeEscapeSequence => seqs [hexDigit, hexDigit, hexDigit, hexDigit]
  | .unicodeLetter => .charIf Unicode.isLetter
  | .value => alts [.call .null, .call .boolean, .call .string, .call .number, .call .object,
      .call .array]

/-- The JSON5 grammar; whitespace and comments may stand between any two tokens. -/
def grammar : Grammar Rule where
  body := body
  kind := Rule.kind
  skip := seqs [.many (.call .whitespace),
    .many (seqs [.call .comment, .many (.call .whitespace)])]

end Json5

end FormatConfig
