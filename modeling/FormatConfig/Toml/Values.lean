import FormatConfig.Toml.Grammar
import FormatConfig.Toml.Tables

/-!
# Reading TOML values

`value` reads any value, choosing by its first character: quotes start strings, `[`
an array, `{` an inline table, a sign or digit a date-time, float or integer (tried in
that order), and `t`, `f`, `i`, `n` the words `true`, `false`, `inf` and `nan`. Any
other character is reported as a missing string, the most likely intent.
-/

namespace FormatConfig

namespace Toml

open Reader

/-- An array, its items read by `item`. -/
def arrayOf (item : Reader Node) : Reader (List Node) := do
  char '['
  let items ← cut (do
    if (← peek?) == some ']' then return []
    let items ← sepBy0 ((← read).size + 1)
      (do wsCommentNewline; let v ← item; wsCommentNewline; pure v) (char ',')
    if !items.isEmpty then
      let _ ← optional (char ',')
    wsCommentNewline
    return items)
  expecting (.char ']') (label "array" (cut (char ']')))
  return items

/-- One `key = value` of an inline table. -/
def inlineKeyval (item : Reader Node) : Reader (List Key × Key × Node) := do
  let keys ← key
  let v ← cut (do
    expecting (.char '=') (expecting (.char '.') (char '='))
    ws
    let v ← item
    ws
    return v)
  return (keys.dropLast, keys.getLastD default, v)

/-- An inline table, its values read by `item`. -/
def inlineTableOf (item : Reader Node) : Reader Node := do
  char '\x7b'
  let t ← cut (tryMap (do
      let pairs ← sepBy0 ((← read).size + 1) (inlineKeyval item) (char ',')
      ws
      return pairs)
    fun pairs => (tableFromPairs pairs).mapError BuildError.message)
  expecting (.char '\x7d') (label "inline table" (cut (char '\x7d')))
  return t

/-- Runs a reader that builds a node from its span, giving it its span. -/
def spanned (r : Reader (Span → Node)) : Reader Node := do
  let start ← get
  let make ← r
  return make ⟨start, ← get⟩

/-- The limit on nesting, reached. -/
def nestingFailure {α : Type} : Reader α := do
  throw { pos := ← get, cut := true, cause := some "recursion limit exceeded" }

/-- The body of a value, returning how to build it from its span; `inner` reads the
values inside arrays and inline tables, or is absent when nesting is at its limit. -/
def valueBodyWith (inner : Option (Reader Node)) : Reader (Span → Node) := do
  match ← peek? with
  | some '"' | some '\'' => do let s ← string; return .string s
  | some '[' =>
    match inner with
    | none => nestingFailure
    | some item => do let items ← arrayOf item; return .array items
  | some '\x7b' =>
    match inner with
    | none => nestingFailure
    | some item => do let t ← inlineTableOf item; return fun sp => t.withSpan (some sp)
  | some c =>
    if c = '+' || c = '-' || c.isDigit then
      firstOf [
        do dateTime; return .datetime "",
        do let f ← float; return .float f,
        do let n ← integer; return .integer n]
    else if c = '_' then
      expecting (.description "leading digit") (do let n ← integer; return .integer n)
    else if c = '.' then
      expecting (.description "leading digit") (do let f ← float; return .float f)
    else if c = 't' then withContexts stringContexts (do let b ← trueValue; return .boolean b)
    else if c = 'f' then withContexts stringContexts (do let b ← falseValue; return .boolean b)
    else if c = 'i' then
      withContexts stringContexts (do lit "inf"; return .float (.infinity false))
    else if c = 'n' then
      withContexts stringContexts (do lit "nan"; return .float (.nan false))
    else withContexts stringContexts fail
  | none => fail

/-- The body of a value with room for `room` more levels of nesting. -/
def valueBody : Nat → Reader (Span → Node)
  | 0 => valueBodyWith none
  | r + 1 => valueBodyWith (some (spanned (valueBody r)))

/-- A value outside any array or inline table, with its span. -/
def value : Reader Node := spanned (valueBody (nestingLimit - 1))

end Toml

end FormatConfig
