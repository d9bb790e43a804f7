import FormatConfig.Lookup
import FormatConfig.JsonFile
import FormatConfig.Options
import FormatConfig.Text.BlankLines

/-!
# Options from lint rules

The nearest `tslint.json` above a file may hold a `rules` object. Three of its rules
matter for formatting:

* `indent`, whose second argument `"spaces"` or `"tabs"` picks the indentation
  character;
* `whitespace`, whose string arguments `check-branch`, `check-operator` and
  `check-separator` switch on spaces after control-flow keywords, around binary
  operators, and after commas and `for` semicolons;
* `no-consecutive-blank-lines`, which, when exactly `true`, asks for runs of blank
  lines to be collapsed after formatting.

A rule is written as an array of arguments or as an object keyed by argument
position; it is on when its first argument is truthy in the sense of JavaScript. A
rule can only switch options on, except `indent`, which chooses.
-/

namespace FormatConfig

namespace Lint

open Json5

/-- The members of a rules object. -/
abbrev Rules := List (String × JsonValue)

/-- Argument `index` of a rule written as an array or as an object keyed by position. -/
def ruleArgument (rule : JsonValue) (index : Nat) : Option JsonValue :=
  match rule with
  | .array items => items[index]?
  | .object members => JsonValue.member? members (toString index)
  | _ => none

/-- All arguments of a rule, in order (an object's by key). -/
def ruleValues : JsonValue → List JsonValue
  | .array items => items
  | .object members => members.map (·.2)
  | _ => []

/-- The rule with a name, when its first argument is truthy. -/
def enabledRule (rules : Rules) (name : String) : Option JsonValue :=
  match JsonValue.member? rules name with
  | some rule => if (ruleArgument rule 0).any JsonValue.isTruthy then some rule else none
  | none => none

/-- The effect of the `indent` rule. -/
def applyIndent (rules : Rules) (o : FormatOptions) : FormatOptions :=
  match enabledRule rules "indent" with
  | some rule =>
    match (ruleArgument rule 1).bind JsonValue.asString? with
    | some "spaces" => { o with convertTabsToSpaces := true }
    | some "tabs" => { o with convertTabsToSpaces := false }
    | _ => o
  | none => o

/-- The effect of one argument of the `whitespace` rule. -/
def applyWhitespaceCheck (o : FormatOptions) : String → FormatOptions
  | "check-branch" => { o with insertSpaceAfterKeywordsInControlFlowStatements := true }
  | "check-operator" => { o with insertSpaceBeforeAndAfterBinaryOperators := true }
  | "check-separator" =>
    { o with insertSpaceAfterCommaDelimiter := true,
             insertSpaceAfterSemicolonInForStatements := true }
  | _ => o

/-- The effect of the `whitespace` rule. -/
def applyWhitespace (rules : Rules) (o : FormatOptions) : FormatOptions :=
  match enabledRule rules "whitespace" with
  | some rule => ((ruleValues rule).filterMap JsonValue.asString?).foldl applyWhitespaceCheck o
  | none => o

/-- The options after the rules that affect formatting. -/
def applyRules (rules : Rules) (o : FormatOptions) : FormatOptions :=
  applyWhitespace rules (applyIndent rules o)

/-- Whether the rules ask for runs of blank lines to be collapsed. -/
def collapsesBlankLines (rules : Rules) : Bool :=
  match JsonValue.member? rules "no-consecutive-blank-lines" with
  | some (.bool true) => true
  | _ => false

/-- The formatted text after the fixups the rules ask for. -/
def fixText (rules : Rules) (text : String) : String :=
  if collapsesBlankLines rules then BlankLines.collapse text else text

/-- The rules object of a rule file's value, if it has one. -/
def rulesOf : JsonValue → Option Rules
  | .object members =>
    match JsonValue.member? members "rules" with
    | some (.object rules) => some rules
    | _ => none
  | _ => none

end Lint

namespace FileSystem

/-- The rule file that applies to a file, if there is one. -/
def ruleFileFor (fs : FileSystem) (file : Path) (baseDir : Option Path) :
    Except Error (Option Path) := do
  let start ← fs.searchStart file baseDir
  return fs.findRuleFile start

/-- The rules that apply to a file: those of the nearest rule file, if it has a
`rules` object. -/
def lintRules (fs : FileSystem) (file : Path) (baseDir : Option Path) :
    Except Error (Option Lint.Rules) := do
  match ← fs.ruleFileFor file baseDir with
  | none => return none
  | some ruleFile => return Lint.rulesOf (← fs.readJsonValue ruleFile)

/-- The options for a file after its lint rules. -/
def lintOptions (fs : FileSystem) (file : Path) (baseDir : Option Path) (o : FormatOptions) :
    Except Error FormatOptions := do
  match ← fs.lintRules file baseDir with
  | some rules => return Lint.applyRules rules o
  | none => return o

/-- A file's formatted text after the fixups its lint rules ask for. -/
def lintFixText (fs : FileSystem) (file : Path) (text : String) (baseDir : Option Path) :
    Except Error String := do
  match ← fs.lintRules file baseDir with
  | some rules => return Lint.fixText rules text
  | none => return text

end FileSystem

end FormatConfig
