import FormatConfig.Pipeline
import FormatConfig.Baseline

/-!
# Where each option comes from

The options for a file are built in layers: the defaults, then the baseline file, then
the command line, then the editor settings file, then the lint rules. Each layer is a
partial record of options, computed from its own source alone, and a later layer wins on
every field it sets (`FormatOptions.override`).

The code does not build these records: it threads one record of options through every
source, and each source assigns some fields under conditions on its configuration. The
lemmas here show that every such assignment is an override by a partial record that does
not look at the record threaded through: `Settings.apply_eq_override` for the editor
settings, `Lint.applyRules_eq_override` for the lint rules (the `whitespace` rule by
induction over its arguments), and `mergeBaseline_eq_override` for the command line over
the baseline file. Put together, `resolveOptions_eq_override` says that resolving the
options fails with the error of the first enabled source that fails, and otherwise returns
the baseline overridden by the editor settings and then by the lint rules; the editor
settings set at most the indentation character, the two widths and the line terminator,
and the lint rules at most the indentation character and the four spacing switches of the
`whitespace` rule.
-/

namespace FormatConfig

/-- Formatter options that one source sets: a field is `some` where the source sets it. -/
structure PartialOptions where
  indentSize : Option Nat := none
  tabSize : Option Nat := none
  indentStyle : Option IndentStyle := none
  newLineCharacter : Option NewLine := none
  convertTabsToSpaces : Option Bool := none
  insertSpaceAfterCommaDelimiter : Option Bool := none
  insertSpaceAfterSemicolonInForStatements : Option Bool := none
  insertSpaceBeforeAndAfterBinaryOperators : Option Bool := none
  insertSpaceAfterKeywordsInControlFlowStatements : Option Bool := none
  insertSpaceAfterFunctionKeywordForAnonymousFunctions : Option Bool := none
  insertSpaceAfterOpeningAndBeforeClosingNonemptyParenthesis : Option Bool := none
  insertSpaceAfterOpeningAndBeforeClosingNonemptyBrackets : Option Bool := none
  insertSpaceAfterOpeningAndBeforeClosingTemplateStringBraces : Option Bool := none
  placeOpenBraceOnNewLineForFunctions : Option Bool := none
  placeOpenBraceOnNewLineForControlBlocks : Option Bool := none
deriving DecidableEq, Repr

namespace PartialOptions

/-- `p.override q`: the fields `q` sets, and the others as `p` has them. -/
def override (p q : PartialOptions) : PartialOptions where
  indentSize := q.indentSize <|> p.indentSize
  tabSize := q.tabSize <|> p.tabSize
  indentStyle := q.indentStyle <|> p.indentStyle
  newLineCharacter := q.newLineCharacter <|> p.newLineCharacter
  convertTabsToSpaces := q.convertTabsToSpaces <|> p.convertTabsToSpaces
  insertSpaceAfterCommaDelimiter := q.insertSpaceAfterCommaDelimiter <|> p.insertSpaceAfterCommaDelimiter
  insertSpaceAfterSemicolonInForStatements :=
    q.insertSpaceAfterSemicolonInForStatements <|> p.insertSpaceAfterSemicolonInForStatements
  insertSpaceBeforeAndAfterBinaryOperators :=
    q.insertSpaceBeforeAndAfterBinaryOperators <|> p.insertSpaceBeforeAndAfterBinaryOperators
  insertSpaceAfterKeywordsInControlFlowStatements :=
    q.insertSpaceAfterKeywordsInControlFlowStatements <|>
      p.insertSpaceAfterKeywordsInControlFlowStatements
  insertSpaceAfterFunctionKeywordForAnonymousFunctions :=
    q.insertSpaceAfterFunctionKeywordForAnonymousFunctions <|>
      p.insertSpaceAfterFunctionKeywordForAnonymousFunctions
  insertSpaceAfterOpeningAndBeforeClosingNonemptyParenthesis :=
    q.insertSpaceAfterOpeningAndBeforeClosingNonemptyParenthesis <|>
      p.insertSpaceAfterOpeningAndBeforeClosingNonemptyParenthesis
  insertSpaceAfterOpeningAndBeforeClosingNonemptyBrackets :=
    q.insertSpaceAfterOpeningAndBeforeClosingNonemptyBrackets <|>
      p.insertSpaceAfterOpeningAndBeforeClosingNonemptyBrackets
  insertSpaceAfterOpeningAndBeforeClosingTemplateStringBraces :=
    q.insertSpaceAfterOpeningAndBeforeClosingTemplateStringBraces <|>
      p.insertSpaceAfterOpeningAndBeforeClosingTemplateStringBraces
  placeOpenBraceOnNewLineForFunctions :=
    q.placeOpenBraceOnNewLineForFunctions <|> p.placeOpenBraceOnNewLineForFunctions
  placeOpenBraceOnNewLineForControlBlocks :=
    q.placeOpenBraceOnNewLineForControlBlocks <|> p.placeOpenBraceOnNewLineForControlBlocks

/-- The fields a partial record sets, under the formatter's names, in declaration order. -/
def setFields (p : PartialOptions) : List String :=
  ([("IndentSize", p.indentSize.isSome),
    ("TabSize", p.tabSize.isSome),
    ("IndentStyle", p.indentStyle.isSome),
    ("NewLineCharacter", p.newLineCharacter.isSome),
    ("ConvertTabsToSpaces", p.convertTabsToSpaces.isSome),
    ("InsertSpaceAfterCommaDelimiter", p.insertSpaceAfterCommaDelimiter.isSome),
    ("InsertSpaceAfterSemicolonInForStatements",
      p.insertSpaceAfterSemicolonInForStatements.isSome),
    ("InsertSpaceBeforeAndAfterBinaryOperators",
      p.insertSpaceBeforeAndAfterBinaryOperators.isSome),
    ("InsertSpaceAfterKeywordsInControlFlowStatements",
      p.insertSpaceAfterKeywordsInControlFlowStatements.isSome),
    ("InsertSpaceAfterFunctionKeywordForAnonymousFunctions",
      p.insertSpaceAfterFunctionKeywordForAnonymousFunctions.isSome),
    ("InsertSpaceAfterOpeningAndBeforeClosingNonemptyParenthesis",
      p.insertSpaceAfterOpeningAndBeforeClosingNonemptyParenthesis.isSome),
    ("InsertSpaceAfterOpeningAndBeforeClosingNonemptyBrackets",
      p.insertSpaceAfterOpeningAndBeforeClosingNonemptyBrackets.isSome),
    ("InsertSpaceAfterOpeningAndBeforeClosingTemplateStringBraces",
      p.insertSpaceAfterOpeningAndBeforeClosingTemplateStringBraces.isSome),
    ("PlaceOpenBraceOnNewLineForFunctions", p.placeOpenBraceOnNewLineForFunctions.isSome),
    ("PlaceOpenBraceOnNewLineForControlBlocks",
      p.placeOpenBraceOnNewLineForControlBlocks.isSome)]).filterMap
    fun (name, set) => if set then some name else none

end PartialOptions

/-- `o.override p`: the options `o` with the fields `p` sets replaced. -/
def FormatOptions.override (o : FormatOptions) (p : PartialOptions) : FormatOptions where
  indentSize := p.indentSize.getD o.indentSize
  tabSize := p.tabSize.getD o.tabSize
  indentStyle := p.indentStyle.getD o.indentStyle
  newLineCharacter := p.newLineCharacter.getD o.newLineCharacter
  convertTabsToSpaces := p.convertTabsToSpaces.getD o.convertTabsToSpaces
  insertSpaceAfterCommaDelimiter :=
    p.insertSpaceAfterCommaDelimiter.getD o.insertSpaceAfterCommaDelimiter
  insertSpaceAfterSemicolonInForStatements :=
    p.insertSpaceAfterSemicolonInForStatements.getD o.insertSpaceAfterSemicolonInForStatements
  insertSpaceBeforeAndAfterBinaryOperators :=
    p.insertSpaceBeforeAndAfterBinaryOperators.getD o.insertSpaceBeforeAndAfterBinaryOperators
  insertSpaceAfterKeywordsInControlFlowStatements :=
    p.insertSpaceAfterKeywordsInControlFlowStatements.getD
      o.insertSpaceAfterKeywordsInControlFlowStatements
  insertSpaceAfterFunctionKeywordForAnonymousFunctions :=
    p.insertSpaceAfterFunctionKeywordForAnonymousFunctions.getD
      o.insertSpaceAfterFunctionKeywordForAnonymousFunctions
  insertSpaceAfterOpeningAndBeforeClosingNonemptyParenthesis :=
    p.insertSpaceAfterOpeningAndBeforeClosingNonemptyParenthesis.getD
      o.insertSpaceAfterOpeningAndBeforeClosingNonemptyParenthesis
  insertSpaceAfterOpeningAndBeforeClosingNonemptyBrackets :=
    p.insertSpaceAfterOpeningAndBeforeClosingNonemptyBrackets.getD
      o.insertSpaceAfterOpeningAndBeforeClosingNonemptyBrackets
  insertSpaceAfterOpeningAndBeforeClosingTemplateStringBraces :=
    p.insertSpaceAfterOpeningAndBeforeClosingTemplateStringBraces.getD
      o.insertSpaceAfterOpeningAndBeforeClosingTemplateStringBraces
  placeOpenBraceOnNewLineForFunctions :=
    p.placeOpenBraceOnNewLineForFunctions.getD o.placeOpenBraceOnNewLineForFunctions
  placeOpenBraceOnNewLineForControlBlocks :=
    p.placeOpenBraceOnNewLineForControlBlocks.getD o.placeOpenBraceOnNewLineForControlBlocks

/-- The indentation character a setting names: spaces are `some true`, tabs `some false`,
and any other text or no setting is `none`. -/
def convertsTabs (spaces tabs : String) : Option String → Option Bool
  | some text => if text = spaces then some true else if text = tabs then some false else none
  | none => none

theorem convertsTabs_of_ne {spaces tabs : String} {setting : Option String}
    (hspaces : setting ≠ some spaces) (htabs : setting ≠ some tabs) :
    convertsTabs spaces tabs setting = none := by
  cases setting with
  | none => rfl
  | some text =>
    have hs : text ≠ spaces := fun h => hspaces (h ▸ rfl)
    have ht : text ≠ tabs := fun h => htabs (h ▸ rfl)
    simp [convertsTabs, hs, ht]

namespace FormatOptions

theorem getD_orElse {α : Type} (a b : Option α) (c : α) : (a <|> b).getD c = a.getD (b.getD c) := by
  cases a <;> rfl

@[simp] theorem override_empty (o : FormatOptions) : o.override {} = o := rfl

/-- Overriding twice is overriding once by the second record over the first. -/
theorem override_override (o : FormatOptions) (p q : PartialOptions) :
    (o.override p).override q = o.override (p.override q) := by
  simp only [override, PartialOptions.override, getD_orElse]

end FormatOptions

/-! ## The editor settings file -/

namespace EditorConfig

/-- What a file's editor settings set: the indentation character, the two widths and the
line terminator. -/
def Settings.toPartial (s : Settings) : PartialOptions where
  convertTabsToSpaces := convertsTabs "space" "tab" s.indentStyle
  indentSize := s.indentSize
  tabSize := s.tabWidth
  newLineCharacter := s.endOfLine.bind NewLine.ofName?

/-- Applying editor settings overrides the options by what the settings set. -/
theorem Settings.apply_eq_override (s : Settings) (o : FormatOptions) :
    s.apply o = o.override s.toPartial := by
  obtain ⟨style, size, width, eol⟩ := s
  simp only [Settings.apply, Settings.toPartial]
  -- the other three settings are plain assignments; the style is matched on its text
  generalize eol.bind NewLine.ofName? = nl
  cases nl <;> cases size <;> cases width <;> dsimp only <;> split <;>
    first
    | rfl
    | rw [convertsTabs_of_ne ‹_› ‹_›]; rfl

theorem Settings.setFields_toPartial (s : Settings) :
    s.toPartial.setFields ⊆ ["IndentSize", "TabSize", "NewLineCharacter", "ConvertTabsToSpaces"] := by
  intro name hname
  simp [PartialOptions.setFields, Settings.toPartial] at hname
  rcases hname with ⟨-, rfl⟩ | ⟨-, rfl⟩ | ⟨-, rfl⟩ | ⟨-, rfl⟩ <;> simp

end EditorConfig

/-! ## The lint rules -/

namespace Lint

open Json5

/-- The indentation character the `indent` rule chooses, when it is on. -/
def indentConvertsTabs (rules : Rules) : Option Bool :=
  (enabledRule rules "indent").bind fun rule =>
    convertsTabs "spaces" "tabs" ((ruleArgument rule 1).bind JsonValue.asString?)

/-- The string arguments of the `whitespace` rule, when it is on. -/
def whitespaceChecks (rules : Rules) : List String :=
  match enabledRule rules "whitespace" with
  | some rule => (ruleValues rule).filterMap JsonValue.asString?
  | none => []

/-- What the arguments of the `whitespace` rule switch on: each spacing option whose check
is among them. -/
def whitespacePartial (checks : List String) : PartialOptions where
  insertSpaceAfterCommaDelimiter := if "check-separator" ∈ checks then some true else none
  insertSpaceAfterSemicolonInForStatements :=
    if "check-separator" ∈ checks then some true else none
  insertSpaceBeforeAndAfterBinaryOperators := if "check-operator" ∈ checks then some true else none
  insertSpaceAfterKeywordsInControlFlowStatements :=
    if "check-branch" ∈ checks then some true else none

/-- What the lint rules set: the indentation character and the spacing options of the
`whitespace` rule. -/
def rulesPartial (rules : Rules) : PartialOptions :=
  { whitespacePartial (whitespaceChecks rules) with
    convertTabsToSpaces := indentConvertsTabs rules }

theorem applyIndent_eq_override (rules : Rules) (o : FormatOptions) :
    applyIndent rules o = o.override { convertTabsToSpaces := indentConvertsTabs rules } := by
  unfold applyIndent indentConvertsTabs
  cases enabledRule rules "indent" with
  | none => rfl
  | some rule =>
    show _ = o.override
      { convertTabsToSpaces :=
          convertsTabs "spaces" "tabs" ((ruleArgument rule 1).bind JsonValue.asString?) }
    dsimp only
    generalize (ruleArgument rule 1).bind JsonValue.asString? = argument
    split
    · rfl
    · rfl
    · rw [convertsTabs_of_ne ‹_› ‹_›]
      rfl

theorem applyWhitespaceCheck_eq_override (o : FormatOptions) (check : String) :
    applyWhitespaceCheck o check = o.override (whitespacePartial [check]) := by
  unfold applyWhitespaceCheck
  split
  · simp [whitespacePartial, FormatOptions.override]
  · simp [whitespacePartial, FormatOptions.override]
  · simp [whitespacePartial, FormatOptions.override]
  · next hbranch hoperator hseparator =>
    simp [whitespacePartial, FormatOptions.override, Ne.symm hbranch, Ne.symm hoperator,
      Ne.symm hseparator]

theorem switchedOn_or (first rest : Prop) [Decidable first] [Decidable rest] :
    (if first ∨ rest then some true else none) =
      ((if rest then some true else none) <|> (if first then some true else none)) := by
  by_cases hrest : rest <;> simp [hrest]

/-- One more argument switches on its options over those of the others. -/
theorem whitespacePartial_cons (check : String) (checks : List String) :
    whitespacePartial (check :: checks) =
      (whitespacePartial [check]).override (whitespacePartial checks) := by
  simp only [whitespacePartial, PartialOptions.override, List.mem_cons, List.not_mem_nil,
    or_false, switchedOn_or]
  rfl

/-- The arguments of the `whitespace` rule, applied one after the other, override the
options by what they switch on together. -/
theorem foldl_applyWhitespaceCheck (checks : List String) (o : FormatOptions) :
    checks.foldl applyWhitespaceCheck o = o.override (whitespacePartial checks) := by
  induction checks generalizing o with
  | nil => rfl
  | cons check checks ih =>
    rw [List.foldl_cons, ih, applyWhitespaceCheck_eq_override,
      FormatOptions.override_override, ← whitespacePartial_cons]

theorem applyWhitespace_eq_override (rules : Rules) (o : FormatOptions) :
    applyWhitespace rules o = o.override (whitespacePartial (whitespaceChecks rules)) := by
  unfold applyWhitespace whitespaceChecks
  cases enabledRule rules "whitespace" with
  | none => rfl
  | some rule => exact foldl_applyWhitespaceCheck _ o

/-- Applying the lint rules overrides the options by what the rules set. -/
theorem applyRules_eq_override (rules : Rules) (o : FormatOptions) :
    applyRules rules o = o.override (rulesPartial rules) := by
  rw [applyRules, applyIndent_eq_override, applyWhitespace_eq_override,
    FormatOptions.override_override]
  congr 1
  simp [rulesPartial, PartialOptions.override, whitespacePartial]

theorem setFields_rulesPartial (rules : Rules) :
    (rulesPartial rules).setFields ⊆
      ["ConvertTabsToSpaces", "InsertSpaceAfterCommaDelimiter",
        "InsertSpaceAfterSemicolonInForStatements", "InsertSpaceBeforeAndAfterBinaryOperators",
        "InsertSpaceAfterKeywordsInControlFlowStatements"] := by
  intro name hname
  simp [PartialOptions.setFields, rulesPartial, whitespacePartial] at hname
  rcases hname with ⟨-, rfl⟩ | ⟨-, rfl⟩ | ⟨-, rfl⟩ | ⟨-, rfl⟩ | ⟨-, rfl⟩ <;> simp

end Lint

/-! ## The baseline -/

/-- What the `[format]` table of the baseline file sets. -/
def FormatSection.toPartial (s : FormatSection) : PartialOptions where
  indentSize := s.indentSize
  tabSize := s.tabSize
  indentStyle := s.indentStyle
  newLineCharacter := s.newLine
  convertTabsToSpaces := s.convertTabsToSpaces

/-- What the command line sets. -/
def CommandLineOptions.toPartial (cli : CommandLineOptions) : PartialOptions where
  indentSize := cli.indentSize
  tabSize := cli.tabSize
  newLineCharacter := cli.newLine

/-- The baseline is the defaults, overridden by the baseline file, overridden by the
command line. -/
theorem mergeBaseline_eq_override (cli : CommandLineOptions) (file : Option FormatSection) :
    mergeBaseline cli file =
      (FormatOptions.default.override ((file.map FormatSection.toPartial).getD {})).override
        cli.toPartial := by
  cases file with
  | none => simp [mergeBaseline, FormatOptions.override, CommandLineOptions.toPartial]
  | some s =>
    simp [mergeBaseline, FormatOptions.override, CommandLineOptions.toPartial,
      FormatSection.toPartial]

example :
    mergeBaseline { indentSize := some 2 } (some { indentSize := some 8, tabSize := some 3 }) =
      { indentSize := 2, tabSize := 3 } := by
  decide

/-! ## Resolving the options for a file -/

namespace FileSystem

/-- What the editor settings file of a file sets, or why it cannot be found or read. -/
def editorPartial (fs : FileSystem) (file : Path) (baseDir : Option Path) :
    Except Error PartialOptions := do
  match ← fs.editorConfigFor file baseDir with
  | none => return {}
  | some config => return (← fs.editorSettings config (file.fileName?.getD "")).toPartial

/-- What the lint rules of a file set, or why they cannot be found or read. -/
def lintPartial (fs : FileSystem) (file : Path) (baseDir : Option Path) :
    Except Error PartialOptions := do
  match ← fs.lintRules file baseDir with
  | some rules => return Lint.rulesPartial rules
  | none => return {}

variable (fs : FileSystem) (file : Path) (baseDir : Option Path)

theorem editorOptions_eq_override (o : FormatOptions) :
    fs.editorOptions file baseDir o = (fs.editorPartial file baseDir).map o.override := by
  unfold editorOptions editorPartial
  cases fs.editorConfigFor file baseDir with
  | error e => rfl
  | ok config? =>
    cases config? with
    | none => rfl
    | some config =>
      dsimp only [bind, Except.bind]
      cases fs.editorSettings config (file.fileName?.getD "") with
      | error e => rfl
      | ok settings =>
        exact congrArg Except.ok (EditorConfig.Settings.apply_eq_override settings o)

theorem lintOptions_eq_override (o : FormatOptions) :
    fs.lintOptions file baseDir o = (fs.lintPartial file baseDir).map o.override := by
  unfold lintOptions lintPartial
  cases fs.lintRules file baseDir with
  | error e => rfl
  | ok rules? =>
    cases rules? with
    | none => rfl
    | some rules => exact congrArg Except.ok (Lint.applyRules_eq_override rules o)

theorem setFields_editorPartial {E : PartialOptions} (h : fs.editorPartial file baseDir = .ok E) :
    E.setFields ⊆ ["IndentSize", "TabSize", "NewLineCharacter", "ConvertTabsToSpaces"] := by
  unfold editorPartial at h
  cases hconfig : fs.editorConfigFor file baseDir with
  | error e => rw [hconfig] at h; cases h
  | ok config? =>
    rw [hconfig] at h
    cases config? with
    | none => cases h; simp [PartialOptions.setFields]
    | some config =>
      dsimp only [bind, Except.bind] at h
      cases hsettings : fs.editorSettings config (file.fileName?.getD "") with
      | error e => rw [hsettings] at h; cases h
      | ok settings =>
        rw [hsettings] at h
        cases h
        exact settings.setFields_toPartial

theorem setFields_lintPartial {T : PartialOptions} (h : fs.lintPartial file baseDir = .ok T) :
    T.setFields ⊆
      ["ConvertTabsToSpaces", "InsertSpaceAfterCommaDelimiter",
        "InsertSpaceAfterSemicolonInForStatements", "InsertSpaceBeforeAndAfterBinaryOperators",
        "InsertSpaceAfterKeywordsInControlFlowStatements"] := by
  unfold lintPartial at h
  cases hrules : fs.lintRules file baseDir with
  | error e => rw [hrules] at h; cases h
  | ok rules? =>
    rw [hrules] at h
    cases rules? with
    | none => cases h; simp [PartialOptions.setFields]
    | some rules =>
      cases h
      exact Lint.setFields_rulesPartial rules

/-- Resolving the options fails with the error of the first enabled source that fails, the
editor settings before the lint rules; otherwise it is the baseline overridden by what the
editor settings set and then by what the lint rules set. -/
theorem resolveOptions_eq_override (po : ProviderOptions) :
    fs.resolveOptions file po = (do
      let editor ← if po.editorConfig then fs.editorPartial file po.baseDir else pure {}
      let lint ← if po.lint then fs.lintPartial file po.baseDir else pure {}
      pure ((po.baseline.override editor).override lint)) := by
  unfold resolveOptions
  cases po.editorConfig <;> cases po.lint <;>
    simp only [Bool.false_eq_true, if_false, if_true, editorOptions_eq_override,
      lintOptions_eq_override]
  · rfl
  · cases fs.lintPartial file po.baseDir <;> rfl
  · cases fs.editorPartial file po.baseDir <;> rfl
  · cases fs.editorPartial file po.baseDir with
    | error e => rfl
    | ok editor => cases fs.lintPartial file po.baseDir <;> rfl

end FileSystem

/-- Every option comes from the highest-priority source that sets it: the lint rules, then
the editor settings file, then the command line, then the baseline file, then the defaults.
Each source is a partial record computed from the file system, the file and the search
directory alone; the editor settings set only the indentation character, the widths and the
line terminator, and the lint rules only the indentation character and four spacing
switches. Resolving fails with the error of the first enabled source that fails. -/
theorem options_take_highest_priority_source :
    (∀ (fs : FileSystem) (file : Path) (po : ProviderOptions),
      fs.resolveOptions file po = (do
        let editor ← if po.editorConfig then fs.editorPartial file po.baseDir else pure {}
        let lint ← if po.lint then fs.lintPartial file po.baseDir else pure {}
        pure ((po.baseline.override editor).override lint))) ∧
    (∀ (fs : FileSystem) (file : Path) (baseDir : Option Path) (editor : PartialOptions),
      fs.editorPartial file baseDir = .ok editor →
        editor.setFields ⊆ ["IndentSize", "TabSize", "NewLineCharacter", "ConvertTabsToSpaces"]) ∧
    (∀ (fs : FileSystem) (file : Path) (baseDir : Option Path) (lint : PartialOptions),
      fs.lintPartial file baseDir = .ok lint →
        lint.setFields ⊆
          ["ConvertTabsToSpaces", "InsertSpaceAfterCommaDelimiter",
            "InsertSpaceAfterSemicolonInForStatements", "InsertSpaceBeforeAndAfterBinaryOperators",
            "InsertSpaceAfterKeywordsInControlFlowStatements"]) ∧
    (∀ (cli : CommandLineOptions) (toml : Option FormatSection),
      mergeBaseline cli toml =
        (FormatOptions.default.override ((toml.map FormatSection.toPartial).getD {})).override
          cli.toPartial) ∧
    (∀ (fs : FileSystem) (file : Path) (po : ProviderOptions) (cli : CommandLineOptions)
        (toml : Option FormatSection), po.baseline = mergeBaseline cli toml →
      fs.resolveOptions file po = (do
        let editor ← if po.editorConfig then fs.editorPartial file po.baseDir else pure {}
        let lint ← if po.lint then fs.lintPartial file po.baseDir else pure {}
        pure ((((FormatOptions.default.override ((toml.map FormatSection.toPartial).getD {})).override
          cli.toPartial).override editor).override lint))) := by
  refine ⟨FileSystem.resolveOptions_eq_override, fun fs file baseDir _ h =>
    FileSystem.setFields_editorPartial fs file baseDir h, fun fs file baseDir _ h =>
    FileSystem.setFields_lintPartial fs file baseDir h, mergeBaseline_eq_override, ?_⟩
  intro fs file po cli toml hbaseline
  rw [FileSystem.resolveOptions_eq_override, hbaseline, mergeBaseline_eq_override]

end FormatConfig
