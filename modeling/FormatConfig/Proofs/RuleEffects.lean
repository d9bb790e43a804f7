import FormatConfig.Proofs.OptionSources
import FormatConfig.Proofs.ConfigLookup

/-!
# What the lint rules can change, and how a rule may be written

`Lint.applyRules` overrides the options by `Lint.rulesPartial` (`applyRules_eq_override`), so
what it can change is read off that partial record. It sets the indentation character only
when the `indent` rule is on and its second argument is `"tabs"` or `"spaces"`, and it can
only switch the four spacing options of the `whitespace` rule on
(`applyRules_eq_withRuleFields`, `convertTabsToSpaces_applyRules`), so the options of a file
after its rule file keep every other field.

The second half is about how a rule is written. The rules read their configuration only
through `ruleArgument` and `ruleValues`, and an object keyed by position answers both as
the array it spells out (`ruleArgument_positional`, `ruleValues_positional`). The
`whitespace` rule folds a switch over its strings that is commutative and idempotent, so it
sees only whether its first argument is truthy and which strings occur
(`mem_whitespaceChecks_insertMember_congr`).
-/

namespace FormatConfig

namespace Json5

/-- Distinct positions have distinct keys. -/
theorem toString_nat_injective : Function.Injective (toString : Nat → String) := by
  intro i j h
  have h' := congrArg (fun s : String => Nat.ofDigitChars 10 s.toList 0) h
  simpa [toString, Nat.toList_repr] using h'

namespace JsonValue

variable {ms ms' : List (String × JsonValue)} {k k' : String} {v : JsonValue}

theorem member?_cons (m : String × JsonValue) (ms : List (String × JsonValue)) (k : String) :
    member? (m :: ms) k = if m.1 = k then some m.2 else member? ms k := by
  by_cases h : m.1 = k <;> simp [member?, h]

theorem member?_eq_none_iff : member? ms k = none ↔ k ∉ ms.map Prod.fst := by
  simp only [member?, Option.map_eq_none_iff, List.find?_eq_none, beq_iff_eq, List.mem_map,
    not_exists, not_and]

/-- Among members with distinct keys, the member with a key is found by membership. -/
theorem member?_eq_some_iff (hkeys : (ms.map Prod.fst).Nodup) :
    member? ms k = some v ↔ (k, v) ∈ ms := by
  induction ms with
  | nil => simp [member?]
  | cons m ms ih =>
    obtain ⟨k', v'⟩ := m
    rw [List.map_cons, List.nodup_cons] at hkeys
    rw [member?_cons]
    by_cases hk : k' = k
    · subst hk
      have hfresh : (k', v) ∉ ms := fun hmem => hkeys.1 (List.mem_map.2 ⟨_, hmem, rfl⟩)
      simp [hfresh, eq_comm]
    · simp [hk, ih hkeys.2, Ne.symm hk]

/-- Reordering members with distinct keys changes no lookup. -/
theorem member?_perm (hperm : ms.Perm ms') (hkeys : (ms.map Prod.fst).Nodup) (k : String) :
    member? ms k = member? ms' k := by
  have hkeys' : (ms'.map Prod.fst).Nodup := (hperm.map Prod.fst).nodup_iff.1 hkeys
  cases h : member? ms k with
  | some v =>
    exact ((member?_eq_some_iff hkeys').2 (hperm.mem_iff.1 ((member?_eq_some_iff hkeys).1 h))).symm
  | none =>
    rw [member?_eq_none_iff] at h
    exact (member?_eq_none_iff.2 fun hk => h ((hperm.map Prod.fst).mem_iff.2 hk)).symm

/-- A member put into an object is what a lookup of its key finds. -/
@[simp] theorem member?_insertMember_self (k : String) (v : JsonValue)
    (ms : List (String × JsonValue)) : member? (insertMember k v ms) k = some v := by
  induction ms with
  | nil => simp [insertMember, member?_cons]
  | cons m ms ih =>
    obtain ⟨k', v'⟩ := m
    by_cases heq : k = k'
    · simp [insertMember, heq, member?_cons]
    · by_cases hlt : k < k'
      · simp [insertMember, heq, hlt, member?_cons]
      · simp [insertMember, heq, hlt, member?_cons, Ne.symm heq, ih]

/-- Putting a member into an object leaves the lookup of every other key as it was. -/
theorem member?_insertMember_of_ne (h : k' ≠ k) (v : JsonValue)
    (ms : List (String × JsonValue)) : member? (insertMember k v ms) k' = member? ms k' := by
  induction ms with
  | nil => simp [insertMember, member?_cons, Ne.symm h]
  | cons m ms ih =>
    obtain ⟨k'', v''⟩ := m
    by_cases heq : k = k''
    · subst heq
      simp [insertMember, member?_cons, Ne.symm h]
    · by_cases hlt : k < k''
      · simp [insertMember, heq, hlt, member?_cons, Ne.symm h]
      · simp [insertMember, heq, hlt, member?_cons, ih]

/-- The members of an object that holds `vs` keyed by position, `{"0": v₀, "1": v₁, …}`,
in the order of `vs`. -/
def positionalMembers (vs : List JsonValue) : List (String × JsonValue) :=
  vs.mapIdx fun i v => (toString i, v)

theorem keys_positionalMembers_nodup (vs : List JsonValue) :
    ((positionalMembers vs).map Prod.fst).Nodup := by
  have hkeys : (positionalMembers vs).map Prod.fst = (List.range vs.length).map toString := by
    apply List.ext_getElem <;> simp [positionalMembers]
  rw [hkeys]
  exact List.Pairwise.map toString (fun _ _ hne heq => hne (toString_nat_injective heq))
    List.nodup_range

theorem values_positionalMembers (vs : List JsonValue) :
    (positionalMembers vs).map Prod.snd = vs := by
  apply List.ext_getElem <;> simp [positionalMembers]

theorem mem_positionalMembers {vs : List JsonValue} {i : Nat} :
    (toString i, v) ∈ positionalMembers vs ↔ vs[i]? = some v := by
  simp only [positionalMembers, List.mem_mapIdx, Prod.mk.injEq]
  constructor
  · rintro ⟨j, hj, hij, rfl⟩
    obtain rfl := toString_nat_injective hij
    simp [hj]
  · intro h
    obtain ⟨hi, rfl⟩ := List.getElem?_eq_some_iff.1 h
    exact ⟨i, hi, rfl, rfl⟩

/-- The member at key `"i"` of a positional object is the `i`-th value. -/
theorem member?_positionalMembers (vs : List JsonValue) (i : Nat) :
    member? (positionalMembers vs) (toString i) = vs[i]? :=
  Option.ext fun _ =>
    (member?_eq_some_iff (keys_positionalMembers_nodup vs)).trans mem_positionalMembers

theorem mem_filterMap_asString {vs : List JsonValue} {s : String} :
    s ∈ vs.filterMap asString? ↔ JsonValue.string s ∈ vs := by
  simp only [List.mem_filterMap]
  constructor
  · rintro ⟨v, hv, hs⟩
    cases v <;> simp only [asString?, reduceCtorEq, Option.some.injEq] at hs
    exact hs ▸ hv
  · intro hs
    exact ⟨_, hs, rfl⟩

end JsonValue

end Json5

/-! ## What applying the rules changes -/

/-- The options `o` with the indentation character and the four spacing switches of `r`. -/
def FormatOptions.withRuleFields (o r : FormatOptions) : FormatOptions :=
  { o with
    convertTabsToSpaces := r.convertTabsToSpaces
    insertSpaceAfterCommaDelimiter := r.insertSpaceAfterCommaDelimiter
    insertSpaceAfterSemicolonInForStatements := r.insertSpaceAfterSemicolonInForStatements
    insertSpaceBeforeAndAfterBinaryOperators := r.insertSpaceBeforeAndAfterBinaryOperators
    insertSpaceAfterKeywordsInControlFlowStatements :=
      r.insertSpaceAfterKeywordsInControlFlowStatements }

@[simp] theorem FormatOptions.withRuleFields_self (o : FormatOptions) : o.withRuleFields o = o :=
  rfl

namespace Lint

open Json5

theorem getD_switchedOn (c : Bool) (p : Prop) [Decidable p] :
    (if p then some true else none).getD c = (c || decide p) := by
  by_cases hp : p <;> simp [hp]

/-- Outside the five fields the rules set, the options keep every field. -/
theorem applyRules_eq_withRuleFields (rules : Rules) (o : FormatOptions) :
    applyRules rules o = o.withRuleFields (applyRules rules o) := by
  rw [applyRules_eq_override]
  rfl

theorem convertTabsToSpaces_applyRules (rules : Rules) (o : FormatOptions) :
    (applyRules rules o).convertTabsToSpaces =
      (indentConvertsTabs rules).getD o.convertTabsToSpaces := by
  rw [applyRules_eq_override]
  rfl

/-- Each spacing switch ends on when it was on or its check is among the `whitespace`
rule's arguments. -/
theorem spacing_applyRules (rules : Rules) (o : FormatOptions) :
    (applyRules rules o).insertSpaceAfterCommaDelimiter =
        (o.insertSpaceAfterCommaDelimiter ||
          decide ("check-separator" ∈ whitespaceChecks rules)) ∧
      (applyRules rules o).insertSpaceAfterSemicolonInForStatements =
        (o.insertSpaceAfterSemicolonInForStatements ||
          decide ("check-separator" ∈ whitespaceChecks rules)) ∧
      (applyRules rules o).insertSpaceBeforeAndAfterBinaryOperators =
        (o.insertSpaceBeforeAndAfterBinaryOperators ||
          decide ("check-operator" ∈ whitespaceChecks rules)) ∧
      (applyRules rules o).insertSpaceAfterKeywordsInControlFlowStatements =
        (o.insertSpaceAfterKeywordsInControlFlowStatements ||
          decide ("check-branch" ∈ whitespaceChecks rules)) := by
  simp only [applyRules_eq_override, FormatOptions.override, rulesPartial, whitespacePartial,
    getD_switchedOn, and_self]

/-- Only the two texts it names give an indentation character. -/
theorem eq_of_convertsTabs_eq_some {spaces tabs : String} {setting : Option String} {b : Bool}
    (h : convertsTabs spaces tabs setting = some b) :
    setting = some spaces ∨ setting = some tabs := by
  by_contra hne
  rw [not_or] at hne
  rw [convertsTabs_of_ne hne.1 hne.2] at h
  cases h

theorem bind_asString?_eq_some {arg : Option JsonValue} {s : String}
    (h : arg.bind JsonValue.asString? = some s) : arg = some (.string s) := by
  cases arg with
  | none => cases h
  | some v => cases v <;> simp_all [JsonValue.asString?]

/-- The `indent` rule chooses a character only when it is on and its second argument is
`"tabs"` or `"spaces"`. -/
theorem indentConvertsTabs_eq_some {rules : Rules} {b : Bool}
    (h : indentConvertsTabs rules = some b) :
    ∃ rule, JsonValue.member? rules "indent" = some rule ∧
      (ruleArgument rule 0).any JsonValue.isTruthy = true ∧
      (ruleArgument rule 1 = some (.string "tabs") ∨
        ruleArgument rule 1 = some (.string "spaces")) := by
  unfold indentConvertsTabs enabledRule at h
  split at h
  · next rule hrule =>
    split at h
    · next htruthy =>
      refine ⟨rule, hrule, htruthy, ?_⟩
      rcases eq_of_convertsTabs_eq_some h with hspaces | htabs
      · exact .inr (bind_asString?_eq_some hspaces)
      · exact .inl (bind_asString?_eq_some htabs)
    · simp at h
  · simp at h

end Lint

namespace FileSystem

/-- The options of a file after its rule file are the options given, or, when the nearest
rule file has a `rules` object, those options with the rules applied. -/
theorem lintOptions_eq_ok {fs : FileSystem} {file : Path} {baseDir : Option Path}
    {o r : FormatOptions} (h : fs.lintOptions file baseDir o = .ok r) :
    r = o ∨
      ∃ rules, fs.lintRules file baseDir = .ok (some rules) ∧ r = Lint.applyRules rules o := by
  unfold lintOptions at h
  cases hrules : fs.lintRules file baseDir with
  | error e => rw [hrules] at h; cases h
  | ok rules? =>
    rw [hrules] at h
    cases rules? with
    | none => cases h; exact .inl rfl
    | some rules => cases h; exact .inr ⟨rules, rfl, rfl⟩

/-- Taking the lint rules of a file into account changes at most the indentation character
and the four spacing switches. The switches only go from off to on, and the indentation
character changes only when the rule file's `indent` rule is on and names `"tabs"` or
`"spaces"` as its second argument. -/
theorem lintOptions_only_switches_rule_fields (fs : FileSystem) (file : Path)
    (baseDir : Option Path) (o r : FormatOptions) (h : fs.lintOptions file baseDir o = .ok r) :
    r = o.withRuleFields r ∧
      (o.insertSpaceAfterCommaDelimiter = true → r.insertSpaceAfterCommaDelimiter = true) ∧
      (o.insertSpaceAfterSemicolonInForStatements = true →
        r.insertSpaceAfterSemicolonInForStatements = true) ∧
      (o.insertSpaceBeforeAndAfterBinaryOperators = true →
        r.insertSpaceBeforeAndAfterBinaryOperators = true) ∧
      (o.insertSpaceAfterKeywordsInControlFlowStatements = true →
        r.insertSpaceAfterKeywordsInControlFlowStatements = true) ∧
      (r.convertTabsToSpaces ≠ o.convertTabsToSpaces →
        ∃ rules rule, fs.lintRules file baseDir = .ok (some rules) ∧
          Json5.JsonValue.member? rules "indent" = some rule ∧
          (Lint.ruleArgument rule 0).any Json5.JsonValue.isTruthy = true ∧
          (Lint.ruleArgument rule 1 = some (.string "tabs") ∨
            Lint.ruleArgument rule 1 = some (.string "spaces"))) := by
  rcases lintOptions_eq_ok h with rfl | ⟨rules, hrules, rfl⟩
  · exact ⟨rfl, id, id, id, id, fun hne => absurd rfl hne⟩
  · obtain ⟨hcomma, hsemicolon, hoperators, hkeywords⟩ := Lint.spacing_applyRules rules o
    refine ⟨Lint.applyRules_eq_withRuleFields rules o, ?_, ?_, ?_, ?_, ?_⟩
    · intro hon; simp [hcomma, hon]
    · intro hon; simp [hsemicolon, hon]
    · intro hon; simp [hoperators, hon]
    · intro hon; simp [hkeywords, hon]
    · intro hne
      rw [Lint.convertTabsToSpaces_applyRules] at hne
      -- without a choice of the `indent` rule the character is the one given
      cases hindent : Lint.indentConvertsTabs rules with
      | none => rw [hindent] at hne; exact absurd rfl hne
      | some b =>
        obtain ⟨rule, hrule, htruthy, harg⟩ := Lint.indentConvertsTabs_eq_some hindent
        exact ⟨rules, rule, hrules, hrule, htruthy, harg⟩

/-- A project whose rule file asks for tabs and for spaces around operators. -/
def tabsRuleProject : FileSystem :=
  { nodes := [(["r"], .dir),
    (["r", "tslint.json"],
      .file ("\x7b\"rules\": \x7b\"indent\": [true, \"tabs\"], " ++
        "\"whitespace\": [true, \"check-operator\"]\x7d\x7d").toUTF8)],
    cwd := ["r"] }

/-- Starting from spaces and no spacing, the rule file of `tabsRuleProject` switches to tabs
and spaces around operators, and its `indent` rule is on and names `"tabs"`. -/
theorem lintOptions_only_switches_rule_fields_tabs :
    tabsRuleProject.lintOptions ⟨"a.ts"⟩ none
        { insertSpaceAfterCommaDelimiter := false, insertSpaceAfterSemicolonInForStatements := false,
          insertSpaceBeforeAndAfterBinaryOperators := false,
          insertSpaceAfterKeywordsInControlFlowStatements := false } =
      .ok { convertTabsToSpaces := false, insertSpaceAfterCommaDelimiter := false,
            insertSpaceAfterSemicolonInForStatements := false,
            insertSpaceAfterKeywordsInControlFlowStatements := false } ∧
    ∃ rules rule, tabsRuleProject.lintRules ⟨"a.ts"⟩ none = .ok (some rules) ∧
      Json5.JsonValue.member? rules "indent" = some rule ∧
      (Lint.ruleArgument rule 0).any Json5.JsonValue.isTruthy = true ∧
      (Lint.ruleArgument rule 1 = some (.string "tabs") ∨
        Lint.ruleArgument rule 1 = some (.string "spaces")) := by
  have h := eq_ok_of_toOption_eq_some (by decide +kernel :
    (tabsRuleProject.lintOptions ⟨"a.ts"⟩ none
        { insertSpaceAfterCommaDelimiter := false,
          insertSpaceAfterSemicolonInForStatements := false,
          insertSpaceBeforeAndAfterBinaryOperators := false,
          insertSpaceAfterKeywordsInControlFlowStatements := false }).toOption =
      some { convertTabsToSpaces := false, insertSpaceAfterCommaDelimiter := false,
             insertSpaceAfterSemicolonInForStatements := false,
             insertSpaceAfterKeywordsInControlFlowStatements := false })
  exact ⟨h, (lintOptions_only_switches_rule_fields _ _ _ _ _ h).2.2.2.2.2 (by decide)⟩

end FileSystem

/-! ## How a rule is written -/

namespace Lint

open Json5

variable {ms : List (String × JsonValue)} {vs : List JsonValue}

/-- Every argument of a rule written as an object keyed by position is the argument of the
array it spells out. -/
theorem ruleArgument_positional (hperm : ms.Perm (JsonValue.positionalMembers vs)) (i : Nat) :
    ruleArgument (.object ms) i = ruleArgument (.array vs) i := by
  simp only [ruleArgument]
  rw [← JsonValue.member?_positionalMembers,
    JsonValue.member?_perm hperm.symm (JsonValue.keys_positionalMembers_nodup vs)]

/-- The values of a rule written as an object keyed by position are those of the array, in
the order of the keys. -/
theorem ruleValues_positional (hperm : ms.Perm (JsonValue.positionalMembers vs)) :
    (ruleValues (.object ms)).Perm (ruleValues (.array vs)) := by
  simpa [ruleValues, JsonValue.values_positionalMembers] using hperm.map Prod.snd

theorem enabledRule_insertMember_self (name : String) (rule : JsonValue) (rules : Rules) :
    enabledRule (insertMember name rule rules) name =
      if (ruleArgument rule 0).any JsonValue.isTruthy then some rule else none := by
  simp only [enabledRule, JsonValue.member?_insertMember_self]

theorem enabledRule_insertMember_of_ne {name other : String} (h : other ≠ name)
    (rule : JsonValue) (rules : Rules) :
    enabledRule (insertMember name rule rules) other = enabledRule rules other := by
  simp only [enabledRule, JsonValue.member?_insertMember_of_ne h]

section Congruence

variable {rule₁ rule₂ : JsonValue}
  (htruthy : (ruleArgument rule₁ 0).any JsonValue.isTruthy =
    (ruleArgument rule₂ 0).any JsonValue.isTruthy)
include htruthy

/-- The `indent` rule reads whether its first argument is truthy, and its second argument. -/
theorem indentConvertsTabs_insertMember_congr
    (hsecond : ruleArgument rule₁ 1 = ruleArgument rule₂ 1) (name : String) (rules : Rules) :
    indentConvertsTabs (insertMember name rule₁ rules) =
      indentConvertsTabs (insertMember name rule₂ rules) := by
  by_cases hname : name = "indent"
  · subst hname
    simp only [indentConvertsTabs, enabledRule_insertMember_self, htruthy]
    split <;> simp [hsecond]
  · simp only [indentConvertsTabs, enabledRule_insertMember_of_ne (Ne.symm hname)]

/-- The `whitespace` rule reads whether its first argument is truthy, and which strings are
among its arguments. -/
theorem mem_whitespaceChecks_insertMember_congr
    (hstrings : ∀ s,
      JsonValue.string s ∈ ruleValues rule₁ ↔ JsonValue.string s ∈ ruleValues rule₂)
    (name : String) (rules : Rules) (s : String) :
    s ∈ whitespaceChecks (insertMember name rule₁ rules) ↔
      s ∈ whitespaceChecks (insertMember name rule₂ rules) := by
  by_cases hname : name = "whitespace"
  · subst hname
    simp only [whitespaceChecks, enabledRule_insertMember_self, htruthy]
    by_cases hon : (ruleArgument rule₂ 0).any JsonValue.isTruthy = true
    · simp only [hon, if_true, JsonValue.mem_filterMap_asString, hstrings]
    · simp [hon]
  · simp only [whitespaceChecks, enabledRule_insertMember_of_ne (Ne.symm hname)]

end Congruence

/-- Two rule sets whose `indent` rules choose alike and whose `whitespace` rules name the
same checks have the same effect. -/
theorem applyRules_congr {rules₁ rules₂ : Rules}
    (hindent : indentConvertsTabs rules₁ = indentConvertsTabs rules₂)
    (hchecks : ∀ s, s ∈ whitespaceChecks rules₁ ↔ s ∈ whitespaceChecks rules₂)
    (o : FormatOptions) : applyRules rules₁ o = applyRules rules₂ o := by
  have hspacing : whitespacePartial (whitespaceChecks rules₁) =
      whitespacePartial (whitespaceChecks rules₂) := by
    simp only [whitespacePartial, hchecks]
  rw [applyRules_eq_override, applyRules_eq_override, rulesPartial, rulesPartial, hindent,
    hspacing]

/-- Writing a rule as an object keyed by position instead of as an array changes nothing,
whichever rule it is. The `whitespace` rule's effect depends only on whether its first
argument is truthy and on which strings are among its arguments, so reordering or repeating
the arguments after the first changes nothing either. -/
theorem rule_effect_ignores_argument_layout :
    (∀ (name : String) (vs : List JsonValue) (ms : List (String × JsonValue)),
      ms.Perm (JsonValue.positionalMembers vs) → ∀ (rules : Rules) (o : FormatOptions),
        applyRules (insertMember name (.object ms) rules) o =
          applyRules (insertMember name (.array vs) rules) o) ∧
    (∀ rule₁ rule₂ : JsonValue,
      (ruleArgument rule₁ 0).any JsonValue.isTruthy = (ruleArgument rule₂ 0).any JsonValue.isTruthy →
      (∀ s, JsonValue.string s ∈ ruleValues rule₁ ↔ JsonValue.string s ∈ ruleValues rule₂) →
      ∀ (rules : Rules) (o : FormatOptions),
        applyRules (insertMember "whitespace" rule₁ rules) o =
          applyRules (insertMember "whitespace" rule₂ rules) o) ∧
    (∀ (first : JsonValue) (args args' : List JsonValue), (∀ v, v ∈ args ↔ v ∈ args') →
      ∀ (rules : Rules) (o : FormatOptions),
        applyRules (insertMember "whitespace" (.array (first :: args)) rules) o =
          applyRules (insertMember "whitespace" (.array (first :: args')) rules) o) := by
  -- the second part, for the `whitespace` rule, is the step of the third
  have hwhitespace : ∀ rule₁ rule₂ : JsonValue,
      (ruleArgument rule₁ 0).any JsonValue.isTruthy = (ruleArgument rule₂ 0).any JsonValue.isTruthy →
      (∀ s, JsonValue.string s ∈ ruleValues rule₁ ↔ JsonValue.string s ∈ ruleValues rule₂) →
      ∀ (rules : Rules) (o : FormatOptions),
        applyRules (insertMember "whitespace" rule₁ rules) o =
          applyRules (insertMember "whitespace" rule₂ rules) o := by
    intro rule₁ rule₂ htruthy hstrings rules o
    apply applyRules_congr _ (mem_whitespaceChecks_insertMember_congr htruthy hstrings _ rules)
    simp only [indentConvertsTabs,
      enabledRule_insertMember_of_ne (by decide : "indent" ≠ "whitespace")]
  refine ⟨?_, hwhitespace, ?_⟩
  · intro name vs ms hperm rules o
    have hargs := ruleArgument_positional hperm
    apply applyRules_congr
      (indentConvertsTabs_insertMember_congr (by rw [hargs]) (hargs 1) name rules)
    apply mem_whitespaceChecks_insertMember_congr (by rw [hargs]) _ name rules
    intro s
    exact (ruleValues_positional hperm).mem_iff
  · intro first args args' hargs rules o
    refine hwhitespace (.array (first :: args)) (.array (first :: args')) rfl ?_ rules o
    intro s
    simp only [ruleValues, List.mem_cons, hargs]

/-- The three parts at work: `whitespace` written as `{"1": "check-separator", "0": true}`
reads as `[true, "check-separator"]`; `[true, "check-branch", "check-branch"]` has the effect of
`["check-branch"]`; and `[true, "check-operator", "check-branch"]` that of
`[true, "check-branch", "check-operator", "check-branch"]`. -/
theorem rule_effect_ignores_argument_layout_whitespace :
    ([("1", .string "check-separator"), ("0", .bool true)] : List (String × JsonValue)).Perm
        (JsonValue.positionalMembers [.bool true, .string "check-separator"]) ∧
      applyRules (insertMember "whitespace"
          (.object [("1", .string "check-separator"), ("0", .bool true)]) []) {} =
        applyRules (insertMember "whitespace" (.array [.bool true, .string "check-separator"]) []) {} ∧
      applyRules (insertMember "whitespace"
          (.array [.bool true, .string "check-branch", .string "check-branch"]) []) {} =
        applyRules (insertMember "whitespace" (.array [.string "check-branch"]) []) {} ∧
      applyRules (insertMember "whitespace"
          (.array [.bool true, .string "check-operator", .string "check-branch"]) []) {} =
        applyRules (insertMember "whitespace" (.array [.bool true, .string "check-branch",
          .string "check-operator", .string "check-branch"]) []) {} := by
  have hperm : ([("1", .string "check-separator"), ("0", .bool true)] :
      List (String × JsonValue)).Perm
        (JsonValue.positionalMembers [.bool true, .string "check-separator"]) :=
    List.Perm.swap _ _ []
  obtain ⟨hobject, hwhitespace, hreorder⟩ := rule_effect_ignores_argument_layout
  refine ⟨hperm, hobject "whitespace" _ _ hperm [] {}, hwhitespace _ _ rfl ?_ [] {},
    hreorder _ _ _ ?_ [] {}⟩
  · intro s
    simp
  · intro v
    simp only [List.mem_cons, List.not_mem_nil, or_false]
    tauto

end Lint

end FormatConfig
