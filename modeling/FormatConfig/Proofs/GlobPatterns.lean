import FormatConfig.Glob.Match

/-!
# Glob patterns that read as plain text

A pattern without `?`, `*` or `[` is read as its characters one by one
(`compileAux_literal`), and such a pattern matches a text, case-sensitively, exactly when
the text is the pattern itself (`matchesWith_literal`). Braces, in particular, are plain
characters.

Whether a text compiles depends on where it starts only through whether it starts a
component, at the beginning or after a slash (`isOk_compileAux_congr`). Escaped text always
reads through to what follows it (`compileAux_escape_append`).
-/

namespace FormatConfig

namespace Glob

/-- A character that a pattern reads as itself. -/
def isPlain (c : Char) : Bool := c != '?' && c != '*' && c != '['

/-- Characters that are all plain are read one token each. -/
theorem compileAux_literal (cs : List Char) (hcs : cs.all isPlain = true) (pos : Nat)
    (prev : Option Char) (acc : List Token) :
    compileAux cs pos prev acc = .ok (acc.reverse ++ cs.map .char) := by
  induction cs generalizing pos prev acc with
  | nil => simp [compileAux]
  | cons c rest ih =>
    rw [List.all_cons, Bool.and_eq_true] at hcs
    obtain ⟨hplain, hrest⟩ := hcs
    have hquestion : c ≠ '?' := by simp_all [isPlain]
    have hstar : c ≠ '*' := by simp_all [isPlain]
    have hbracket : c ≠ '[' := by simp_all [isPlain]
    -- a plain character is read by the last case of the reader; the side goals rule out
    -- the others
    rw [compileAux, ih hrest]
    · simp
    all_goals
      intros
      simp_all

theorem compile_literal {s : String} (hs : s.toList.all isPlain = true) :
    Pattern.compile s = .ok ⟨s, s.toList.map .char, false⟩ := by
  simp [Pattern.compile, compileAux_literal s.toList hs]

/-- Under case-sensitive matching, plain characters match exactly themselves. -/
theorem matchFrom_chars_eq_matched (o : MatchOptions) (ho : o.caseSensitive = true)
    (followsSep : Bool) (file cs : List Char) :
    matchFrom o followsSep file (cs.map .char) = .matched ↔ file = cs := by
  induction cs generalizing followsSep file with
  | nil => cases file <;> simp [matchFrom]
  | cons c rest ih =>
    cases file with
    | nil => simp [matchFrom]
    | cons d ds =>
      -- a plain token takes one character, when it is the same
      rw [List.map_cons, matchFrom]
      · have haccept : acceptsChar o followsSep (.char c) d = (d == c) := by
          show charsEq d c o.caseSensitive = (d == c)
          rw [ho]
          rfl
        rw [haccept]
        by_cases hdc : d = c
        · simp [hdc, ih]
        · simp [hdc]
      all_goals
        intro h
        cases h

theorem matchesWith_literal {s t : String} {o : MatchOptions}
    (ho : o.caseSensitive = true) :
    (⟨s, s.toList.map .char, false⟩ : Pattern).matchesWith t o = true ↔ t = s := by
  simp only [Pattern.matchesWith, beq_iff_eq, matchFrom_chars_eq_matched o ho]
  exact String.toList_inj

/-! ## Which texts compile -/

theorem isOk_compile (s : String) :
    (Pattern.compile s).isOk = (compileAux s.toList 0 none []).isOk := by
  unfold Pattern.compile
  cases compileAux s.toList 0 none [] <;> rfl

@[simp] theorem isOk_compileAux_nil (pos : Nat) (prev : Option Char) (acc : List Token) :
    (compileAux [] pos prev acc).isOk = true := by
  rw [compileAux]
  rfl

/-- Whether reading succeeds does not depend on the position or the tokens so far, and
depends on the character before only through whether it starts a component. -/
theorem isOk_compileAux_congr (cs : List Char) (pos : Nat) (prev : Option Char) (acc : List Token)
    {pos' : Nat} {prev' : Option Char} {acc' : List Token}
    (hprev : (prev = none ∨ prev = some '/') ↔ (prev' = none ∨ prev' = some '/')) :
    (compileAux cs pos prev acc).isOk = (compileAux cs pos' prev' acc').isOk := by
  fun_induction compileAux cs pos prev acc generalizing pos' prev' acc' with
  | case1 => rw [compileAux]; rfl
  | case2 pos prev acc rest ih =>
    rw [compileAux]
    exact ih Iff.rfl
  | case3 => rw [compileAux]; rfl
  | case4 pos prev acc after hthird hstart hslash ih =>
    rw [compileAux, if_pos (hprev.1 hstart), if_pos hslash]
    · exact ih Iff.rfl
    · exact hthird
  | case5 pos prev acc after hthird hstart hslash hend =>
    rw [compileAux, if_pos (hprev.1 hstart), if_neg hslash, if_pos hend]
    · rfl
    · exact hthird
  | case6 pos prev acc after hthird hstart hslash hend =>
    rw [compileAux, if_pos (hprev.1 hstart), if_neg hslash, if_neg hend]
    · rfl
    · exact hthird
  | case7 pos prev acc after hthird hstart =>
    rw [compileAux, if_neg fun h => hstart (hprev.2 h)]
    · rfl
    · exact hthird
  | case8 pos prev acc rest htwo hone ih =>
    rw [compileAux]
    · exact ih Iff.rfl
    all_goals assumption
  | case9 pos prev acc rest tok used hread ih =>
    rw [compileAux, hread]
    exact ih Iff.rfl
  | case10 pos prev acc rest hread =>
    rw [compileAux, hread]
    rfl
  | case11 pos prev acc c rest hq htwo hone hstar hbracket ih =>
    rw [compileAux]
    · exact ih Iff.rfl
    all_goals assumption

/-- The characters `escape` writes for one character. -/
def escapeChar (c : Char) : List Char :=
  if c = '?' ∨ c = '*' ∨ c = '[' ∨ c = ']' then ['[', c, ']'] else [c]

theorem toList_escape (s : String) : (escape s).toList = s.toList.flatMap escapeChar := by
  simp only [escape, String.toList_join, List.flatMap_map]
  congr 1
  funext c
  unfold escapeChar
  split <;> simp

/-- Escaped text reads through to whatever follows it. -/
theorem compileAux_escape_append (s rest : List Char) (pos : Nat) (prev : Option Char)
    (acc : List Token) :
    ∃ pos' prev' acc', compileAux (s.flatMap escapeChar ++ rest) pos prev acc =
      compileAux rest pos' prev' acc' := by
  induction s generalizing pos prev acc with
  | nil => exact ⟨pos, prev, acc, rfl⟩
  | cons c s ih =>
    rw [List.flatMap_cons, List.append_assoc]
    by_cases hspecial : c = '?' ∨ c = '*' ∨ c = '[' ∨ c = ']'
    · -- a wildcard character is read as a class of itself
      have hclass : readClass (c :: ']' :: (s.flatMap escapeChar ++ rest)) =
          some (.anyWithin [.single c], 2) := by
        have hbang : c ≠ '!' := by rcases hspecial with h | h | h | h <;> simp [h]
        simp [readClass, hbang, closeIndex?, charSpecs, List.findIdx?_cons]
      rw [show escapeChar c = ['[', c, ']'] from if_pos hspecial, List.cons_append,
        List.cons_append, List.cons_append, List.nil_append, compileAux, hclass]
      exact ih _ _ _
    · rw [show escapeChar c = [c] from if_neg hspecial, List.singleton_append, compileAux]
      · exact ih _ _ _
      all_goals
        intros
        simp_all

end Glob

end FormatConfig
