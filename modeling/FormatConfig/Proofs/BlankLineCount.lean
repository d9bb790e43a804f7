import FormatConfig.Proofs.FixRun
import FormatConfig.Proofs.ConfigLookup
import Mathlib.Data.List.SplitBy
import Mathlib.Algebra.GroupWithZero.Nat

/-!
# How many blank lines a check reports

A check run that finds a file to fix reports, in its normal output, how many blank lines
are to be removed, as the number of lines of the text minus the number of lines of the
fixed text, counted as `Cli.lineCount` counts them: one per line feed, and one more for a
last line without a line feed.

Counted so, the report is exact. A collapse deletes whole terminated lines and keeps the
tail (`splitLines_collapse`), so the difference of the two counts is the number of lines it
deleted (`lineCount_collapse_add`). Those are the blank lines that directly follow a blank
line (`length_dropRepeatedBlanks_add`), that is `k - 1` of every maximal run of `k` blank
lines (`surplusBlankLines`, through `List.splitBy`). A collapse that changes the text deletes
at least one line, so a file reported is reported with at least one line to remove.
-/

namespace FormatConfig

namespace BlankLines

/-! ## Runs of blank lines -/

/-- Two neighbouring lines that are both blank: a collapse deletes the second. -/
def bothBlank (a b : Line) : Bool := a.isBlank && b.isBlank

/-- The maximal runs of blank lines: the longest pieces of the lines in which every two
neighbours are both blank. A line that is not blank stands alone. -/
def blankRuns (ls : List Line) : List (List Line) := ls.splitBy bothBlank

/-- The blank lines beyond the first of each maximal run: `k - 1` for a run of `k`, nothing
for a run of one or for a line that is not blank. -/
def surplusBlankLines (ls : List Line) : Nat := ((blankRuns ls).map (·.length - 1)).sum

/-- The blank lines among `ls` that directly follow a blank line, `prev` standing before the
first of them. -/
def blanksAfterBlank (prev : Line) : List Line → Nat
  | [] => 0
  | l :: ls => (if bothBlank prev l then 1 else 0) + blanksAfterBlank l ls

/-- The splitting loop adds, to the runs it has closed and the one it is building, one line
for every pair of neighbours that stay in one run. -/
theorem sum_splitBy_loop (ls : List Line) (prev : Line) (run : List Line)
    (runs : List (List Line)) :
    ((List.splitBy.loop bothBlank ls prev run runs).map (·.length - 1)).sum =
      (runs.map (·.length - 1)).sum + run.length + blanksAfterBlank prev ls := by
  induction ls generalizing prev run runs with
  | nil => simp [List.splitBy.loop, blanksAfterBlank, Nat.add_comm]
  | cons l ls ih =>
    unfold List.splitBy.loop
    cases h : bothBlank prev l
    · -- the run ends at `prev`; a new one starts at `l`
      rw [ih, blanksAfterBlank, h]
      simp only [List.reverse_cons, List.map_cons, List.length_append, List.length_reverse,
        List.length_cons, List.length_nil, zero_add, Nat.add_one_sub_one, List.sum_cons, add_zero,
        Bool.false_eq_true, ↓reduceIte, Nat.add_right_cancel_iff]
      omega
    · -- `l` joins the run of `prev`
      rw [ih, blanksAfterBlank, h]
      simp only [List.length_cons, ↓reduceIte]
      omega

theorem surplusBlankLines_cons (l : Line) (ls : List Line) :
    surplusBlankLines (l :: ls) = blanksAfterBlank l ls := by
  simpa [surplusBlankLines, blankRuns, List.splitBy] using sum_splitBy_loop ls l [] []

/-- Dropping repeated blank lines after `prev` drops exactly the blank lines that follow a
blank line. -/
theorem length_dropRepeatedBlanks_add (prev : Line) (ls : List Line) :
    (dropRepeatedBlanks prev.isBlank ls).length + blanksAfterBlank prev ls = ls.length := by
  induction ls generalizing prev with
  | nil => rfl
  | cons l ls ih =>
    have hl := ih l
    rw [dropRepeatedBlanks, blanksAfterBlank, bothBlank]
    by_cases h : (prev.isBlank && l.isBlank) = true
    · -- `l` is dropped, and the line before the rest is blank as `l` is
      have hblank : l.isBlank = true := (Bool.and_eq_true_iff.1 h).2
      rw [if_pos h, if_pos h, List.length_cons]
      rw [hblank] at hl
      omega
    · rw [if_neg h, if_neg h]
      simp only [List.length_cons]
      omega

/-- Collapsing the lines deletes the surplus blank lines, and keeps every other line. -/
theorem length_dropRepeatedBlanks_false (ls : List Line) :
    (dropRepeatedBlanks false ls).length + surplusBlankLines ls = ls.length := by
  cases ls with
  | nil => rfl
  | cons l ls =>
    have h := length_dropRepeatedBlanks_add l ls
    rw [surplusBlankLines_cons, dropRepeatedBlanks, if_neg (by simp), List.length_cons,
      List.length_cons]
    omega

/-! ## Counting lines -/

/-- A text is its lines, each followed by its line feed, and then its tail. -/
theorem flatMap_chars_splitLines (t : List Char) :
    (splitLines t).1.flatMap Line.chars ++ (splitLines t).2 = t := by
  induction t using lines_induction with
  | tail t h => simp [splitLines_of_not_mem h]
  | line xs rest h ih =>
    rw [splitLines_append_line h, List.flatMap_cons, List.append_assoc, ih]
    simp [Line.chars]

/-- Every line feed ends one line. -/
theorem length_filter_lf (t : List Char) :
    (t.filter (· = '\n')).length = (splitLines t).1.length := by
  induction t using lines_induction with
  | tail t h =>
    rw [splitLines_of_not_mem h, List.filter_eq_nil_iff.2 (fun c hc hlf => h (by simp_all))]
    rfl
  | line xs rest h ih =>
    rw [splitLines_append_line h, List.filter_append, List.filter_eq_nil_iff.2
      (fun c hc hlf => h (by simp_all))]
    simp [ih]

/-- A text has no tail exactly when it is empty or ends with a line feed. -/
theorem tail_eq_nil_iff (t : List Char) :
    (splitLines t).2 = [] ↔ t = [] ∨ t.getLast? = some '\n' := by
  induction t using lines_induction with
  | tail t h =>
    rw [splitLines_of_not_mem h]
    constructor
    · exact .inl
    · rintro (rfl | hlast)
      · rfl
      · exact absurd (List.mem_of_getLast? hlast) h
  | line xs rest h ih =>
    rw [splitLines_append_line h, ih]
    cases rest with
    | nil => simp
    | cons c rest => simp [List.getLast?_cons]

end BlankLines

namespace Cli

open BlankLines

/-- `lineCount` counts the terminated lines of a text, and its tail when there is one. -/
theorem lineCount_eq (s : String) :
    lineCount s = (splitLines s.toList).1.length +
      if (splitLines s.toList).2 = [] then 0 else 1 := by
  have hend : s.endsWith "\n" = true ↔ s.toList.getLast? = some '\n' := by
    rw [← List.singleton_suffix_iff_getLast?_eq_some]
    simp [← String.endsWith_toSlice]
  have htail : (s.isEmpty || s.endsWith "\n") = true ↔ (splitLines s.toList).2 = [] := by
    rw [tail_eq_nil_iff, Bool.or_eq_true, hend, String.isEmpty_iff, ← String.toList_eq_nil_iff]
  unfold lineCount
  rw [length_filter_lf]
  by_cases h : (splitLines s.toList).2 = []
  · rw [if_pos (htail.2 h), if_pos h, Nat.add_zero]
  · rw [if_neg (mt htail.1 h), if_neg h]

/-- Collapsing deletes lines without adding any, and the count falls by the surplus blank
lines. -/
theorem lineCount_collapse_add (t : String) :
    lineCount (collapse t) + surplusBlankLines (splitLines t.toList).1 = lineCount t := by
  have hlen := length_dropRepeatedBlanks_false (splitLines t.toList).1
  rw [lineCount_eq, lineCount_eq, splitLines_collapse]
  dsimp only
  omega

/-- The count a check reports for a collapsed text is the surplus of blank lines. -/
theorem lineCount_sub_collapse (t : String) :
    lineCount t - lineCount (collapse t) = surplusBlankLines (splitLines t.toList).1 := by
  have hcount := lineCount_collapse_add t
  omega

/-- A collapse that changes a text deletes at least one line. -/
theorem surplusBlankLines_pos {t : String} (h : collapse t ≠ t) :
    0 < surplusBlankLines (splitLines t.toList).1 := by
  apply Nat.pos_of_ne_zero
  intro hzero
  apply h
  have hlen := length_dropRepeatedBlanks_false (splitLines t.toList).1
  have hkept : dropRepeatedBlanks false (splitLines t.toList).1 = (splitLines t.toList).1 :=
    (dropRepeatedBlanks_sublist _ _).eq_of_length (by omega)
  rw [collapse_eq_collapseByLines, collapseByLines, hkept, flatMap_chars_splitLines,
    String.ofList_toList]

end Cli

/-- **The count a check reports.** Collapsing a text never adds lines as `lineCount` counts
them; the count falls by the number of lines the collapse deletes, which is the surplus of
blank lines, `k - 1` for every maximal run of `k` blank lines. When a file's fixups change
its text, the fixed text is the collapse, and the normal report of the check names the file
and this surplus, which is at least one. -/
theorem check_report_counts_deleted_blank_lines :
    (∀ t : String,
      Cli.lineCount (BlankLines.collapse t) ≤ Cli.lineCount t ∧
      Cli.lineCount t - Cli.lineCount (BlankLines.collapse t) =
        BlankLines.surplusBlankLines (BlankLines.splitLines t.toList).1 ∧
      (BlankLines.splitLines (BlankLines.collapse t).toList).1.length +
        BlankLines.surplusBlankLines (BlankLines.splitLines t.toList).1 =
          (BlankLines.splitLines t.toList).1.length ∧
      (BlankLines.collapse t ≠ t →
        1 ≤ Cli.lineCount t - Cli.lineCount (BlankLines.collapse t))) ∧
    (∀ (fs : FileSystem) (path : Path) (po : ProviderOptions) (t u : String) (s : Cli.Session),
      fs.postProcessText path t po = .ok u → u ≠ t →
        ((Cli.reportProblem .normal path t u).run s).run.2.out =
          s.out ++ ("Error: " ++ path.text) ++ "\n" ++
            ("  - " ++ toString (BlankLines.surplusBlankLines (BlankLines.splitLines t.toList).1) ++
              " consecutive blank line(s) to remove") ++ "\n" ∧
        1 ≤ BlankLines.surplusBlankLines (BlankLines.splitLines t.toList).1) := by
  constructor
  · intro t
    have hcount := Cli.lineCount_collapse_add t
    have hlines := BlankLines.length_dropRepeatedBlanks_false (BlankLines.splitLines t.toList).1
    refine ⟨by omega, Cli.lineCount_sub_collapse t, ?_, fun hchanged => ?_⟩
    · rw [BlankLines.splitLines_collapse]
      exact hlines
    · have hpos := Cli.surplusBlankLines_pos hchanged
      omega
  · intro fs path po t u s hfix hchanged
    -- the fixups either keep the text, which is not reported, or collapse it
    obtain rfl | rfl := FileSystem.postProcessText_cases hfix
    · exact absurd rfl hchanged
    refine ⟨?_, Cli.surplusBlankLines_pos hchanged⟩
    simp [Cli.reportProblem, Cli.say, Cli.lineCount_sub_collapse]

/-- A project whose rule file asks for consecutive blank lines to be removed. -/
def blankLineRuleProject : FileSystem :=
  { nodes := [(["r"], .dir),
    (["r", "tslint.json"],
      .file "\x7b\"rules\": \x7b\"no-consecutive-blank-lines\": true\x7d\x7d".toUTF8)],
    cwd := ["r"] }

/-- Three blank lines in a row: the check reports two to remove. -/
theorem check_report_counts_deleted_blank_lines_three_blank :
    BlankLines.collapse "a\n\n\n\nb\n" ≠ "a\n\n\n\nb\n" ∧
    1 ≤ Cli.lineCount "a\n\n\n\nb\n" - Cli.lineCount (BlankLines.collapse "a\n\n\n\nb\n") ∧
    blankLineRuleProject.postProcessText ⟨"a.ts"⟩ "a\n\n\n\nb\n" {} = .ok "a\n\nb\n" ∧
    ("a\n\nb\n" : String) ≠ "a\n\n\n\nb\n" ∧
    ((Cli.reportProblem .normal ⟨"a.ts"⟩ "a\n\n\n\nb\n" "a\n\nb\n").run
        { fs := blankLineRuleProject }).run.2.out =
      "" ++ ("Error: " ++ "a.ts") ++ "\n" ++
        ("  - " ++ toString (BlankLines.surplusBlankLines
          (BlankLines.splitLines "a\n\n\n\nb\n".toList).1) ++
          " consecutive blank line(s) to remove") ++ "\n" ∧
    1 ≤ BlankLines.surplusBlankLines (BlankLines.splitLines "a\n\n\n\nb\n".toList).1 := by
  have hchanged : BlankLines.collapse "a\n\n\n\nb\n" ≠ "a\n\n\n\nb\n" := by decide
  have hfix : blankLineRuleProject.postProcessText ⟨"a.ts"⟩ "a\n\n\n\nb\n" {} =
      .ok "a\n\nb\n" :=
    eq_ok_of_toOption_eq_some (by decide +kernel)
  have hfixed : ("a\n\nb\n" : String) ≠ "a\n\n\n\nb\n" := by decide
  exact ⟨hchanged, (check_report_counts_deleted_blank_lines.1 _).2.2.2 hchanged, hfix, hfixed,
    check_report_counts_deleted_blank_lines.2 _ _ _ _ _ _ hfix hfixed⟩

end FormatConfig
