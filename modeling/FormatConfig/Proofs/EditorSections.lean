import FormatConfig.EditorConfig.Settings
import FormatConfig.Proofs.GlobPatterns
import Mathlib.Data.List.Basic
import Mathlib.Data.List.Induction

/-!
# Which assignments of an editor settings file apply

An editor settings file is read line by line, with one bit of state besides the settings:
whether the section the reader is in applies to the file name. This module states the
result without that state. A line is a header when, trimmed, it is in brackets; it is an
assignment when, trimmed, it is not empty, no comment, no header and holds `=`. An
assignment applies when the nearest header above it exists and matches the file name
(`applicableAssignments`), and each setting is the value of the last applicable
assignment of its key, the two sizes the last one that reads as a size (`settingsOf`).

The run lemma `foldl_step_eq` carries this through the lines: one step
(`step_readerAfter`) adds the line's assignment when the reader's section applies, which is
when the nearest header above the line matches. `settingsFor_eq` follows for a whole text.

A header matches through its brace group. `expandBraces_group` and
`expandBraces_of_close_first` say which group that is: the text from the first `{` to the
first `}`, and none when the first `}` comes before the first `{`.
-/

namespace FormatConfig

namespace EditorConfig

/-! ## Lines -/

/-- The pattern of a header line: a line that, trimmed, starts with `[` and ends with `]`. -/
def headerOf? (raw : String) : Option String :=
  let line := Unicode.trim raw
  if line.startsWith "[" && line.endsWith "]" then some (String.ofList (line.toList.drop 1).dropLast)
  else none

/-- The key and the value of an assignment line: a line that, trimmed, is not empty, starts
with neither `#` nor `;`, is no header and holds `=`. The key is the text before the first
`=` and the value the text after it, both trimmed and lower-cased. -/
def assignmentOf? (raw : String) : Option (String × String) :=
  let line := Unicode.trim raw
  if line.isEmpty || line.startsWith "#" || line.startsWith ";" || (headerOf? raw).isSome then none
  else (splitAtEquals line).map fun (k, v) =>
    (Unicode.toLower (Unicode.trim k), Unicode.toLower (Unicode.trim v))

/-- The header nearest above the end of `lines`. -/
def lastHeader (lines : List String) : Option String :=
  (lines.filterMap headerOf?).getLast?

/-- The assignments that apply to a file name, in file order: those whose nearest header
above exists and matches the name. -/
def applicableAssignments (lines : List String) (fileName : String) : List (String × String) :=
  (List.range lines.length).filterMap fun i =>
    if (lastHeader (lines.take i)).any (sectionMatches · fileName) then
      lines[i]?.bind assignmentOf?
    else none

/-- The value of the last assignment of a key. -/
def lastValue (assignments : List (String × String)) (key : String) : Option String :=
  (assignments.filterMap fun (k, v) => if k = key then some v else none).getLast?

/-- The last value assigned to a key that reads as a size. -/
def lastSize (assignments : List (String × String)) (key : String) : Option Nat :=
  (assignments.filterMap fun (k, v) => if k = key then parseSize? v else none).getLast?

/-- The settings that assignments give: for each key the value of its last assignment, and
for the two sizes the last value that reads as a size. -/
def settingsOf (assignments : List (String × String)) : Settings where
  indentStyle := lastValue assignments "indent_style"
  indentSize := lastSize assignments "indent_size"
  tabWidth := lastSize assignments "tab_width"
  endOfLine := lastValue assignments "end_of_line"

/-- The reader after `lines`: the settings of the applicable assignments, and whether the
nearest header above the next line matches. -/
def readerAfter (lines : List String) (fileName : String) : Reader where
  settings := settingsOf (applicableAssignments lines fileName)
  inSection := (lastHeader lines).any (sectionMatches · fileName)

/-! ## One line -/

/-- A line in brackets is neither empty nor a comment. -/
theorem not_skipped_of_bracketed {line : String} (h : line.startsWith "[" = true) :
    (line.isEmpty || line.startsWith "#" || line.startsWith ";") = false := by
  obtain ⟨t, ht⟩ : ['['] <+: line.toList := by simpa [← String.startsWith_toSlice] using h
  simp [← String.startsWith_toSlice, ← ht]
  rintro rfl
  simp at ht

theorem headerOf?_of_skipped {raw : String}
    (h : ((Unicode.trim raw).isEmpty || (Unicode.trim raw).startsWith "#" ||
      (Unicode.trim raw).startsWith ";") = true) : headerOf? raw = none := by
  have hbr : ((Unicode.trim raw).startsWith "[" && (Unicode.trim raw).endsWith "]") = false := by
    cases hopen : (Unicode.trim raw).startsWith "["
    · rfl
    · rw [not_skipped_of_bracketed hopen] at h
      cases h
  simp [headerOf?, hbr]

theorem lastHeader_nil : lastHeader [] = none := rfl

theorem lastHeader_append (lines : List String) (raw : String) :
    lastHeader (lines ++ [raw]) = (headerOf? raw).or (lastHeader lines) := by
  cases h : headerOf? raw <;> simp [lastHeader, List.filterMap_append, h]

theorem applicableAssignments_append (lines : List String) (raw fileName : String) :
    applicableAssignments (lines ++ [raw]) fileName =
      applicableAssignments lines fileName ++
        if (lastHeader lines).any (sectionMatches · fileName) then (assignmentOf? raw).toList
        else [] := by
  unfold applicableAssignments
  rw [List.length_append, List.length_singleton, List.range_succ, List.filterMap_append]
  congr 1
  · -- the lines before are read as they were
    apply List.filterMap_congr
    intro i hi
    have hlt : i < lines.length := List.mem_range.1 hi
    rw [List.take_append_of_le_length (Nat.le_of_lt hlt), List.getElem?_append_left hlt]
  · -- the new line, below all of `lines`
    simp only [List.filterMap_cons, List.filterMap_nil, List.take_left,
      List.getElem?_concat_length, Option.bind_some]
    by_cases hsection : (lastHeader lines).any (sectionMatches · fileName) = true
    · cases assignmentOf? raw <;> simp [hsection]
    · simp [hsection]

theorem lastValue_append (assignments : List (String × String)) (k v key : String) :
    lastValue (assignments ++ [(k, v)]) key =
      if k = key then some v else lastValue assignments key := by
  by_cases h : k = key <;> simp [lastValue, List.filterMap_append, h]

theorem lastSize_append (assignments : List (String × String)) (k v key : String) :
    lastSize (assignments ++ [(k, v)]) key =
      ((if k = key then parseSize? v else none).or (lastSize assignments key)) := by
  by_cases h : k = key
  · cases hv : parseSize? v <;> simp [lastSize, List.filterMap_append, h, hv]
  · simp [lastSize, List.filterMap_append, h]

/-- One more assignment is one more setting. -/
theorem settingsOf_append (assignments : List (String × String)) (k v : String) :
    settingsOf (assignments ++ [(k, v)]) = (settingsOf assignments).set k v := by
  by_cases hstyle : k = "indent_style"
  · subst hstyle
    simp [settingsOf, lastValue_append, lastSize_append, Settings.set]
  by_cases hsize : k = "indent_size"
  · subst hsize
    cases hv : parseSize? v <;>
      simp [settingsOf, lastValue_append, lastSize_append, Settings.set, hv]
  by_cases hwidth : k = "tab_width"
  · subst hwidth
    cases hv : parseSize? v <;>
      simp [settingsOf, lastValue_append, lastSize_append, Settings.set, hv]
  by_cases heol : k = "end_of_line"
  · subst heol
    simp [settingsOf, lastValue_append, lastSize_append, Settings.set]
  simp [settingsOf, lastValue_append, lastSize_append, Settings.set, hstyle, hsize, hwidth, heol]

/-- Reading one more line: a header sets whether the section applies, and an assignment
counts when it does. -/
theorem step_readerAfter (fileName : String) (lines : List String) (raw : String) :
    Reader.step fileName (readerAfter lines fileName) raw =
      readerAfter (lines ++ [raw]) fileName := by
  simp only [readerAfter, applicableAssignments_append, lastHeader_append]
  unfold Reader.step
  by_cases hskip : ((Unicode.trim raw).isEmpty || (Unicode.trim raw).startsWith "#" ||
      (Unicode.trim raw).startsWith ";") = true
  · have hassign : assignmentOf? raw = none := by simp [assignmentOf?, hskip]
    simp [hskip, headerOf?_of_skipped hskip, hassign]
  · rw [Bool.not_eq_true] at hskip
    by_cases hbr : ((Unicode.trim raw).startsWith "[" && (Unicode.trim raw).endsWith "]") = true
    · have hheader : headerOf? raw =
          some (String.ofList ((Unicode.trim raw).toList.drop 1).dropLast) := by
        simp [headerOf?, hbr]
      have hassign : assignmentOf? raw = none := by simp [assignmentOf?, hheader]
      simp [hskip, hbr, hheader, hassign]
    · rw [Bool.not_eq_true] at hbr
      have hheader : headerOf? raw = none := by simp [headerOf?, hbr]
      have hassign : assignmentOf? raw =
          (splitAtEquals (Unicode.trim raw)).map fun (k, v) =>
            (Unicode.toLower (Unicode.trim k), Unicode.toLower (Unicode.trim v)) := by
        simp [assignmentOf?, hskip, hheader]
      simp only [hskip, hbr, hheader, hassign, Option.none_or, Bool.false_eq_true, if_false]
      -- outside a matching section nothing is read; inside, an assignment is one more setting
      cases hsection : (lastHeader lines).any (sectionMatches · fileName)
      · simp
      · cases hsplit : splitAtEquals (Unicode.trim raw) with
        | none => simp
        | some kv => simp [settingsOf_append]

/-- Reading lines leaves the settings of their applicable assignments. -/
theorem foldl_step_eq (fileName : String) (lines : List String) :
    lines.foldl (Reader.step fileName) {} = readerAfter lines fileName := by
  induction lines using List.reverseRecOn with
  | nil => rfl
  | append_singleton lines raw ih =>
    rw [List.foldl_append, ih, List.foldl_cons, List.foldl_nil, step_readerAfter]

theorem settingsFor_eq (text fileName : String) :
    settingsFor text fileName = settingsOf (applicableAssignments (lines text) fileName) := by
  rw [settingsFor, foldl_step_eq]
  rfl

/-! ## Brace groups -/

/-- The first occurrence of an element after a prefix without it. -/
theorem idxOf?_append_of_not_mem {α : Type} [BEq α] [LawfulBEq α] {l r : List α} {c : α}
    (h : c ∉ l) : (l ++ r).idxOf? c = (r.idxOf? c).map (· + l.length) := by
  induction l with
  | nil => simp
  | cons d l ih =>
    rw [List.mem_cons, not_or] at h
    have hd : (d == c) = false := beq_false_of_ne fun hdc => h.1 hdc.symm
    rw [List.cons_append, List.idxOf?_cons, hd, if_neg Bool.false_ne_true, ih h.2, Option.map_map]
    congr 1

/-- A header whose first `{` comes before its first `}` stands for the text between them split
at commas, each piece with the text before the `{` and after the `}` around it. -/
theorem expandBraces_group {before inside after : String} (hopen : '{' ∉ before.toList)
    (hclose : '}' ∉ before.toList) (hinside : '}' ∉ inside.toList) :
    expandBraces (before ++ "\x7b" ++ inside ++ "\x7d" ++ after) =
      (inside.toList.splitOn ',').map fun alt => before ++ String.ofList alt ++ after := by
  have hcs : (before ++ "\x7b" ++ inside ++ "\x7d" ++ after).toList =
      before.toList ++ '{' :: (inside.toList ++ '}' :: after.toList) := by simp
  have hopenAt : (before ++ "\x7b" ++ inside ++ "\x7d" ++ after).toList.idxOf? '{' =
      some before.toList.length := by
    rw [hcs, idxOf?_append_of_not_mem hopen]
    simp [List.idxOf?_cons]
  have hcloseAt : (before ++ "\x7b" ++ inside ++ "\x7d" ++ after).toList.idxOf? '}' =
      some (before.toList.length + 1 + inside.toList.length) := by
    rw [hcs, idxOf?_append_of_not_mem hclose, List.idxOf?_cons,
      idxOf?_append_of_not_mem hinside]
    simp [List.idxOf?_cons]
    omega
  unfold expandBraces
  dsimp only
  rw [hopenAt, hcloseAt]
  dsimp only
  -- the pieces around the group are the text before `{` and after `}`
  have hafter : (before.toList ++ '{' :: (inside.toList ++ '}' :: after.toList)).drop
      (before.toList.length + 1 + inside.toList.length + 1) = after.toList := by
    rw [show before.toList ++ '{' :: (inside.toList ++ '}' :: after.toList) =
      (before.toList ++ '{' :: inside.toList ++ ['}']) ++ after.toList by simp]
    exact List.drop_left' (by simp; omega)
  have hwidth : before.toList.length + 1 + inside.toList.length - before.toList.length - 1 =
      inside.toList.length := by omega
  rw [if_neg (by omega), hcs, hafter, hwidth]
  simp

/-- A header whose first `}` comes before its first `{` has no brace group. -/
theorem expandBraces_of_close_first {before after : String} (hopen : '{' ∉ before.toList)
    (hclose : '}' ∉ before.toList) :
    expandBraces (before ++ "\x7d" ++ after) = [before ++ "\x7d" ++ after] := by
  have hcs : (before ++ "\x7d" ++ after).toList = before.toList ++ '}' :: after.toList := by simp
  have hcloseAt : (before ++ "\x7d" ++ after).toList.idxOf? '}' = some before.toList.length := by
    rw [hcs, idxOf?_append_of_not_mem hclose]
    simp [List.idxOf?_cons]
  have hopenAt : (before ++ "\x7d" ++ after).toList.idxOf? '{' =
      (after.toList.idxOf? '{').map (· + 1 + before.toList.length) := by
    rw [hcs, idxOf?_append_of_not_mem hopen, List.idxOf?_cons, if_neg (by decide), Option.map_map]
    rfl
  unfold expandBraces
  dsimp only
  rw [hopenAt, hcloseAt]
  cases after.toList.idxOf? '{' with
  | none => rfl
  | some o =>
    simp only [Option.map_some]
    rw [if_pos (by omega)]

/-! ## The settings of a file -/

/-- Each setting an editor settings file gives to a file name is read off the assignments
that apply to it: the indentation style and the line terminator are the value of the last
such assignment of their key, and the two sizes the last such value that reads as a size. An
assignment applies when the nearest header above it exists and matches the name, through the
alternatives of its brace group. The brace group runs from the first `{` to the first `}`,
and a header whose first `}` comes before its first `{` is matched as it is written. -/
theorem editor_settings_take_last_applicable_assignment :
    (∀ text fileName : String,
      (settingsFor text fileName).indentStyle =
          lastValue (applicableAssignments (lines text) fileName) "indent_style" ∧
        (settingsFor text fileName).endOfLine =
          lastValue (applicableAssignments (lines text) fileName) "end_of_line" ∧
        (settingsFor text fileName).indentSize =
          lastSize (applicableAssignments (lines text) fileName) "indent_size" ∧
        (settingsFor text fileName).tabWidth =
          lastSize (applicableAssignments (lines text) fileName) "tab_width") ∧
    (∀ before inside after : String, '{' ∉ before.toList → '}' ∉ before.toList →
      '}' ∉ inside.toList →
        expandBraces (before ++ "\x7b" ++ inside ++ "\x7d" ++ after) =
          (inside.toList.splitOn ',').map fun alt => before ++ String.ofList alt ++ after) ∧
    (∀ before after : String, '{' ∉ before.toList → '}' ∉ before.toList →
      expandBraces (before ++ "\x7d" ++ after) = [before ++ "\x7d" ++ after]) := by
  refine ⟨?_, fun _ _ _ => expandBraces_group, fun _ _ => expandBraces_of_close_first⟩
  intro text fileName
  rw [settingsFor_eq]
  exact ⟨rfl, rfl, rfl, rfl⟩

/-- `*.{ts,tsx}` stands for `*.ts` and `*.tsx`, and `a}b{c}` for itself. -/
theorem editor_settings_take_last_applicable_assignment_braces :
    expandBraces ("*." ++ "\x7b" ++ "ts,tsx" ++ "\x7d" ++ "") = ["*.ts", "*.tsx"] ∧
      expandBraces ("a" ++ "\x7d" ++ "b\x7bc\x7d") = ["a\x7db\x7bc\x7d"] := by
  obtain ⟨-, hgroup, hclose⟩ := editor_settings_take_last_applicable_assignment
  refine ⟨?_, ?_⟩
  · rw [hgroup "*." "ts,tsx" "" (by decide) (by decide) (by decide)]
    decide
  · rw [hclose "a" "b\x7bc\x7d" (by decide) (by decide)]
    decide

/-- The header `[a}b{c}]` holds the brace group `{c}`, whose alternative `a}bc` is a pattern
that matches the name `a}bc`. But the first `}` of the header comes before its first `{`, so
the header is matched as it is written, and the assignment below it does not apply to
`a}bc`. -/
theorem close_before_open_keeps_header_literal :
    (∃ p, Glob.Pattern.compile "a\x7dbc" = .ok p ∧ p.matches "a\x7dbc" = true) ∧
      (settingsFor "[a\x7db\x7bc\x7d]\nindent_style = tab\n" "a\x7dbc").indentStyle = none := by
  refine ⟨⟨_, Glob.compile_literal rfl, (Glob.matchesWith_literal rfl).2 rfl⟩, ?_⟩
  have hlines : lines "[a\x7db\x7bc\x7d]\nindent_style = tab\n" =
      ["[a\x7db\x7bc\x7d]", "indent_style = tab", ""] := by
    decide
  have hheader : headerOf? "[a\x7db\x7bc\x7d]" = some "a\x7db\x7bc\x7d" := by decide +kernel
  have hassignment : headerOf? "indent_style = tab" = none := by decide +kernel
  have hmatch : sectionMatches "a\x7db\x7bc\x7d" "a\x7dbc" = false := by
    have hcompile := Glob.compile_literal (s := "a\x7db\x7bc\x7d") rfl
    have hnot : ¬(⟨"a\x7db\x7bc\x7d", "a\x7db\x7bc\x7d".toList.map .char, false⟩ :
        Glob.Pattern).matches "a\x7dbc" = true :=
      fun h => absurd ((Glob.matchesWith_literal rfl).1 h) (by decide)
    rw [sectionMatches, (by decide : expandBraces "a\x7db\x7bc\x7d" = ["a\x7db\x7bc\x7d"])]
    simp only [List.any_cons, List.any_nil, hcompile, Bool.or_false]
    exact Bool.eq_false_iff.2 hnot
  rw [settingsFor_eq, hlines]
  simp [applicableAssignments, lastHeader, lastValue, settingsOf, List.range_succ, hheader,
    hassignment, hmatch]

end EditorConfig

end FormatConfig
