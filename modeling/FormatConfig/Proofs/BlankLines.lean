import FormatConfig.Lint.Rules
import Mathlib.Data.List.Chain

/-!
# Collapsing blank lines, line by line

`BlankLines.collapse` works on characters and line breaks. Here the same text is read as
lines: it is split at every line feed into terminated lines and an unterminated tail, and
a line is blank when nothing but its terminator is in it. The main result is that
`collapse` keeps every line that is not blank, and the tail, as they are, and of every
run of blank lines only the first (`collapse_eq_collapseByLines`). So a collapsed text
has no two blank lines in a row, collapsing twice changes nothing more, and neither does
a second run of the rule file's fixups.

The proof goes through a one-pass form of `cutRuns` that counts the line breaks since the
last character (`cutRunsFrom`); starting that count at one, as if a line had just ended,
does what `cutLeading` does at the start of the text.
-/

namespace FormatConfig

namespace BlankLines

/-! ## Lines of a text -/

/-- A terminated line, given by the text before its line feed. -/
structure Line where
  piece : List Char
deriving DecidableEq, Repr

namespace Line

/-- Whether the line ends in a carriage return before its line feed. -/
def crlf (l : Line) : Bool := l.piece.getLast? == some '\r'

/-- The line's terminator: a carriage return and a line feed, or a line feed. -/
def terminator (l : Line) : List Char := if l.crlf then ['\r', '\n'] else ['\n']

/-- The line without its terminator. -/
def content (l : Line) : List Char := if l.crlf then l.piece.dropLast else l.piece

/-- A line is blank when nothing but its terminator is in it. -/
def isBlank (l : Line) : Bool := l.content.isEmpty

/-- The characters of the line, its line feed included. -/
def chars (l : Line) : List Char := l.piece ++ ['\n']

/-- A line is its content followed by its terminator. -/
theorem content_append_terminator (l : Line) : l.content ++ l.terminator = l.chars := by
  unfold content terminator chars crlf
  split
  · next h =>
    obtain ⟨ys, hys⟩ := List.getLast?_eq_some_iff.1 (beq_iff_eq.1 h)
    simp [hys]
  · rfl

end Line

/-- The lines of a text, split at every line feed, and the unterminated tail after the
last line feed. -/
def splitLines (t : List Char) : List Line × List Char :=
  let parts := t.splitOn '\n'
  (parts.dropLast.map Line.mk, parts.getLastD [])

/-- Drops every blank line that directly follows a blank line, so that of each maximal run
of blank lines only the first is kept; `afterBlank` says whether the line before the list
was blank. -/
def dropRepeatedBlanks (afterBlank : Bool) : List Line → List Line
  | [] => []
  | l :: ls =>
    if afterBlank && l.isBlank then dropRepeatedBlanks true ls
    else l :: dropRepeatedBlanks l.isBlank ls

/-- The text with the first blank line of each run kept and the others deleted; the lines
that are not blank and the tail are kept as they are. -/
def collapseByLines (t : String) : String :=
  String.ofList ((dropRepeatedBlanks false (splitLines t.toList).1).flatMap Line.chars ++
    (splitLines t.toList).2)

/-- Two neighbouring lines that are not both blank. -/
def NotBothBlank (a b : Line) : Prop := ¬(a.isBlank = true ∧ b.isBlank = true)

/-- A text without a line feed is all tail. -/
theorem splitLines_of_not_mem {t : List Char} (h : '\n' ∉ t) : splitLines t = ([], t) := by
  simp [splitLines, List.splitOn_eq_singleton h]

/-- The text before the first line feed is the first line. -/
theorem splitLines_append_line {xs : List Char} (h : '\n' ∉ xs) (rest : List Char) :
    splitLines (xs ++ '\n' :: rest) = (⟨xs⟩ :: (splitLines rest).1, (splitLines rest).2) := by
  obtain ⟨p, ps, hps⟩ := List.exists_cons_of_ne_nil (List.splitOn_ne_nil '\n' rest)
  simp [splitLines, List.splitOn_append_cons_self_of_not_mem h, hps]

/-- Every text is a tail without a line feed, or a line and its line feed before a text. -/
@[elab_as_elim]
theorem lines_induction {motive : List Char → Prop}
    (tail : ∀ t, '\n' ∉ t → motive t)
    (line : ∀ xs rest, '\n' ∉ xs → motive rest → motive (xs ++ '\n' :: rest))
    (t : List Char) : motive t := by
  -- the characters since the last line feed are carried in `acc`
  suffices h : ∀ acc, '\n' ∉ acc → motive (acc ++ t) by simpa using h [] (by simp)
  induction t with
  | nil =>
    intro acc hacc
    simpa using tail acc hacc
  | cons c t ih =>
    intro acc hacc
    by_cases hc : c = '\n'
    · subst hc
      exact line acc t hacc (by simpa using ih [] (by simp))
    · simpa using ih (acc ++ [c]) (by simp [hacc, Ne.symm hc])

/-- No line of a text and not its tail holds a line feed. -/
theorem not_mem_splitLines (t : List Char) :
    (∀ l ∈ (splitLines t).1, '\n' ∉ l.piece) ∧ '\n' ∉ (splitLines t).2 := by
  induction t using lines_induction with
  | tail t h => simp [splitLines_of_not_mem h, h]
  | line xs rest h ih =>
    rw [splitLines_append_line h]
    exact ⟨by simpa [h] using ih.1, ih.2⟩

/-- Lines without line feeds, each followed by its line feed, and a tail without one split
back into the same lines and tail. -/
theorem splitLines_flatMap_chars {ls : List Line} {tail : List Char}
    (hls : ∀ l ∈ ls, '\n' ∉ l.piece) (htail : '\n' ∉ tail) :
    splitLines (ls.flatMap Line.chars ++ tail) = (ls, tail) := by
  induction ls with
  | nil => simpa using splitLines_of_not_mem htail
  | cons l ls ih =>
    have hl : '\n' ∉ l.piece := hls l (List.mem_cons_self ..)
    have hrest : ∀ l' ∈ ls, '\n' ∉ l'.piece := fun l' m => hls l' (List.mem_cons_of_mem _ m)
    simp only [List.flatMap_cons, Line.chars, List.append_assoc, List.cons_append,
      List.nil_append]
    rw [splitLines_append_line hl, ih hrest]

/-! ## Characters and line breaks of a line -/

/-- The pieces of a line: its content as characters, then its line break. -/
def Line.pieces (l : Line) : List Piece := l.content.map .char ++ [.lineBreak l.crlf]

/-- A character that starts no line break is a character piece. -/
theorem pieces_cons_char {c : Char} {rest : List Char} (hlf : c ≠ '\n')
    (hcr : c = '\r' → rest.head? ≠ some '\n') : pieces (c :: rest) = .char c :: pieces rest := by
  rw [pieces.eq_3]
  · intro rest' hc hrest
    exact hcr hc (by simp [hrest])
  · exact hlf

/-- Characters with no line feed among them stay characters, unless a carriage return at
their end meets a line feed. -/
theorem pieces_append_chars {xs ys : List Char} (hlf : '\n' ∉ xs)
    (hcr : xs.getLast? = some '\r' → ys.head? ≠ some '\n') :
    pieces (xs ++ ys) = xs.map .char ++ pieces ys := by
  induction xs with
  | nil => rfl
  | cons x xs ih =>
    simp only [List.mem_cons, not_or] at hlf
    have hcr' : xs.getLast? = some '\r' → ys.head? ≠ some '\n' := by
      intro hlast
      apply hcr
      rw [List.getLast?_cons, hlast]
      rfl
    have hnext : x = '\r' → (xs ++ ys).head? ≠ some '\n' := by
      intro hx
      cases xs with
      | nil => simpa using hcr (by simp [hx])
      | cons y xs =>
        have hy : y ≠ '\n' := fun e => hlf.2 (by simp [e])
        simpa using hy
    rw [List.cons_append, pieces_cons_char (Ne.symm hlf.1) hnext, ih hlf.2 hcr']
    rfl

/-- A text without a line feed is all characters. -/
theorem pieces_of_not_mem {t : List Char} (h : '\n' ∉ t) : pieces t = t.map .char := by
  simpa [pieces] using @pieces_append_chars t [] h (by simp)

/-- A line and its line feed are the line's pieces. -/
theorem pieces_append_line {xs : List Char} (h : '\n' ∉ xs) (rest : List Char) :
    pieces (xs ++ '\n' :: rest) = (Line.mk xs).pieces ++ pieces rest := by
  by_cases hcr : xs.getLast? = some '\r'
  · obtain ⟨ys, rfl⟩ := List.getLast?_eq_some_iff.1 hcr
    have hys : '\n' ∉ ys := fun m => h (List.mem_append_left _ m)
    have hsplit := @pieces_append_chars ys ('\r' :: '\n' :: rest) hys (by simp)
    simp only [List.append_assoc, List.singleton_append] at hsplit ⊢
    rw [hsplit, pieces.eq_1]
    simp [Line.pieces, Line.content, Line.crlf]
  · have hsplit := @pieces_append_chars xs ('\n' :: rest) h (fun h' => absurd h' hcr)
    rw [hsplit, pieces.eq_2]
    have hcrlf : (Line.mk xs).crlf = false := by simpa [Line.crlf] using hcr
    simp [Line.pieces, Line.content, hcrlf]

/-- A text's pieces are its lines' pieces, then its tail as characters. -/
theorem pieces_eq_splitLines (t : List Char) :
    pieces t = (splitLines t).1.flatMap Line.pieces ++ (splitLines t).2.map .char := by
  induction t using lines_induction with
  | tail t h => simp [splitLines_of_not_mem h, pieces_of_not_mem h]
  | line xs rest h ih =>
    rw [pieces_append_line h, ih, splitLines_append_line h]
    simp

/-- Rendering is a homomorphism of lists. -/
theorem render_append (ps qs : List Piece) : render (ps ++ qs) = render ps ++ render qs := by
  induction ps with
  | nil => rfl
  | cons p ps ih =>
    cases p with
    | lineBreak b => cases b <;> simp [render, ih]
    | char c => simp [render, ih]

/-- Characters render as themselves. -/
theorem render_map_char (cs : List Char) : render (cs.map .char) = cs := by
  induction cs with
  | nil => rfl
  | cons c cs ih => simp [render, ih]

/-- A line's pieces render as its characters. -/
theorem render_line_pieces (l : Line) : render l.pieces = l.chars := by
  rw [Line.pieces, render_append, render_map_char, ← l.content_append_terminator,
    Line.terminator]
  cases l.crlf <;> rfl

/-- Lines and a tail render as their characters. -/
theorem render_lines (ls : List Line) (tail : List Char) :
    render (ls.flatMap Line.pieces ++ tail.map .char) = ls.flatMap Line.chars ++ tail := by
  induction ls with
  | nil => simpa using render_map_char tail
  | cons l ls ih =>
    rw [List.flatMap_cons, List.append_assoc, render_append, render_line_pieces, ih,
      List.flatMap_cons, List.append_assoc]

/-! ## Cutting runs in one pass -/

/-- `cutRuns` in one pass: `n` counts the line breaks since the last character, and a
break is kept while fewer than two came before it. -/
def cutRunsFrom : Nat → List Piece → List Piece
  | _, [] => []
  | _, .char c :: rest => .char c :: cutRunsFrom 0 rest
  | n, .lineBreak b :: rest =>
    (if n < 2 then [.lineBreak b] else []) ++ cutRunsFrom (n + 1) rest

/-- A run is cut to its first two breaks. -/
theorem keepRun_eq_take (run : List Piece) : keepRun run = run.take 2 := by
  unfold keepRun
  split
  · rfl
  · rw [List.take_of_length_le (by omega)]

/-- `cutRuns` with the breaks of the current run waiting is the one-pass cut after them. -/
theorem cutRuns_eq_cutRunsFrom (run ps : List Piece) :
    cutRuns run ps = run.reverse.take 2 ++ cutRunsFrom run.length ps := by
  induction ps generalizing run with
  | nil => simp [cutRuns, cutRunsFrom, keepRun_eq_take]
  | cons p ps ih =>
    cases p with
    | char c => simp [cutRuns, cutRunsFrom, keepRun_eq_take, ih]
    | lineBreak b =>
      rw [cutRuns.eq_3 _ _ _ (by simp), ih, cutRunsFrom, List.reverse_cons, List.take_append,
        List.length_cons, List.append_assoc, List.length_reverse]
      by_cases h : run.length < 2
      · rw [if_pos h, List.take_of_length_le (l := [Piece.lineBreak b]) (by simp; omega)]
      · rw [if_neg h, show 2 - run.length = 0 by omega]
        rfl

/-- Characters pass through the cut, and the count starts again after them. -/
theorem cutRunsFrom_map_char (cs : List Char) (rest : List Piece) :
    cutRunsFrom 0 (cs.map .char ++ rest) = cs.map .char ++ cutRunsFrom 0 rest := by
  induction cs with
  | nil => rfl
  | cons c cs ih => simp [cutRunsFrom, ih]

/-- A tail of characters passes through the cut. -/
theorem cutRunsFrom_tail (n : Nat) (cs : List Char) : cutRunsFrom n (cs.map .char) = cs.map .char := by
  cases cs with
  | nil => rfl
  | cons c cs => simpa [cutRunsFrom] using cutRunsFrom_map_char cs []

/-- A line passes through the cut unless it is blank and two breaks came before its own;
after it the count is one more for a blank line, else one. -/
theorem cutRunsFrom_line (n : Nat) (l : Line) (rest : List Piece) :
    cutRunsFrom n (l.pieces ++ rest) =
      (if 2 ≤ n ∧ l.isBlank = true then [] else l.pieces) ++
        cutRunsFrom (if l.isBlank then n + 1 else 1) rest := by
  unfold Line.pieces Line.isBlank
  cases l.content with
  | nil =>
    by_cases h : n < 2
    · simp [cutRunsFrom, h, Nat.not_le.2 h]
    · simp [cutRunsFrom, h, Nat.le_of_not_lt h]
  | cons c cs =>
    simp [cutRunsFrom, cutRunsFrom_map_char]

/-- From a count of at least one, the one-pass cut of whole lines drops the blank lines
that follow a blank line, the line before counting as blank after two breaks. -/
theorem cutRunsFrom_lines (ls : List Line) (tail : List Char) {n : Nat} (hn : 1 ≤ n) :
    cutRunsFrom n (ls.flatMap Line.pieces ++ tail.map .char) =
      (dropRepeatedBlanks (decide (2 ≤ n)) ls).flatMap Line.pieces ++ tail.map .char := by
  induction ls generalizing n with
  | nil => simpa [dropRepeatedBlanks] using cutRunsFrom_tail n tail
  | cons l ls ih =>
    rw [List.flatMap_cons, List.append_assoc, cutRunsFrom_line]
    by_cases hb : l.isBlank = true
    · rw [if_pos hb, ih (by omega)]
      by_cases h2 : 2 ≤ n
      · simp [dropRepeatedBlanks, hb, h2, show 2 ≤ n + 1 by omega]
      · simp [dropRepeatedBlanks, hb, h2, show 2 ≤ n + 1 by omega]
    · rw [if_neg hb, ih le_rfl]
      simp [dropRepeatedBlanks, hb]

/-- A run of breaks at the front keeps the breaks that find fewer than two before them. -/
theorem cutRunsFrom_breaks {bs : List Piece} (hbs : ∀ p ∈ bs, p.isBreak = true) (n : Nat)
    (rest : List Piece) :
    cutRunsFrom n (bs ++ rest) = bs.take (2 - n) ++ cutRunsFrom (n + bs.length) rest := by
  induction bs generalizing n with
  | nil => simp
  | cons p bs ih =>
    cases p with
    | char c => simp [Piece.isBreak] at hbs
    | lineBreak b =>
      have hrest : ∀ p ∈ bs, p.isBreak = true := fun p m => hbs p (List.mem_cons_of_mem _ m)
      rw [List.cons_append, cutRunsFrom, ih hrest, List.length_cons,
        show n + 1 + bs.length = n + (bs.length + 1) by omega]
      by_cases h : n < 2
      · rw [if_pos h, show 2 - n = (2 - (n + 1)) + 1 by omega, List.take_succ_cons]
        rfl
      · rw [if_neg h, show 2 - n = 0 by omega, show 2 - (n + 1) = 0 by omega]
        rfl

/-- After a run, a character starts the count again, so the count before it is forgotten. -/
theorem cutRunsFrom_of_head_not_break {rest : List Piece}
    (h : ∀ p ∈ rest.head?, p.isBreak = false) (n m : Nat) :
    cutRunsFrom n rest = cutRunsFrom m rest := by
  cases rest with
  | nil => rfl
  | cons p rest =>
    cases p with
    | char c => rfl
    | lineBreak b => simp [Piece.isBreak] at h

/-- A whole run of breaks keeps the breaks that find fewer than two before them. -/
theorem cutRunsFrom_run {bs rest : List Piece} (hbs : ∀ p ∈ bs, p.isBreak = true)
    (hrest : ∀ p ∈ rest.head?, p.isBreak = false) (n : Nat) :
    cutRunsFrom n (bs ++ rest) = bs.take (2 - n) ++ cutRunsFrom 0 rest := by
  rw [cutRunsFrom_breaks hbs, cutRunsFrom_of_head_not_break hrest _ 0]

/-- Cutting a leading run to one break and then every run is the one-pass cut started as
if a line had just ended. -/
theorem cutRuns_cutLeading (ps : List Piece) : cutRuns [] (cutLeading ps) = cutRunsFrom 1 ps := by
  -- the text is its leading run followed by what starts with a character, if anything
  have hsplit := List.takeWhile_append_dropWhile (p := Piece.isBreak) (l := ps)
  have hbreaks : ∀ p ∈ ps.takeWhile Piece.isBreak, p.isBreak = true :=
    fun p m => List.all_eq_true.1 List.all_takeWhile p m
  have hhead : ∀ p ∈ (ps.dropWhile Piece.isBreak).head?, p.isBreak = false := by
    intro p hp
    have hne : ps.dropWhile Piece.isBreak ≠ [] := by
      intro he
      simp [he] at hp
    rw [List.head?_eq_some_head hne] at hp
    cases hp
    simpa using List.head_dropWhile_not Piece.isBreak hne
  have hdrop : ps.drop (ps.takeWhile Piece.isBreak).length = ps.dropWhile Piece.isBreak :=
    calc ps.drop (ps.takeWhile Piece.isBreak).length
        = (ps.takeWhile Piece.isBreak ++ ps.dropWhile Piece.isBreak).drop
            (ps.takeWhile Piece.isBreak).length := by rw [hsplit]
      _ = ps.dropWhile Piece.isBreak := List.drop_left
  rw [cutRuns_eq_cutRunsFrom, List.reverse_nil, List.take_nil, List.nil_append, List.length_nil]
  conv_rhs => rw [← hsplit, cutRunsFrom_run hbreaks hhead]
  unfold cutLeading
  simp only
  split
  · next hlong =>
    rw [hdrop, cutRunsFrom_run (fun p m => hbreaks p (List.mem_of_mem_take m)) hhead,
      List.take_take]
    rfl
  · next hshort =>
    conv_lhs => rw [← hsplit, cutRunsFrom_run hbreaks hhead]
    rw [List.take_of_length_le (by omega), List.take_of_length_le (by omega)]

/-! ## Collapsing by lines -/

/-- **Collapsing, line by line.** `collapse` keeps every line that is not blank and the
tail as they are, and of each run of blank lines only the first. -/
theorem collapse_eq_collapseByLines (t : String) : collapse t = collapseByLines t := by
  unfold collapse collapseByLines
  rw [cutRuns_cutLeading, pieces_eq_splitLines, cutRunsFrom_lines _ _ le_rfl]
  simp only [show decide (2 ≤ 1) = false from rfl, render_lines]

/-- `dropRepeatedBlanks` keeps a sublist of the lines. -/
theorem dropRepeatedBlanks_sublist (b : Bool) (ls : List Line) :
    (dropRepeatedBlanks b ls).Sublist ls := by
  induction ls generalizing b with
  | nil => exact List.Sublist.slnil
  | cons l ls ih =>
    unfold dropRepeatedBlanks
    split
    · exact (ih true).cons l
    · exact (ih l.isBlank).cons_cons l

/-- After a blank line, the first line kept is not blank. -/
theorem head_dropRepeatedBlanks_true (ls : List Line) :
    ∀ l ∈ (dropRepeatedBlanks true ls).head?, l.isBlank = false := by
  induction ls with
  | nil => simp [dropRepeatedBlanks]
  | cons l ls ih =>
    by_cases hb : l.isBlank = true
    · simpa [dropRepeatedBlanks, hb] using ih
    · simp [dropRepeatedBlanks, hb]

/-- No two lines kept in a row are both blank. -/
theorem isChain_dropRepeatedBlanks (b : Bool) (ls : List Line) :
    (dropRepeatedBlanks b ls).IsChain NotBothBlank := by
  induction ls generalizing b with
  | nil => exact List.IsChain.nil
  | cons l ls ih =>
    unfold dropRepeatedBlanks
    split
    · exact ih true
    · rw [List.isChain_cons]
      refine ⟨fun l' hl' => ?_, ih l.isBlank⟩
      cases hb : l.isBlank
      · simp [NotBothBlank, hb]
      · rw [hb] at hl'
        simp [NotBothBlank, head_dropRepeatedBlanks_true ls l' hl']

/-- Lines with no two blank ones in a row are kept whole, when the first is not blank or
the line before it was not. -/
theorem dropRepeatedBlanks_of_isChain {ls : List Line} (hls : ls.IsChain NotBothBlank)
    {b : Bool} (hb : b = true → ∀ l ∈ ls.head?, l.isBlank = false) :
    dropRepeatedBlanks b ls = ls := by
  induction ls generalizing b with
  | nil => rfl
  | cons l ls ih =>
    rw [List.isChain_cons] at hls
    have hkeep : (b && l.isBlank) = false := by
      cases b
      · rfl
      · simpa using hb rfl
    have hnext : l.isBlank = true → ∀ l' ∈ ls.head?, l'.isBlank = false := by
      intro hl l' hl'
      simpa [NotBothBlank, hl] using hls.1 l' hl'
    rw [dropRepeatedBlanks, hkeep, if_neg (by simp), ih hls.2 hnext]

/-- The lines of a collapsed text are the lines kept, and its tail is the tail. -/
theorem splitLines_collapse (t : String) :
    splitLines (collapse t).toList =
      (dropRepeatedBlanks false (splitLines t.toList).1, (splitLines t.toList).2) := by
  rw [collapse_eq_collapseByLines, collapseByLines, String.toList_ofList]
  apply splitLines_flatMap_chars
  · intro l hl
    exact (not_mem_splitLines _).1 l ((dropRepeatedBlanks_sublist _ _).subset hl)
  · exact (not_mem_splitLines _).2

/-- A collapsed text has no two blank lines in a row. -/
theorem isChain_splitLines_collapse (t : String) :
    (splitLines (collapse t).toList).1.IsChain NotBothBlank := by
  rw [splitLines_collapse]
  exact isChain_dropRepeatedBlanks false _

/-- Collapsing a collapsed text changes nothing. -/
theorem collapse_collapse (t : String) : collapse (collapse t) = collapse t := by
  have hkept := dropRepeatedBlanks_of_isChain (isChain_splitLines_collapse t) (b := false)
    (by simp)
  rw [collapse_eq_collapseByLines (collapse t), collapseByLines, hkept, splitLines_collapse,
    ← collapseByLines, collapse_eq_collapseByLines]

end BlankLines

namespace Lint

/-- Applying a rule set's fixups to their own output changes nothing. -/
theorem fixText_fixText (rules : Rules) (t : String) :
    fixText rules (fixText rules t) = fixText rules t := by
  unfold fixText
  split
  · exact BlankLines.collapse_collapse t
  · rfl

end Lint

namespace FileSystem

/-- On a fixed file system, fixing a file's fixed text changes nothing more. -/
theorem lintFixText_of_lintFixText {fs : FileSystem} {file : Path} {baseDir : Option Path}
    {t u : String} (h : fs.lintFixText file t baseDir = .ok u) :
    fs.lintFixText file u baseDir = .ok u := by
  unfold lintFixText at h ⊢
  cases hr : fs.lintRules file baseDir with
  | error e =>
    rw [hr] at h
    cases h
  | ok rules? =>
    rw [hr] at h
    cases rules? with
    | none =>
      cases h
      rfl
    | some rules =>
      change Except.ok (Lint.fixText rules t) = Except.ok u at h
      cases h
      change Except.ok (Lint.fixText rules (Lint.fixText rules t)) = _
      rw [Lint.fixText_fixText]

end FileSystem

/-- **Blank-line collapse.** The collapse keeps every line that is not blank and the tail
byte for byte, and of each run of blank lines only the first, with its own terminator; so
its output has no two blank lines in a row, and both the collapse and a file's fixups for a
fixed file system are idempotent. -/
theorem collapse_keeps_first_blank_line_of_each_run :
    (∀ t, BlankLines.collapse t = BlankLines.collapseByLines t) ∧
    (∀ t, (BlankLines.splitLines (BlankLines.collapse t).toList).1.IsChain
      BlankLines.NotBothBlank) ∧
    (∀ t, BlankLines.collapse (BlankLines.collapse t) = BlankLines.collapse t) ∧
    (∀ (fs : FileSystem) (file : Path) (baseDir : Option Path) (t u : String),
      fs.lintFixText file t baseDir = .ok u → fs.lintFixText file u baseDir = .ok u) :=
  ⟨BlankLines.collapse_eq_collapseByLines, BlankLines.isChain_splitLines_collapse,
    BlankLines.collapse_collapse, fun _ _ _ _ _ h => FileSystem.lintFixText_of_lintFixText h⟩

end FormatConfig
