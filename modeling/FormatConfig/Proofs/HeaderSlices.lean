import FormatConfig.Proofs.EditorSections
import Mathlib.Data.String.Basic

/-!
# Cutting headers by byte offsets

The settings reader cuts a header out of its line and the pieces of a brace group out of the
header by byte offsets: the header is the line less its first and last byte, and the group
runs from the byte after the first `{` to the first `}`. Slicing a text between byte offsets
panics unless the offsets are in order, inside the text, and each falls between two
characters (`SlicesCleanly`, `sliceBytes?`). The reader of `EditorConfig` cuts the same pieces
as lists of characters; the definitions here cut them by bytes, as the reader does, and give
nothing where a slice would panic.

No slice the reader takes can panic, and each cuts out the piece the character reading uses.
Every offset is the byte offset of a character position (`findByte?`), and the delimiters
beside them, brackets and braces, are one byte each. The byte offset of a character position
falls between two characters, and cutting between the offsets of two positions gives the
characters between them (`sliceBytes?_take`). A bracketed line holds both of its brackets, so
its header slice is in order (`headerBySlice?_eq`); the first `{` before the first `}` puts the
group's offsets in order (`utf8Len_take_lt_iff`, `expandBracesBySlices?_eq`). Reading a whole
file by bytes therefore never fails and gives the settings of the character reading
(`settingsBySlices?_eq`).
-/

namespace FormatConfig

namespace EditorConfig

open String (utf8Len)

/-! ## Slicing by bytes -/

/-- Slicing `s[b..e]` succeeds: the offsets are in order, neither is past the end of `s`, and
each falls between two characters. -/
def SlicesCleanly (s : String) (b e : Nat) : Prop :=
  b ≤ e ∧ (String.Pos.Raw.mk b).IsValid s ∧ (String.Pos.Raw.mk e).IsValid s

instance (s : String) (b e : Nat) : Decidable (SlicesCleanly s b e) :=
  inferInstanceAs (Decidable (_ ∧ _ ∧ _))

/-- The text between byte offsets `b` and `e` of `s`, or nothing where slicing `s[b..e]`
panics. -/
def sliceBytes? (s : String) (b e : Nat) : Option String :=
  if SlicesCleanly s b e then some (String.Pos.Raw.extract s ⟨b⟩ ⟨e⟩) else none

/-- The byte offset of the first `c` in `s`: the bytes of the characters before it. -/
def findByte? (s : String) (c : Char) : Option Nat :=
  (s.toList.idxOf? c).map fun i => utf8Len (s.toList.take i)

/-- The header of a bracketed line, cut out as `line[1..len - 1]`. -/
def headerBySlice? (line : String) : Option String :=
  sliceBytes? line 1 (line.utf8ByteSize - 1)

/-- `expandBraces`, with the text before, inside and after the brace group cut out of the
header as `glob[..open]`, `glob[open + 1..close]` and `glob[close + 1..]`, at the byte
offsets `open` and `close` of the first `{` and the first `}`. -/
def expandBracesBySlices? (glob : String) : Option (List String) :=
  match findByte? glob '{', findByte? glob '}' with
  | some o, some c =>
    if c < o then some [glob]
    else do
      let before ← sliceBytes? glob 0 o
      let inside ← sliceBytes? glob (o + 1) c
      let after ← sliceBytes? glob (c + 1) glob.utf8ByteSize
      return (inside.toList.splitOn ',').map fun alt => before ++ String.ofList alt ++ after
  | _, _ => some [glob]

/-- Whether an alternative of a header is a pattern that matches the file name. -/
def alternativeMatches (fileName alt : String) : Bool :=
  match Glob.Pattern.compile alt with
  | .ok p => p.matches fileName
  | .error _ => false

/-- `sectionMatches`, with the brace group cut out by byte offsets. -/
def sectionMatchesBySlices? (header fileName : String) : Option Bool :=
  (expandBracesBySlices? header).map fun alts => alts.any (alternativeMatches fileName)

/-- `Reader.step`, with the header cut out of its line, and the brace group out of the
header, by byte offsets. Skipped lines and assignments cut nothing by offsets. -/
def Reader.stepBySlices? (fileName : String) (r : Reader) (raw : String) : Option Reader :=
  let line := Unicode.trim raw
  if line.isEmpty || line.startsWith "#" || line.startsWith ";" then some r
  else if line.startsWith "[" && line.endsWith "]" then do
    let header ← headerBySlice? line
    let applies ← sectionMatchesBySlices? header fileName
    return { r with inSection := applies }
  else some (r.step fileName raw)

/-- `settingsFor`, reading each line with `Reader.stepBySlices?`; nothing where a slice
panics. -/
def settingsBySlices? (text fileName : String) : Option Settings :=
  ((lines text).foldlM (Reader.stepBySlices? fileName) {}).map (·.settings)

/-! ## Offsets of character positions -/

/-- The byte offset after the characters a text starts with falls between two characters. -/
theorem isValid_utf8Len_of_toList_eq {s : String} {pre rest : List Char}
    (h : s.toList = pre ++ rest) : (String.Pos.Raw.mk (utf8Len pre)).IsValid s := by
  refine String.Pos.Raw.isValid_iff_exists_take_toList.2 ⟨pre.length, ?_⟩
  rw [h, List.take_left', String.utf8ByteSize_ofList]
  rfl

/-- Slicing a text that reads `pre ++ mid ++ rest` at the byte offsets around `mid` succeeds
and gives `mid`. -/
theorem sliceBytes?_of_toList_eq {s : String} {pre mid rest : List Char}
    (h : s.toList = pre ++ mid ++ rest) :
    SlicesCleanly s (utf8Len pre) (utf8Len pre + utf8Len mid) ∧
      sliceBytes? s (utf8Len pre) (utf8Len pre + utf8Len mid) = some (String.ofList mid) := by
  have hclean : SlicesCleanly s (utf8Len pre) (utf8Len pre + utf8Len mid) :=
    ⟨Nat.le_add_right _ _, isValid_utf8Len_of_toList_eq (show s.toList = pre ++ (mid ++ rest) by
      simp [h]),
      String.utf8Len_append pre mid ▸ isValid_utf8Len_of_toList_eq h⟩
  have hextract := String.extract_of_valid pre mid rest
  rw [← h, String.ofList_toList] at hextract
  exact ⟨hclean, by rw [sliceBytes?, if_pos hclean, hextract]⟩

theorem utf8ByteSize_eq_utf8Len (s : String) : s.utf8ByteSize = utf8Len s.toList := by
  rw [← String.utf8ByteSize_ofList, String.ofList_toList]

/-- Byte offsets of character positions come in the order of the positions. -/
theorem utf8Len_take_lt_iff (cs : List Char) {i j : Nat} (hi : i ≤ cs.length) :
    utf8Len (cs.take j) < utf8Len (cs.take i) ↔ j < i := by
  constructor
  · intro hlt
    by_contra hle
    have hprefix := String.utf8Len_le_of_prefix (List.take_prefix_take_left (l := cs)
      (Nat.le_of_not_lt hle))
    omega
  · intro hji
    -- the characters from `j` to `i` take at least one byte each
    have htake : cs.take i = cs.take j ++ (cs.drop j).take (i - j) := by
      rw [← List.take_add, Nat.add_sub_cancel' hji.le]
    have hne : (cs.drop j).take (i - j) ≠ [] := by
      simp only [ne_eq, List.take_eq_nil_iff, List.drop_eq_nil_iff, not_or]
      omega
    have hpos : 0 < utf8Len ((cs.drop j).take (i - j)) :=
      Nat.pos_of_ne_zero fun h => hne (String.utf8Len_eq_zero.1 h)
    rw [htake, String.utf8Len_append]
    omega

/-- Past a one-byte character the byte offset is one more. -/
theorem utf8Len_take_succ {cs : List Char} {i : Nat} {c : Char} (hi : i < cs.length)
    (hc : cs[i] = c) (hsize : c.utf8Size = 1) :
    utf8Len (cs.take (i + 1)) = utf8Len (cs.take i) + 1 := by
  rw [List.take_add_one, List.getElem?_eq_getElem hi, hc]
  simp [hsize]

/-- Slicing between the byte offsets of two character positions, in order, succeeds and gives
the characters between them. -/
theorem sliceBytes?_take (s : String) {i j : Nat} (hij : i ≤ j) :
    SlicesCleanly s (utf8Len (s.toList.take i)) (utf8Len (s.toList.take j)) ∧
      sliceBytes? s (utf8Len (s.toList.take i)) (utf8Len (s.toList.take j)) =
        some (String.ofList ((s.toList.drop i).take (j - i))) := by
  have htake : s.toList.take j = s.toList.take i ++ (s.toList.drop i).take (j - i) := by
    rw [← List.take_add, Nat.add_sub_cancel' hij]
  have hsplit : s.toList =
      s.toList.take i ++ (s.toList.drop i).take (j - i) ++ s.toList.drop j := by
    rw [← htake, List.take_append_drop]
  rw [htake, String.utf8Len_append]
  exact sliceBytes?_of_toList_eq hsplit

/-! ## The header of a line -/

/-- A line that starts with `[` and ends with `]` is its brackets around its header. -/
theorem toList_of_bracketed {line : String} (hopen : line.startsWith "[" = true)
    (hclose : line.endsWith "]" = true) :
    line.toList = ['['] ++ (line.toList.drop 1).dropLast ++ [']'] := by
  obtain ⟨t, ht⟩ : ['['] <+: line.toList := by simpa [← String.startsWith_toSlice] using hopen
  have hlast : line.toList.getLast? = some ']' := by
    rw [← List.singleton_suffix_iff_getLast?_eq_some]
    simpa [← String.endsWith_toSlice] using hclose
  rw [← ht] at hlast ⊢
  -- the line holds a second character, its closing bracket
  cases t using List.reverseRecOn with
  | nil => simp at hlast
  | append_singleton t c =>
    rw [← List.append_assoc, List.getLast?_concat, Option.some.injEq] at hlast
    simp [hlast]

/-- Slicing out the header of a bracketed line succeeds and gives the header the reader uses. -/
theorem headerBySlice?_eq {line : String} (hopen : line.startsWith "[" = true)
    (hclose : line.endsWith "]" = true) :
    SlicesCleanly line 1 (line.utf8ByteSize - 1) ∧
      headerBySlice? line = some (String.ofList (line.toList.drop 1).dropLast) := by
  have hline := toList_of_bracketed hopen hclose
  generalize (line.toList.drop 1).dropLast = header at hline ⊢
  -- the offsets are those after `[` and before `]`, each one byte
  have hend : line.utf8ByteSize - 1 = utf8Len ['['] + utf8Len header := by
    have hbracket : utf8Len [']'] = 1 := rfl
    rw [utf8ByteSize_eq_utf8Len, hline, String.utf8Len_append, String.utf8Len_append]
    omega
  rw [headerBySlice?, hend]
  exact sliceBytes?_of_toList_eq hline

/-! ## Brace groups -/

/-- The byte offset of a character found in a text is that of its first position. -/
theorem findByte?_eq_some {s : String} {c : Char} {o : Nat} (h : findByte? s c = some o) :
    ∃ i, ∃ hi : i < s.toList.length, s.toList[i] = c ∧ s.toList.idxOf? c = some i ∧
      o = utf8Len (s.toList.take i) := by
  obtain ⟨i, hidx, rfl⟩ := Option.map_eq_some_iff.1 h
  obtain ⟨hi, hc, -⟩ := List.idxOf?_eq_some_iff.1 hidx
  exact ⟨i, hi, hc, hidx, rfl⟩

/-- A `{` and a `}` are different characters: where the `}` does not come first, the `{`
does. -/
theorem lt_of_braces {cs : List Char} {i j : Nat} (hi : i < cs.length) (hj : j < cs.length)
    (hopen : cs[i] = '\x7b') (hclose : cs[j] = '\x7d') (horder : ¬j < i) : i < j := by
  refine Nat.lt_of_le_of_ne (Nat.le_of_not_lt horder) fun hij => ?_
  subst hij
  rw [hopen] at hclose
  exact absurd hclose (by decide)

/-- Where the first `{` comes before the first `}`, the three slices around and inside the
group succeed and cut out the text before the `{`, between the two and after the `}`. -/
theorem brace_slices {glob : String} {o c i j : Nat} (hi : i < glob.toList.length)
    (hj : j < glob.toList.length) (hopen : glob.toList[i] = '\x7b')
    (hclose : glob.toList[j] = '\x7d') (ho : o = utf8Len (glob.toList.take i))
    (hc : c = utf8Len (glob.toList.take j)) (hij : i < j) :
    (SlicesCleanly glob 0 o ∧ SlicesCleanly glob (o + 1) c ∧
      SlicesCleanly glob (c + 1) glob.utf8ByteSize) ∧
    sliceBytes? glob 0 o = some (String.ofList (glob.toList.take i)) ∧
    sliceBytes? glob (o + 1) c = some (String.ofList ((glob.toList.drop (i + 1)).take (j - i - 1))) ∧
    sliceBytes? glob (c + 1) glob.utf8ByteSize = some (String.ofList (glob.toList.drop (j + 1))) := by
  -- every offset is that of a character position: the ends, and past each one-byte brace
  have hzero : (0 : Nat) = utf8Len (glob.toList.take 0) := by simp
  have hopen' : o + 1 = utf8Len (glob.toList.take (i + 1)) := by
    rw [ho, utf8Len_take_succ hi hopen rfl]
  have hclose' : c + 1 = utf8Len (glob.toList.take (j + 1)) := by
    rw [hc, utf8Len_take_succ hj hclose rfl]
  have hend : glob.utf8ByteSize = utf8Len (glob.toList.take glob.toList.length) := by
    rw [List.take_length, utf8ByteSize_eq_utf8Len]
  obtain ⟨hcleanBefore, hbefore⟩ := sliceBytes?_take glob (i := 0) (j := i) (Nat.zero_le i)
  obtain ⟨hcleanInside, hinside⟩ := sliceBytes?_take glob (i := i + 1) (j := j) hij
  obtain ⟨hcleanAfter, hafter⟩ :=
    sliceBytes?_take glob (i := j + 1) (j := glob.toList.length) hj
  have hrest : (glob.toList.drop (j + 1)).take (glob.toList.length - (j + 1)) =
      glob.toList.drop (j + 1) := List.take_of_length_le (by simp)
  rw [← hzero, ← ho] at hcleanBefore hbefore
  rw [← hopen', ← hc] at hcleanInside hinside
  rw [← hclose', ← hend] at hcleanAfter hafter
  rw [List.drop_zero, Nat.sub_zero] at hbefore
  rw [← Nat.sub_sub] at hinside
  rw [hrest] at hafter
  exact ⟨⟨hcleanBefore, hcleanInside, hcleanAfter⟩, hbefore, hinside, hafter⟩

/-- Cutting the brace group by byte offsets never fails, and gives the alternatives of the
character reading. -/
theorem expandBracesBySlices?_eq (glob : String) :
    expandBracesBySlices? glob = some (expandBraces glob) := by
  unfold expandBracesBySlices? expandBraces findByte?
  dsimp only
  cases hopen : glob.toList.idxOf? '\x7b' with
  | none => rfl
  | some i =>
    cases hclose : glob.toList.idxOf? '\x7d' with
    | none => rfl
    | some j =>
      obtain ⟨hi, hci, -⟩ := List.idxOf?_eq_some_iff.1 hopen
      obtain ⟨hj, hcj, -⟩ := List.idxOf?_eq_some_iff.1 hclose
      dsimp only [Option.map_some]
      by_cases horder : j < i
      · rw [if_pos ((utf8Len_take_lt_iff _ hi.le).2 horder), if_pos horder]
      obtain ⟨-, hbefore, hinside, hafter⟩ :=
        brace_slices hi hj hci hcj rfl rfl (lt_of_braces hi hj hci hcj horder)
      rw [if_neg (mt (utf8Len_take_lt_iff _ hi.le).1 horder), if_neg horder, hbefore, hinside,
        hafter]
      simp

/-- Whether a section applies, with its brace group cut out by byte offsets: this never fails,
and gives what the character reading gives. -/
theorem sectionMatchesBySlices?_eq (header fileName : String) :
    sectionMatchesBySlices? header fileName = some (sectionMatches header fileName) := by
  rw [sectionMatchesBySlices?, expandBracesBySlices?_eq]
  rfl

/-! ## Reading a file -/

/-- Reading one line by byte offsets never fails and reads what the character reading reads. -/
theorem stepBySlices?_eq (fileName : String) (r : Reader) (raw : String) :
    Reader.stepBySlices? fileName r raw = some (r.step fileName raw) := by
  unfold Reader.stepBySlices? Reader.step
  dsimp only
  by_cases hskip : ((Unicode.trim raw).isEmpty || (Unicode.trim raw).startsWith "#" ||
      (Unicode.trim raw).startsWith ";") = true
  · rw [if_pos hskip, if_pos hskip]
  rw [if_neg hskip, if_neg hskip]
  by_cases hbr : ((Unicode.trim raw).startsWith "[" && (Unicode.trim raw).endsWith "]") = true
  · obtain ⟨hopen, hclose⟩ := Bool.and_eq_true_iff.1 hbr
    rw [if_pos hbr, if_pos hbr, (headerBySlice?_eq hopen hclose).2]
    simp [sectionMatchesBySlices?_eq]
  · rw [if_neg hbr]

/-- Reading lines by byte offsets never fails: the fold over the lines is the character
reading's, step by step. -/
theorem foldlM_stepBySlices? (fileName : String) :
    ∀ (ls : List String) (r : Reader),
      ls.foldlM (Reader.stepBySlices? fileName) r = some (ls.foldl (Reader.step fileName) r)
  | [], _ => rfl
  | raw :: ls, r => by
    rw [List.foldlM_cons, stepBySlices?_eq]
    exact foldlM_stepBySlices? fileName ls _

/-- Reading a whole file by byte offsets never fails and gives the settings of the character
reading. -/
theorem settingsBySlices?_eq (text fileName : String) :
    settingsBySlices? text fileName = some (settingsFor text fileName) := by
  rw [settingsBySlices?, foldlM_stepBySlices?]
  rfl

/-- **Cutting headers never panics.** For every text of an editor settings file and every file
name, reading the file with its headers and brace groups cut out by byte offsets never meets
a slice that panics, and gives the settings of the character reading; so does deciding
whether a section applies, and expanding a brace group. Every header slice `line[1..len - 1]`
of a bracketed line, and every brace slice `glob[..open]`, `glob[open + 1..close]` and
`glob[close + 1..]` where the first `{` does not come after the first `}`, has its offsets in
order, inside the text and between two characters. -/
theorem editor_settings_slices_never_panic :
    (∀ text fileName : String, settingsBySlices? text fileName = some (settingsFor text fileName)) ∧
    (∀ header fileName : String,
      sectionMatchesBySlices? header fileName = some (sectionMatches header fileName)) ∧
    (∀ glob : String, expandBracesBySlices? glob = some (expandBraces glob)) ∧
    (∀ line : String, line.startsWith "[" = true → line.endsWith "]" = true →
      SlicesCleanly line 1 (line.utf8ByteSize - 1)) ∧
    (∀ (glob : String) (o c : Nat), findByte? glob '\x7b' = some o →
      findByte? glob '\x7d' = some c → ¬c < o →
        SlicesCleanly glob 0 o ∧ SlicesCleanly glob (o + 1) c ∧
          SlicesCleanly glob (c + 1) glob.utf8ByteSize) := by
  refine ⟨settingsBySlices?_eq, sectionMatchesBySlices?_eq, expandBracesBySlices?_eq,
    fun line hopen hclose => (headerBySlice?_eq hopen hclose).1, ?_⟩
  intro glob o c hopen hclose horder
  obtain ⟨i, hi, hci, -, ho⟩ := findByte?_eq_some hopen
  obtain ⟨j, hj, hcj, -, hc⟩ := findByte?_eq_some hclose
  -- byte offsets come in the order of the character positions
  rw [ho, hc, utf8Len_take_lt_iff _ hi.le] at horder
  exact (brace_slices hi hj hci hcj ho hc (lt_of_braces hi hj hci hcj horder)).1

/-- A header with a two-byte character: the header slice of `[é{a,b}]` runs from byte 1 to
byte 8, and in `é{a,b}ü` the braces sit at bytes 2 and 6, so the group's slices run to byte 2,
from 3 to 6 and from 7 to the end. -/
theorem editor_settings_slices_never_panic_two_byte :
    ("[é\x7ba,b\x7d]".startsWith "[" = true ∧ "[é\x7ba,b\x7d]".endsWith "]" = true ∧
      SlicesCleanly "[é\x7ba,b\x7d]" 1 ("[é\x7ba,b\x7d]".utf8ByteSize - 1)) ∧
    (findByte? "é\x7ba,b\x7dü" '\x7b' = some 2 ∧ findByte? "é\x7ba,b\x7dü" '\x7d' = some 6 ∧
      ¬(6 < 2) ∧ SlicesCleanly "é\x7ba,b\x7dü" 0 2 ∧ SlicesCleanly "é\x7ba,b\x7dü" (2 + 1) 6 ∧
      SlicesCleanly "é\x7ba,b\x7dü" (6 + 1) "é\x7ba,b\x7dü".utf8ByteSize) := by
  obtain ⟨-, -, -, hheader, hbraces⟩ := editor_settings_slices_never_panic
  have hopen : "[é\x7ba,b\x7d]".startsWith "[" = true := by
    simp [← String.startsWith_toSlice]
  have hclose : "[é\x7ba,b\x7d]".endsWith "]" = true := by
    simp [← String.endsWith_toSlice, List.singleton_suffix_iff_getLast?_eq_some]
  have hbraceOpen : findByte? "é\x7ba,b\x7dü" '\x7b' = some 2 := by decide
  have hbraceClose : findByte? "é\x7ba,b\x7dü" '\x7d' = some 6 := by decide
  have horder : ¬(6 < 2) := by decide
  exact ⟨⟨hopen, hclose, hheader _ hopen hclose⟩,
    hbraceOpen, hbraceClose, horder, hbraces _ _ _ hbraceOpen hbraceClose horder⟩

end EditorConfig

end FormatConfig
