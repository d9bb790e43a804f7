import FormatConfig.Proofs.BlankLines
import FormatConfig.Proofs.CollapsedTexts
import FormatConfig.Ignore.Walk
import Mathlib.Data.List.TakeWhile

/-!
# Lines of bytes of a text

Ignore files and the `.git` pointer files are read as bytes cut at line feeds. For the bytes
of a text, UTF-8 writes a line feed or a carriage return as that one byte and every other
character with bytes that are neither, so cutting the bytes at line feeds cuts the text at
its line feeds (`byteLines_toUTF8`, `firstLine?_of_lf`).

Collapsing blank lines keeps a text's first line and its tail and deletes only blank lines
after the first, which an ignore file skips; so the rules of an ignore file and the first
line of a file read the same after the collapse (`read_collapse`, `firstLine?_collapse`).
-/

namespace FormatConfig

/-! ## Bytes as lists -/

theorem ByteArray.toList_loop (bs : ByteArray) (i : Nat) (r : List UInt8) :
    ByteArray.toList.loop bs i r = r.reverse ++ bs.data.toList.drop i := by
  fun_induction ByteArray.toList.loop bs i r with
  | case1 i r hi ih =>
    have hlen : i < bs.data.toList.length := by simpa using hi
    rw [ih, List.drop_eq_getElem_cons hlen]
    simp [ByteArray.get!, hi]
  | case2 i r hi =>
    rw [List.drop_eq_nil_of_le (by simpa using Nat.le_of_not_lt hi)]
    simp

theorem ByteArray.toList_eq_data (bs : ByteArray) : bs.toList = bs.data.toList := by
  simp [ByteArray.toList, ByteArray.toList_loop]

/-- The bytes of a text are the bytes of its characters. -/
theorem toList_toUTF8 (t : String) :
    t.toUTF8.toList = t.toList.flatMap String.utf8EncodeChar := by
  rw [ByteArray.toList_eq_data, String.toUTF8_eq_toByteArray, ← String.utf8Encode_toList,
    List.utf8Encode, List.toList_data_toByteArray]

/-- The bytes of characters decode to those characters. -/
theorem fromUTF8?_flatMap (cs : List Char) :
    String.fromUTF8? ⟨(cs.flatMap String.utf8EncodeChar).toArray⟩ = some (String.ofList cs) := by
  have hbytes : (⟨(cs.flatMap String.utf8EncodeChar).toArray⟩ : ByteArray) =
      (String.ofList cs).toUTF8 := by
    rw [String.toUTF8_eq_toByteArray, String.toByteArray_ofList, List.utf8Encode]
    exact ByteArray.ext List.data_toByteArray.symm
  rw [hbytes, Node.fromUTF8?_toUTF8]

/-! ## Line feeds and carriage returns in UTF-8 -/

/-- A character below 128 is written as its own code. -/
theorem utf8EncodeChar_of_lt {c : Char} (h : c.toNat < 128) :
    String.utf8EncodeChar c = [c.toNat.toUInt8] := by
  have hv : c.toNat ≤ 127 := by omega
  simp [String.utf8EncodeChar, hv, Nat.toUInt8]

/-- A character from 128 on is written with bytes from 128 on. -/
theorem le_toNat_of_mem_utf8EncodeChar {c : Char} (h : 128 ≤ c.toNat) {b : UInt8}
    (hb : b ∈ String.utf8EncodeChar c) : 128 ≤ b.toNat := by
  have hv : ¬c.toNat ≤ 127 := by omega
  simp only [String.utf8EncodeChar, Char.toNat_val, hv, if_false] at hb
  split at hb
  · simp only [List.mem_cons, List.not_mem_nil, or_false] at hb
    rcases hb with rfl | rfl <;> simp [UInt8.toNat_ofNat] <;> omega
  split at hb
  · simp only [List.mem_cons, List.not_mem_nil, or_false] at hb
    rcases hb with rfl | rfl | rfl <;> simp [UInt8.toNat_ofNat] <;> omega
  · simp only [List.mem_cons, List.not_mem_nil, or_false] at hb
    rcases hb with rfl | rfl | rfl | rfl <;> simp [UInt8.toNat_ofNat] <;> omega

/-- The only character written with a byte below 128 is the character of that code, and it
is written as that one byte. -/
theorem eq_of_mem_utf8EncodeChar {c : Char} {b : UInt8} (hb : b ∈ String.utf8EncodeChar c)
    (hlt : b.toNat < 128) : c.toNat = b.toNat ∧ String.utf8EncodeChar c = [b] := by
  by_cases hc : c.toNat < 128
  · rw [utf8EncodeChar_of_lt hc, List.mem_singleton] at hb
    subst hb
    refine ⟨?_, utf8EncodeChar_of_lt hc⟩
    simp [Nat.toUInt8, Nat.mod_eq_of_lt (by omega : c.toNat < 256)]
  · exact absurd hlt (Nat.not_lt.2 (le_toNat_of_mem_utf8EncodeChar (by omega) hb))

theorem utf8EncodeChar_lf : String.utf8EncodeChar '\n' = [10] := rfl

theorem utf8EncodeChar_cr : String.utf8EncodeChar '\r' = [13] := rfl

theorem lf_mem_utf8EncodeChar {c : Char} : (10 : UInt8) ∈ String.utf8EncodeChar c ↔ c = '\n' := by
  constructor
  · intro h
    obtain ⟨hc, -⟩ := eq_of_mem_utf8EncodeChar h (by decide)
    exact Char.toNat_inj.1 hc
  · rintro rfl
    decide

/-- A character's bytes end in a carriage return exactly when it is one. -/
theorem getLast?_utf8EncodeChar {c : Char} :
    (String.utf8EncodeChar c).getLast? = some 13 ↔ c = '\r' := by
  constructor
  · intro h
    have hmem : (13 : UInt8) ∈ String.utf8EncodeChar c := List.mem_of_getLast? h
    obtain ⟨hc, -⟩ := eq_of_mem_utf8EncodeChar hmem (by decide)
    exact Char.toNat_inj.1 hc
  · rintro rfl
    decide

/-! ## Cutting the bytes of a text at line feeds -/

theorem lf_not_mem_flatMap {cs : List Char} (h : '\n' ∉ cs) :
    (10 : UInt8) ∉ cs.flatMap String.utf8EncodeChar := by
  simp only [List.mem_flatMap, not_exists, not_and]
  intro c hc h10
  exact h (lf_mem_utf8EncodeChar.1 h10 ▸ hc)

namespace Ignore

open byteLines in
theorem splitBytes_ne_nil (bs : List UInt8) : splitBytes bs ≠ [] := by
  cases bs with
  | nil => simp [splitBytes]
  | cons b rest =>
    simp only [splitBytes]
    split <;> simp only [ne_eq, reduceCtorEq, not_false_eq_true]
    split <;> simp

open byteLines in
theorem splitBytes_of_not_mem {bs : List UInt8} (h : (10 : UInt8) ∉ bs) : splitBytes bs = [bs] := by
  induction bs with
  | nil => rfl
  | cons b rest ih =>
    have hb : b ≠ 10 := fun hb => h (hb ▸ List.mem_cons_self ..)
    rw [splitBytes, ih (fun hr => h (List.mem_cons_of_mem _ hr))]
    simp [hb]

open byteLines in
theorem splitBytes_append_lf {bs : List UInt8} (h : (10 : UInt8) ∉ bs) (rest : List UInt8) :
    splitBytes (bs ++ 10 :: rest) = bs :: splitBytes rest := by
  induction bs with
  | nil =>
    obtain ⟨first, more, hsplit⟩ := List.exists_cons_of_ne_nil (splitBytes_ne_nil rest)
    simp [splitBytes, hsplit]
  | cons b bs ih =>
    have hb : b ≠ 10 := fun hb => h (hb ▸ List.mem_cons_self ..)
    rw [List.cons_append, splitBytes, ih (fun hr => h (List.mem_cons_of_mem _ hr))]
    simp [hb]

/-- Cutting the bytes of a text at line feeds cuts the text at its line feeds. -/
theorem splitBytes_flatMap (cs : List Char) :
    byteLines.splitBytes (cs.flatMap String.utf8EncodeChar) =
      (cs.splitOn '\n').map (·.flatMap String.utf8EncodeChar) := by
  induction cs using BlankLines.lines_induction with
  | tail t h => rw [splitBytes_of_not_mem (lf_not_mem_flatMap h), List.splitOn_eq_singleton h]; rfl
  | line xs rest h ih =>
    rw [List.splitOn_append_cons_self_of_not_mem h, List.flatMap_append, List.flatMap_cons,
      utf8EncodeChar_lf, List.singleton_append, splitBytes_append_lf (lf_not_mem_flatMap h), ih,
      List.map_cons]

end Ignore

namespace BlankLines

/-- The lines a reader of lines sees: the terminated lines, and the tail when it is not
empty. -/
def readLines (t : List Char) : List Line :=
  (splitLines t).1 ++ [⟨(splitLines t).2⟩].filter (!·.piece.isEmpty)

/-- The bytes of a line without its terminator. -/
def Line.contentBytes (l : Line) : List UInt8 := l.content.flatMap String.utf8EncodeChar

/-- Dropping a final carriage return byte drops the final carriage return. -/
theorem dropCR_flatMap (l : List Char) :
    (if (l.flatMap String.utf8EncodeChar).getLast? == some 13 then
      (l.flatMap String.utf8EncodeChar).dropLast else l.flatMap String.utf8EncodeChar) =
      (Line.mk l).contentBytes := by
  rcases List.eq_nil_or_concat l with rfl | ⟨init, c, rfl⟩
  · rfl
  · rw [List.concat_eq_append]
    have hlast : (init.flatMap String.utf8EncodeChar ++ String.utf8EncodeChar c).getLast? =
        (String.utf8EncodeChar c).getLast? :=
      List.getLast?_append_of_ne_nil _ String.utf8EncodeChar_ne_nil
    by_cases hc : c = '\r'
    · subst hc
      simp [Line.contentBytes, Line.content, Line.crlf, utf8EncodeChar_cr]
    · have hc' : ¬(String.utf8EncodeChar c).getLast? = some 13 :=
        fun h => hc (getLast?_utf8EncodeChar.1 h)
      simp [Line.contentBytes, Line.content, Line.crlf, hc, hc', hlast]

end BlankLines

open BlankLines in
/-- **Lines of bytes.** The lines read from the bytes of a text are the bytes of its lines'
contents, the tail counted when it is not empty. -/
theorem byteLines_toUTF8 (t : String) :
    Ignore.byteLines t.toUTF8.toList = (readLines t.toList).map Line.contentBytes := by
  rw [toList_toUTF8, Ignore.byteLines, Ignore.splitBytes_flatMap]
  simp only [readLines, splitLines]
  rcases List.eq_nil_or_concat (t.toList.splitOn '\n') with hnil | ⟨init, tail, hparts⟩
  · exact absurd hnil (List.splitOn_ne_nil _ _)
  rw [hparts, List.concat_eq_append]
  have hmap : ∀ ls : List (List Char), (ls.map (·.flatMap String.utf8EncodeChar)).map
      (fun l => if l.getLast? == some 13 then l.dropLast else l) =
      (ls.map Line.mk).map Line.contentBytes := by
    intro ls
    simp only [List.map_map]
    exact List.map_congr_left fun l _ => dropCR_flatMap l
  have hdrop : ((init ++ [tail]).map (·.flatMap String.utf8EncodeChar)).dropLast =
      init.map (·.flatMap String.utf8EncodeChar) := by
    rw [List.map_append, List.map_singleton, List.dropLast_concat]
  by_cases htail : tail = []
  · subst htail
    have hcond : (((init ++ [([] : List Char)]).map (·.flatMap String.utf8EncodeChar)).getLast? ==
        some []) = true := by simp
    rw [if_pos hcond, hdrop, hmap, List.dropLast_concat, List.getLastD_concat]
    simp
  · have hbytes : tail.flatMap String.utf8EncodeChar ≠ [] := by
      obtain ⟨c, rest, rfl⟩ := List.exists_cons_of_ne_nil htail
      simp [String.utf8EncodeChar_ne_nil]
    have hcond : (((init ++ [tail]).map (·.flatMap String.utf8EncodeChar)).getLast? == some []) =
        false := by simpa using hbytes
    rw [hcond, if_neg Bool.false_ne_true, hmap, List.dropLast_concat, List.getLastD_concat]
    simp [htail]

/-! ## The first line -/

theorem ne_lf_of_mem_flatMap {cs : List Char} (h : '\n' ∉ cs) :
    ∀ b ∈ cs.flatMap String.utf8EncodeChar, (b != 10) = true := by
  intro b hb
  have hb10 : b ≠ 10 := fun e => lf_not_mem_flatMap h (e ▸ hb)
  simpa using hb10

/-- The first line of a text with a line feed is the content of the line before it. -/
theorem firstLine?_of_lf {xs : List Char} (h : '\n' ∉ xs) (rest : List Char) :
    FileSystem.firstLine? (String.ofList (xs ++ '\n' :: rest)).toUTF8 =
      some (.ok (String.ofList (BlankLines.Line.mk xs).content)) := by
  have htake : (xs.flatMap String.utf8EncodeChar ++ 10 :: rest.flatMap String.utf8EncodeChar).takeWhile
      (· != 10) = xs.flatMap String.utf8EncodeChar := by
    rw [List.takeWhile_append_of_pos (ne_lf_of_mem_flatMap h)]
    simp
  have hcontent := BlankLines.dropCR_flatMap xs
  unfold FileSystem.firstLine?
  have hne : ¬(xs.flatMap String.utf8EncodeChar ++
      10 :: rest.flatMap String.utf8EncodeChar).isEmpty = true := by simp
  simp only [toList_toUTF8, String.toList_ofList, List.flatMap_append, List.flatMap_cons,
    utf8EncodeChar_lf, List.singleton_append, htake, List.length_append, List.length_cons, hne]
  have hlt : (xs.flatMap String.utf8EncodeChar).length <
      (xs.flatMap String.utf8EncodeChar).length + ((rest.flatMap String.utf8EncodeChar).length + 1) := by
    omega
  simp only [hlt, decide_true, Bool.true_and, hcontent, BlankLines.Line.contentBytes,
    fromUTF8?_flatMap, Bool.false_eq_true, if_false]

/-- A text is its lines, each with its line feed, and its tail. -/
theorem flatMap_splitLines (t : List Char) :
    (BlankLines.splitLines t).1.flatMap BlankLines.Line.chars ++ (BlankLines.splitLines t).2 = t := by
  induction t using BlankLines.lines_induction with
  | tail t h => simp [BlankLines.splitLines_of_not_mem h]
  | line xs rest h ih =>
    rw [BlankLines.splitLines_append_line h]
    simpa [BlankLines.Line.chars] using ih

/-- **The first line after a collapse.** Collapsing blank lines keeps the first line of a
text. -/
theorem firstLine?_collapse (t : String) :
    FileSystem.firstLine? (BlankLines.collapse t).toUTF8 = FileSystem.firstLine? t.toUTF8 := by
  have ht : t = String.ofList ((BlankLines.splitLines t.toList).1.flatMap BlankLines.Line.chars ++
      (BlankLines.splitLines t.toList).2) := by
    rw [flatMap_splitLines, String.ofList_toList]
  have hcollapse : BlankLines.collapse t = String.ofList
      ((BlankLines.dropRepeatedBlanks false (BlankLines.splitLines t.toList).1).flatMap
        BlankLines.Line.chars ++ (BlankLines.splitLines t.toList).2) := by
    rw [BlankLines.collapse_eq_collapseByLines, BlankLines.collapseByLines]
  have hlf := BlankLines.not_mem_splitLines t.toList
  rw [hcollapse]
  conv_rhs => rw [ht]
  generalize BlankLines.splitLines t.toList = parts at hlf ⊢
  obtain ⟨ls, tail⟩ := parts
  cases ls with
  | nil => rfl
  | cons l ls =>
    have hl : '\n' ∉ l.piece := hlf.1 l (List.mem_cons_self ..)
    simp only [BlankLines.dropRepeatedBlanks, Bool.false_and, Bool.false_eq_true, if_false,
      List.flatMap_cons, BlankLines.Line.chars, List.append_assoc,
      List.cons_append]
    rw [firstLine?_of_lf hl, firstLine?_of_lf hl]

/-! ## The rules of an ignore file -/

namespace Ignore

open BlankLines

/-- A blank line is skipped, whatever its number. -/
theorem read_go_nil_line (path : String) (n : Nat) (rules : Array Rule) (errors : Array String)
    (rest : List (List UInt8)) :
    IgnoreFile.read.go path n rules errors ([] :: rest) =
      IgnoreFile.read.go path (n + 1) rules errors rest := by
  have hempty : String.fromUTF8? ⟨([] : List UInt8).toArray⟩ = some "" := fromUTF8?_flatMap []
  have hrule : parseRule "" = none := by simp [parseRule, trimEnd]
  have hbom : dropByteOrderMarks "" = "" := rfl
  simp only [IgnoreFile.read.go, hempty, hbom, hrule, ite_self]

/-- Past the first line, the rules read do not depend on the line number or on the errors
met so far. -/
theorem read_go_rules_eq {n m : Nat} (hn : 2 ≤ n) (hm : 2 ≤ m) (path : String)
    (rules : Array Rule) (errors errors' : Array String) (lines : List (List UInt8)) :
    (IgnoreFile.read.go path n rules errors lines).1 =
      (IgnoreFile.read.go path m rules errors' lines).1 := by
  induction lines generalizing n m rules errors errors' with
  | nil => rfl
  | cons line rest ih =>
    simp only [IgnoreFile.read.go, show n ≠ 1 by omega, show m ≠ 1 by omega, if_false]
    cases String.fromUTF8? ⟨line.toArray⟩ with
    | none => rfl
    | some text =>
      dsimp only
      cases parseRule text with
      | none => exact ih (by omega) (by omega) ..
      | some r =>
        cases r with
        | ok rule => exact ih (by omega) (by omega) ..
        | error e => exact ih (by omega) (by omega) ..

/-- Lines that read the same rules from the next line on read the same rules after one
more equal line. -/
theorem read_go_cons_congr {path : String} {lines lines' : List (List UInt8)}
    (h : ∀ n, 2 ≤ n → ∀ rules errors,
      (IgnoreFile.read.go path n rules errors lines).1 =
        (IgnoreFile.read.go path n rules errors lines').1)
    {n : Nat} (hn : 0 < n) (rules : Array Rule) (errors : Array String) (line : List UInt8) :
    (IgnoreFile.read.go path n rules errors (line :: lines)).1 =
      (IgnoreFile.read.go path n rules errors (line :: lines')).1 := by
  simp only [IgnoreFile.read.go]
  cases String.fromUTF8? ⟨line.toArray⟩ with
  | none => rfl
  | some text =>
    dsimp only
    cases parseRule (if n = 1 then dropByteOrderMarks text else text) with
    | none => exact h _ (by omega) ..
    | some r =>
      cases r with
      | ok rule => exact h _ (by omega) ..
      | error e => exact h _ (by omega) ..

/-- Past the first line, dropping blank lines that follow blank lines keeps the rules. -/
theorem read_go_dropRepeatedBlanks (path : String) (tail : List (List UInt8)) (b : Bool)
    (ls : List Line) {n : Nat} (hn : 2 ≤ n) (rules : Array Rule) (errors : Array String) :
    (IgnoreFile.read.go path n rules errors
        ((dropRepeatedBlanks b ls).map Line.contentBytes ++ tail)).1 =
      (IgnoreFile.read.go path n rules errors (ls.map Line.contentBytes ++ tail)).1 := by
  induction ls generalizing b n rules errors with
  | nil => rfl
  | cons l ls ih =>
    by_cases hdrop : (b && l.isBlank) = true
    · -- the dropped line is blank, so reading it only moves to the next number
      have hblank : l.contentBytes = [] := by
        rw [Bool.and_eq_true, Line.isBlank, List.isEmpty_iff] at hdrop
        rw [Line.contentBytes, hdrop.2, List.flatMap_nil]
      rw [dropRepeatedBlanks, if_pos hdrop, ih true hn, List.map_cons, List.cons_append, hblank,
        read_go_nil_line]
      exact read_go_rules_eq hn (by omega) ..
    · rw [dropRepeatedBlanks, if_neg hdrop, List.map_cons, List.map_cons, List.cons_append,
        List.cons_append]
      exact read_go_cons_congr (fun n' hn' _ _ => ih _ hn' ..) (by omega) ..

/-- **Ignore files read the same collapsed.** Collapsing the blank lines of an ignore file
keeps its rules: only blank lines after the first are deleted, and they hold no rule. -/
theorem IgnoreFile.read_collapse (root path : String) (t : String) :
    (IgnoreFile.read root path (collapse t).toUTF8).1 = (IgnoreFile.read root path t.toUTF8).1 := by
  have hlines : readLines (collapse t).toList =
      dropRepeatedBlanks false (splitLines t.toList).1 ++
        [⟨(splitLines t.toList).2⟩].filter (!·.piece.isEmpty) := by
    rw [readLines, splitLines_collapse]
  have hrules : (IgnoreFile.read.go path 1 #[] #[]
      (byteLines (collapse t).toUTF8.toList)).1 =
      (IgnoreFile.read.go path 1 #[] #[] (byteLines t.toUTF8.toList)).1 := by
    rw [byteLines_toUTF8, byteLines_toUTF8, hlines, readLines, List.map_append, List.map_append]
    -- the first line is always kept; the lines after it read from number two on
    cases (splitLines t.toList).1 with
    | nil => rfl
    | cons l ls =>
      rw [dropRepeatedBlanks, if_neg (by simp), List.map_cons, List.map_cons, List.cons_append,
        List.cons_append]
      exact read_go_cons_congr (fun n hn _ _ => read_go_dropRepeatedBlanks path _ _ ls hn ..)
        Nat.one_pos ..
  simp only [IgnoreFile.read, hrules]

end Ignore

end FormatConfig
