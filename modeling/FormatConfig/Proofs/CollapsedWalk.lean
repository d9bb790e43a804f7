import FormatConfig.Proofs.ByteLines

/-!
# Walking a collapsed file system

A walk for source files reads the file system in three ways: the shape of the tree (which
entries a directory has, and their kinds), the rules of ignore files, and the first lines of
the `.git` and `commondir` files that lead to a repository's exclusions. The shape is kept
when texts are collapsed, and so are the rules of an ignore file and the first line of a
file (`IgnoreFile.read_collapse`, `firstLine?_collapse`). So a walk over a collapsed file
system finds the same files in the same order (`CollapsedTo.walkSources`); only the
messages about ignore files that cannot be read may differ, since their line numbers move.
-/

namespace FormatConfig

namespace Node

namespace CollapsedBytes

variable {b b' : ByteArray}

/-- The first line of a file reads the same after its text is collapsed. -/
theorem firstLine? (h : CollapsedBytes b b') : FileSystem.firstLine? b' = FileSystem.firstLine? b := by
  cases h with
  | same => rfl
  | text ht => rw [← toUTF8_of_fromUTF8? ht, firstLine?_collapse]

/-- An ignore file has the same rules after its text is collapsed. -/
theorem read (h : CollapsedBytes b b') (root path : String) :
    (Ignore.IgnoreFile.read root path b').1 = (Ignore.IgnoreFile.read root path b).1 := by
  cases h with
  | same => rfl
  | text ht => rw [← toUTF8_of_fromUTF8? ht, Ignore.IgnoreFile.read_collapse]

end CollapsedBytes

end Node

namespace FileSystem

variable {fs fs' : FileSystem}

theorem CollapsedTo.readIgnoreFile (h : fs.CollapsedTo fs') (root : String) (path : Path) :
    (fs'.readIgnoreFile root path).1 = (fs.readIgnoreFile root path).1 := by
  have hbytes := h.readBytes path
  revert hbytes
  simp only [FileSystem.readIgnoreFile]
  generalize fs.readBytes path = x
  generalize fs'.readBytes path = y
  intro hrel
  cases hrel with
  | error e => rfl
  | ok hab => exact hab.read root path.text

/-- The file that a `gitdir:` line leads to is found the same way. -/
theorem CollapsedTo.gitCommonDir (h : fs.CollapsedTo fs') (dir : Path) :
    fs'.gitCommonDir dir = fs.gitCommonDir dir := by
  have hmeta := h.metadata (dir.joinText ".git")
  revert hmeta
  simp only [FileSystem.gitCommonDir]
  generalize fs.metadata (dir.joinText ".git") = x
  generalize fs'.metadata (dir.joinText ".git") = y
  intro hrel
  cases hrel with
  | error e => rfl
  | @ok n n' hn =>
    -- a directory stays a directory; a file's first line is kept
    cases n with
    | dir => cases hn; rfl
    | file b =>
      cases n' with
      | dir => cases hn
      | file b' =>
        dsimp only
        rw [Node.CollapsedBytes.firstLine? hn]
        cases firstLine? b with
        | none => rfl
        | some r =>
          cases r with
          | error e => rfl
          | ok line =>
            dsimp only
            cases Ignore.dropTextPrefix? "gitdir: " line with
            | none => rfl
            | some named =>
              dsimp only
              have hcommon := h.readBytes ((⟨named⟩ : Path).joinText "commondir")
              revert hcommon
              generalize fs.readBytes ((⟨named⟩ : Path).joinText "commondir") = u
              generalize fs'.readBytes ((⟨named⟩ : Path).joinText "commondir") = v
              intro hrel
              cases hrel with
              | error e => rfl
              | ok hcd =>
                dsimp only
                rw [hcd.firstLine?]

theorem CollapsedTo.holdsRepository (h : fs.CollapsedTo fs') (dir : Path) :
    fs'.holdsRepository dir = fs.holdsRepository dir := by
  simp only [FileSystem.holdsRepository, h.pathExists]

/-- A directory brings the same rules. -/
theorem CollapsedTo.dirRules (h : fs.CollapsedTo fs') (dir : Path) (isAbsoluteParent : Bool) :
    (fs'.dirRules dir isAbsoluteParent).1 = (fs.dirRules dir isAbsoluteParent).1 := by
  simp only [FileSystem.dirRules, h.holdsRepository, h.readIgnoreFile, h.gitCommonDir]
  congr 1
  cases fs.gitCommonDir dir with
  | ok common => exact h.readIgnoreFile ..
  | error e => cases e <;> rfl

/-- The directories above bring the same rules, and the canonical path is the same. -/
theorem CollapsedTo.parentRules (h : fs.CollapsedTo fs') (dir : Path) :
    (fs'.parentRules dir).1 = (fs.parentRules dir).1 ∧
      (fs'.parentRules dir).2.1 = (fs.parentRules dir).2.1 := by
  have hres := h.resolve dir
  revert hres
  simp only [FileSystem.parentRules]
  generalize fs.resolve dir = x
  generalize fs'.resolve dir = y
  intro hrel
  cases hrel with
  | error e => exact ⟨rfl, rfl⟩
  | @ok r r' hr =>
    obtain ⟨loc, n⟩ := r
    obtain ⟨loc', n'⟩ := r'
    obtain ⟨hloc, -⟩ := hr
    simp only at hloc
    subst hloc
    simp only [List.map_map, Function.comp_def, h.dirRules, and_self]

/-- What a path reports about the ignore files above it holds no file. -/
theorem filterMap_toOption_reported (c : Prop) [Decidable c] (m : String) :
    (if c then [] else [Except.error m] : List (Except String Path)).filterMap Except.toOption =
      [] := by
  split <;> rfl

/-- A walk below a directory finds the same files, given the same rules above. -/
theorem CollapsedTo.walkDir (h : fs.CollapsedTo fs') (base : Option String) (fuel : Nat)
    (chain : List Ignore.DirRules) (dir : Path) (acc : Array Path) :
    fs'.walkDir base fuel chain dir acc = fs.walkDir base fuel chain dir acc := by
  -- induction on the depth left; the entries are told apart by name and kind only
  induction fuel generalizing chain dir acc with
  | zero => rfl
  | succ fuel ih =>
    have hread := h.readDir dir
    revert hread
    simp only [FileSystem.walkDir]
    generalize fs.readDir dir = x
    generalize fs'.readDir dir = y
    intro hrel
    cases hrel with
    | error e => rfl
    | @ok es es' hkinds =>
      dsimp only
      simp only [ih, h.dirRules]
      have hfold := congrArg (List.foldl (fun acc (e : String × Bool) =>
        if Ignore.skipsEntry chain base (dir.joinText e.1).text e.1 e.2 then acc
        else if e.2 then
          fs.walkDir base fuel ((fs.dirRules (dir.joinText e.1) false).1 :: chain)
            (dir.joinText e.1) acc
        else if isSourceFile (dir.joinText e.1) then acc.push (dir.joinText e.1)
        else acc) acc) hkinds
      simpa only [List.foldl_map, Prod.map_fst, Prod.map_snd, id] using hfold

/-- **A walk finds the same files.** The files that walking the given paths finds are the
same, in the same order, after texts are collapsed. -/
theorem CollapsedTo.walkSources (h : fs.CollapsedTo fs') (paths : List Path) :
    (fs'.walkSources paths).filterMap Except.toOption =
      (fs.walkSources paths).filterMap Except.toOption := by
  simp only [FileSystem.walkSources, List.filterMap_flatMap]
  congr 1
  funext p
  have hparents := h.parentRules p
  simp only [h.isFile, h.isDir, h.dirRules, h.length_nodes]
  split
  · rfl
  split
  · rfl
  have hmeta := h.metadata p
  revert hmeta
  generalize fs.metadata p = x
  generalize fs'.metadata p = y
  intro hrel
  cases hrel with
  | error e =>
    dsimp only
    rw [List.filterMap_append, List.filterMap_append, filterMap_toOption_reported,
      filterMap_toOption_reported]
  | ok _ =>
    -- the reported errors hold no file; the files found are compared
    dsimp only
    rw [List.filterMap_append, List.filterMap_append, filterMap_toOption_reported,
      filterMap_toOption_reported, List.nil_append, List.nil_append, h.walkDir]
    by_cases hdir : fs.isDir p = true
    · simp only [hdir, if_true, hparents.1, hparents.2]
    · simp only [hdir, Bool.false_eq_true, if_false]

end FileSystem

end FormatConfig
