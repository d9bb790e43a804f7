import FormatConfig.Manifest.Select
import FormatConfig.Proofs.GlobPatterns
import FormatConfig.Proofs.PathParent
import FormatConfig.Proofs.ConfigLookup
import Mathlib.Data.List.Basic
import Mathlib.Data.List.Induction

/-!
# Expanding a list of glob patterns

`expandGlobs` reads its patterns in order, a negated one (`!…`) into a compiled pattern and a
positive one into the paths its glob finds, and it fails at the first pattern it cannot read
(`expandGlobs_eq`). Reading a pattern does not depend on the files selected so far, so the
expansion is a reading pass followed by an applying pass.

Reading fails exactly for a pattern that is not `readable` (`isOk_readStep`): a negated
pattern whose text after the `!` does not compile, or a positive pattern that does not compile
or has a piece between slashes that does not. The glob compiles its whole pattern and then
each component on its own, so `[a/b]` compiles but cannot be expanded. Leading `./` and the
escaped directory in front of a positive pattern change neither.

A positive pattern adds the regular files it found that are new, and a negated one removes
the files under the directory whose relative path it matches. What a run of patterns selects
is the first path of each place (`firstPlaces`) among the *survivors*: the files each positive
pattern found that no later negated pattern removes, pattern by pattern and in the order the
glob found them (`foldl_applyStep_eq`). So a file removed by a negated pattern comes back,
at the end, when a later positive pattern finds it, and a negated pattern never removes a file
added after it.
-/
namespace FormatConfig

namespace Path

/-! ## Paths with the same components -/

theorem sameComponents_iff {p q : Path} :
    p.sameComponents q = true ↔ p.components = q.components := by
  simp [sameComponents]

@[simp] theorem sameComponents_self (p : Path) : p.sameComponents p = true :=
  sameComponents_iff.2 rfl

theorem sameComponents_comm (p q : Path) : p.sameComponents q = q.sameComponents p := by
  simp [sameComponents, eq_comm]

theorem sameComponents_trans {p q r : Path} (hpq : p.sameComponents q = true)
    (hqr : q.sameComponents r = true) : p.sameComponents r = true :=
  sameComponents_iff.2 ((sameComponents_iff.1 hpq).trans (sameComponents_iff.1 hqr))

/-- The path relative to a base depends only on the components. -/
theorem relativeSlashText?_congr {p q : Path} (base : Path) (h : p.sameComponents q = true) :
    p.relativeSlashText? base = q.relativeSlashText? base := by
  simp [relativeSlashText?, stripPrefix?, sameComponents_iff.1 h]

end Path

namespace FileSystem

/-- The text a negated pattern is compiled from: what follows the `!`, without leading `./`. -/
def negatedText (pattern : String) : String :=
  Manifest.stripDotSlash (String.ofList (pattern.toList.drop 1))

/-- The pattern a positive pattern is globbed as: the escaped directory, a slash, and the
pattern without leading `./`. -/
def fullPattern (cwd : Path) (pattern : String) : String :=
  Glob.escape (Manifest.trimEndSlashes cwd.text) ++ "/" ++ Manifest.stripDotSlash pattern

/-- What a pattern does to the selected files, once it is read. -/
inductive GlobStep where
  /-- Add the regular files among these, in order, unless already selected. -/
  | add (found : List Path)
  /-- Remove the files under the directory whose relative path this matches. -/
  | remove (negated : Glob.Pattern)

/-- Reads one pattern: a negated one is compiled, a positive one is globbed. -/
def readStep (fs : FileSystem) (cwd : Path) (pattern : String) : Except Error GlobStep :=
  if pattern.startsWith "!" then GlobStep.remove <$> Manifest.compilePattern (negatedText pattern)
  else GlobStep.add <$>
    (fs.glob (fullPattern cwd pattern) (Manifest.selectOptions true)).mapError (.pattern pattern)

/-- Whether a negated pattern removes a path: the path lies under `cwd` and the pattern
matches its relative path. A path outside `cwd` is never removed. -/
def removes (cwd : Path) (negated : Glob.Pattern) (p : Path) : Bool :=
  match p.relativeSlashText? cwd with
  | some rel => negated.matchesWith rel (Manifest.selectOptions true)
  | none => false

/-- Adds a path unless a path with the same components is there already. -/
def addPlace (files : List Path) (p : Path) : List Path :=
  if files.any (·.sameComponents p) then files else files ++ [p]

/-- Applies one read pattern to the files selected so far. -/
def applyStep (fs : FileSystem) (cwd : Path) (files : List Path) : GlobStep → List Path
  | .add found => (found.filter fs.isFile).foldl addPlace files
  | .remove negated => files.filter fun p => !removes cwd negated p

/-- Whether no negated pattern among `steps` removes `p`. -/
def keeps (cwd : Path) (steps : List GlobStep) (p : Path) : Bool :=
  steps.all fun
    | .remove negated => !removes cwd negated p
    | .add _ => true

/-- The files the positive patterns find that no later negated pattern removes: pattern by
pattern, each in the order its glob finds them. -/
def survivors (fs : FileSystem) (cwd : Path) : List GlobStep → List Path
  | [] => []
  | .add found :: rest =>
    found.filter (fun p => fs.isFile p && keeps cwd rest p) ++ survivors fs cwd rest
  | .remove _ :: rest => survivors fs cwd rest

/-- The first path of each place, in order. -/
def firstPlaces (paths : List Path) : List Path := paths.foldl addPlace []

/-! ## Reading, then applying -/

/-- A fold whose step reads its item independently of the state fails at the first item that
cannot be read, and otherwise folds the items read. -/
theorem foldlM_eq_map_foldl {σ β ε : Type} {f : σ → String → Except ε σ}
    (read : String → Except ε β) (apply : σ → β → σ)
    (hf : ∀ s p, f s p = (read p).map (apply s)) (ps : List String) (s : σ) :
    ps.foldlM f s = (ps.mapM read).map (·.foldl apply s) := by
  induction ps generalizing s with
  | nil => rfl
  | cons p ps ih =>
    rw [List.foldlM_cons, List.mapM_cons, hf]
    cases read p with
    | error e => rfl
    | ok b =>
      show ps.foldlM f (apply s b) = _
      rw [ih]
      cases ps.mapM read <;> rfl

/-- Adding the regular files that are new is adding, among the regular files, those that
are new. -/
theorem foldl_addFile_eq (fs : FileSystem) (found files : List Path) :
    found.foldl (fun files p =>
        if fs.isFile p && !files.any (·.sameComponents p) then files ++ [p] else files) files =
      (found.filter fs.isFile).foldl addPlace files := by
  induction found generalizing files with
  | nil => rfl
  | cons p found ih =>
    by_cases hfile : fs.isFile p = true
    · rw [List.foldl_cons, ih, List.filter_cons_of_pos hfile, List.foldl_cons, addPlace]
      by_cases hold : files.any (·.sameComponents p) = true
      · simp [hfile, hold]
      · simp [hfile, hold]
    · rw [List.foldl_cons, ih, List.filter_cons_of_neg hfile]
      simp [hfile]

theorem expandGlobs_eq (fs : FileSystem) (cwd : Path) (patterns : List String) :
    fs.expandGlobs cwd patterns =
      (patterns.mapM (fs.readStep cwd)).map (·.foldl (fs.applyStep cwd) []) := by
  apply foldlM_eq_map_foldl
  intro files pattern
  unfold readStep negatedText fullPattern
  by_cases hneg : pattern.startsWith "!" = true
  · rw [if_pos hneg, if_pos hneg]
    cases Manifest.compilePattern
      (Manifest.stripDotSlash (String.ofList (pattern.toList.drop 1))) with
    | error e => rfl
    | ok negated =>
      show Except.ok _ = Except.ok _
      congr 1
      apply List.filter_congr
      intro p _
      unfold removes
      cases p.relativeSlashText? cwd <;> rfl
  · rw [if_neg hneg, if_neg hneg]
    dsimp only
    cases (fs.glob (Glob.escape (Manifest.trimEndSlashes cwd.text) ++ "/" ++
      Manifest.stripDotSlash pattern) (Manifest.selectOptions true)).mapError
      (Error.pattern pattern) with
    | error e => rfl
    | ok found => exact congrArg Except.ok (foldl_addFile_eq fs found files)

/-! ## Survivors -/

theorem removes_congr (cwd : Path) (negated : Glob.Pattern) {p q : Path}
    (h : p.sameComponents q = true) : removes cwd negated p = removes cwd negated q := by
  simp [removes, Path.relativeSlashText?_congr cwd h]

theorem keeps_append (cwd : Path) (a b : List GlobStep) (p : Path) :
    keeps cwd (a ++ b) p = (keeps cwd a p && keeps cwd b p) := by
  simp [keeps, List.all_append]

/-- A positive pattern at the end adds the regular files it found. -/
theorem survivors_append_add (fs : FileSystem) (cwd : Path) (steps : List GlobStep)
    (found : List Path) :
    survivors fs cwd (steps ++ [.add found]) =
      survivors fs cwd steps ++ found.filter fs.isFile := by
  induction steps with
  | nil => simp [survivors, keeps]
  | cons s steps ih =>
    cases s with
    | add found' => simp [survivors, ih, keeps]
    | remove negated => simp [survivors, ih]

/-- A negated pattern at the end removes the survivors it matches. -/
theorem survivors_append_remove (fs : FileSystem) (cwd : Path) (steps : List GlobStep)
    (negated : Glob.Pattern) :
    survivors fs cwd (steps ++ [.remove negated]) =
      (survivors fs cwd steps).filter fun p => !removes cwd negated p := by
  induction steps with
  | nil => rfl
  | cons s steps ih =>
    cases s with
    | add found =>
      rw [List.cons_append, survivors, survivors, ih, List.filter_append, List.filter_filter]
      congr 1
      apply List.filter_congr
      intro p _
      have hlast : keeps cwd [.remove negated] p = !removes cwd negated p := by simp [keeps]
      rw [keeps_append, hlast]
      cases fs.isFile p <;> cases keeps cwd steps p <;> cases removes cwd negated p <;> rfl
    | remove negated' => simp [survivors, ih]

/-! ## The first path of each place -/

theorem firstPlaces_append_singleton (paths : List Path) (p : Path) :
    firstPlaces (paths ++ [p]) = addPlace (firstPlaces paths) p := by
  simp [firstPlaces]

theorem any_addPlace (files : List Path) (p f : Path) :
    (addPlace files p).any (·.sameComponents f) =
      (files.any (·.sameComponents f) || p.sameComponents f) := by
  unfold addPlace
  by_cases hold : files.any (·.sameComponents p) = true
  · rw [if_pos hold]
    by_cases hpf : p.sameComponents f = true
    · -- the path already there for `p` is one for `f` too
      obtain ⟨g, hg, hgp⟩ := List.any_eq_true.1 hold
      have hgf : (files.any (·.sameComponents f)) = true :=
        List.any_eq_true.2 ⟨g, hg, Path.sameComponents_trans hgp hpf⟩
      simp [hgf]
    · simp [hpf]
  · rw [if_neg hold]
    simp

/-- The first paths of the places keep every place. -/
theorem any_firstPlaces (paths : List Path) (f : Path) :
    (firstPlaces paths).any (·.sameComponents f) = paths.any (·.sameComponents f) := by
  induction paths using List.reverseRecOn with
  | nil => rfl
  | append_singleton paths p ih =>
    rw [firstPlaces_append_singleton, any_addPlace, ih]
    simp

/-- Filtering by a test that only reads components commutes with taking first places. -/
theorem firstPlaces_filter (keep : Path → Bool)
    (hkeep : ∀ p q, p.sameComponents q = true → keep p = keep q) (paths : List Path) :
    firstPlaces (paths.filter keep) = (firstPlaces paths).filter keep := by
  induction paths using List.reverseRecOn with
  | nil => rfl
  | append_singleton paths p ih =>
    rw [firstPlaces_append_singleton, List.filter_append]
    unfold addPlace
    by_cases hp : keep p = true
    · rw [List.filter_singleton, hp, cond_true, firstPlaces_append_singleton, ih, addPlace]
      -- the kept paths have a path for `p`'s place exactly when all paths do
      have hany : ((firstPlaces paths).filter keep).any (·.sameComponents p) =
          (firstPlaces paths).any (·.sameComponents p) := by
        rw [Bool.eq_iff_iff, List.any_eq_true, List.any_eq_true]
        constructor
        · rintro ⟨g, hg, hgp⟩
          exact ⟨g, List.mem_of_mem_filter hg, hgp⟩
        · rintro ⟨g, hg, hgp⟩
          exact ⟨g, List.mem_filter.2 ⟨hg, (hkeep g p hgp).trans hp⟩, hgp⟩
      rw [hany]
      split <;> simp [List.filter_append, hp]
    · rw [List.filter_singleton, Bool.eq_false_iff.2 hp, cond_false, List.append_nil, ih]
      split <;> simp [List.filter_append, hp]

/-- **Applying the patterns.** The files selected by a run of read patterns are the first
path of each place among its survivors. -/
theorem foldl_applyStep_eq (fs : FileSystem) (cwd : Path) (steps : List GlobStep) :
    steps.foldl (fs.applyStep cwd) [] = firstPlaces (survivors fs cwd steps) := by
  induction steps using List.reverseRecOn with
  | nil => rfl
  | append_singleton steps s ih =>
    rw [List.foldl_append, List.foldl_cons, List.foldl_nil, ih]
    cases s with
    | add found =>
      rw [survivors_append_add, applyStep, firstPlaces, firstPlaces, List.foldl_append]
    | remove negated =>
      rw [survivors_append_remove, applyStep,
        firstPlaces_filter _ (fun p q h => by rw [removes_congr cwd negated h])]

theorem firstPlaces_sublist (paths : List Path) : (firstPlaces paths).Sublist paths := by
  induction paths using List.reverseRecOn with
  | nil => exact .slnil
  | append_singleton paths p ih =>
    rw [firstPlaces_append_singleton, addPlace]
    split
    · exact ih.trans (List.sublist_append_left paths [p])
    · exact ih.append (.refl [p])

/-- No two first paths share a place. -/
theorem pairwise_firstPlaces (paths : List Path) :
    (firstPlaces paths).Pairwise fun p q => p.sameComponents q = false := by
  induction paths using List.reverseRecOn with
  | nil => exact .nil
  | append_singleton paths p ih =>
    rw [firstPlaces_append_singleton, addPlace]
    split
    · exact ih
    · rename_i hnew
      refine List.pairwise_append.2 ⟨ih, List.pairwise_singleton _ p, ?_⟩
      intro g hg q hq
      rw [List.mem_singleton.1 hq]
      exact Bool.eq_false_iff.2 fun hgp => hnew (List.any_eq_true.2 ⟨g, hg, hgp⟩)

/-- A first path's place occurs among the paths. -/
theorem findIdx_lt_of_mem_firstPlaces {paths : List Path} {f : Path}
    (hf : f ∈ firstPlaces paths) : paths.findIdx (·.sameComponents f) < paths.length :=
  List.findIdx_lt_length_of_exists
    ⟨f, (firstPlaces_sublist paths).subset hf, Path.sameComponents_self f⟩

/-- Appending a path keeps where the place of a first path first occurs. -/
theorem findIdx_append_of_mem_firstPlaces {paths : List Path} {f : Path} (p : Path)
    (hf : f ∈ firstPlaces paths) :
    (paths ++ [p]).findIdx (·.sameComponents f) = paths.findIdx (·.sameComponents f) := by
  rw [List.findIdx_append, if_pos (findIdx_lt_of_mem_firstPlaces hf)]

/-- A path whose place has no first path yet first occurs where it is appended. -/
theorem findIdx_append_of_new {paths : List Path} {p : Path}
    (hnew : ¬(firstPlaces paths).any (·.sameComponents p) = true) :
    (paths ++ [p]).findIdx (·.sameComponents p) = paths.length := by
  have hnone : ∀ g ∈ paths, g.sameComponents p = false := by
    have hany : paths.any (·.sameComponents p) = false := by
      rw [← any_firstPlaces]
      exact Bool.eq_false_iff.2 hnew
    exact fun g hg => Bool.eq_false_iff.2 (List.any_eq_false.1 hany g hg)
  rw [List.findIdx_append, if_neg (by rw [List.findIdx_eq_length.2 hnone]; omega)]
  simp

/-- The first paths come in the order their places first occur. -/
theorem firstPlaces_ordered (paths : List Path) :
    (firstPlaces paths).Pairwise fun p q =>
      paths.findIdx (·.sameComponents p) < paths.findIdx (·.sameComponents q) := by
  induction paths using List.reverseRecOn with
  | nil => exact .nil
  | append_singleton paths p ih =>
    -- the places kept so far keep the index of their first occurrence
    have hold : (firstPlaces paths).Pairwise fun f g =>
        (paths ++ [p]).findIdx (·.sameComponents f) <
          (paths ++ [p]).findIdx (·.sameComponents g) :=
      ih.imp_of_mem fun hf hg h => by
        rwa [findIdx_append_of_mem_firstPlaces p hf, findIdx_append_of_mem_firstPlaces p hg]
    rw [firstPlaces_append_singleton, addPlace]
    split
    · exact hold
    · rename_i hnew
      -- a new place first occurs at the end, after every kept one
      refine List.pairwise_append.2 ⟨hold, List.pairwise_singleton _ p, ?_⟩
      intro g hg q hq
      rw [List.mem_singleton.1 hq, findIdx_append_of_mem_firstPlaces p hg,
        findIdx_append_of_new hnew]
      exact findIdx_lt_of_mem_firstPlaces hg

/-- Each first path is where its place first occurs. -/
theorem firstPlaces_first (paths : List Path) :
    ∀ f ∈ firstPlaces paths, paths[paths.findIdx (·.sameComponents f)]? = some f := by
  induction paths using List.reverseRecOn with
  | nil => simp [firstPlaces]
  | append_singleton paths p ih =>
    have hold : ∀ f ∈ firstPlaces paths,
        (paths ++ [p])[(paths ++ [p]).findIdx (·.sameComponents f)]? = some f := by
      intro f hf
      rw [findIdx_append_of_mem_firstPlaces p hf,
        List.getElem?_append_left (findIdx_lt_of_mem_firstPlaces hf)]
      exact ih f hf
    rw [firstPlaces_append_singleton, addPlace]
    split
    · exact hold
    · rename_i hnew
      intro f hf
      rcases List.mem_append.1 hf with hf | hf
      · exact hold f hf
      · rw [List.mem_singleton.1 hf, findIdx_append_of_new hnew]
        simp

/-- A survivor is a regular file found by a positive pattern that no later negated pattern
removes. -/
theorem mem_survivors_iff (fs : FileSystem) (cwd : Path) (steps : List GlobStep) (g : Path) :
    g ∈ survivors fs cwd steps ↔
      ∃ i found, steps[i]? = some (.add found) ∧ g ∈ found ∧ fs.isFile g = true ∧
        keeps cwd (steps.drop (i + 1)) g = true := by
  induction steps with
  | nil => simp [survivors]
  | cons s steps ih =>
    cases s with
    | add found =>
      rw [survivors, List.mem_append, ih, List.mem_filter, Bool.and_eq_true]
      constructor
      · rintro (⟨hg, hfile, hkeep⟩ | ⟨i, found', hi, hg, hfile, hkeep⟩)
        · exact ⟨0, found, rfl, hg, hfile, hkeep⟩
        · exact ⟨i + 1, found', hi, hg, hfile, hkeep⟩
      · rintro ⟨i, found', hi, hg, hfile, hkeep⟩
        cases i with
        | zero =>
          obtain rfl : found = found' := by simpa using hi
          exact .inl ⟨hg, hfile, hkeep⟩
        | succ i => exact .inr ⟨i, found', hi, hg, hfile, hkeep⟩
    | remove negated =>
      rw [survivors, ih]
      constructor
      · rintro ⟨i, found, hi, hg, hfile, hkeep⟩
        exact ⟨i + 1, found, hi, hg, hfile, hkeep⟩
      · rintro ⟨i, found, hi, hg, hfile, hkeep⟩
        cases i with
        | zero => simp at hi
        | succ i => exact ⟨i, found, hi, hg, hfile, hkeep⟩

/-- Being kept by the steps after index `i` is being removed by no negated step after it. -/
theorem keeps_drop_iff (cwd : Path) (steps : List GlobStep) (i : Nat) (g : Path) :
    keeps cwd (steps.drop (i + 1)) g = true ↔
      ∀ j negated, i < j → steps[j]? = some (.remove negated) →
        removes cwd negated g = false := by
  rw [keeps, List.all_eq_true]
  constructor
  · intro h j negated hij hj
    have hmem : GlobStep.remove negated ∈ steps.drop (i + 1) := by
      rw [List.mem_iff_getElem?]
      have hj' : steps[i + 1 + (j - (i + 1))]? = some (.remove negated) := by
        rw [show i + 1 + (j - (i + 1)) = j by omega, hj]
      exact ⟨j - (i + 1), by rw [List.getElem?_drop, hj']⟩
    simpa using h _ hmem
  · intro h s hs
    obtain ⟨k, hk⟩ := List.mem_iff_getElem?.1 hs
    rw [List.getElem?_drop] at hk
    cases s with
    | add found => rfl
    | remove negated => simpa using h (i + 1 + k) negated (by omega) hk

/-! ## Which patterns can be read -/

/-- Whether a pattern can be read: the text after the `!` of a negated pattern compiles; a
positive pattern compiles, and so does each of its pieces between slashes, since the glob
compiles each component on its own. -/
def readable (pattern : String) : Bool :=
  if pattern.startsWith "!" then
    (Glob.Pattern.compile (String.ofList (pattern.toList.drop 1))).isOk
  else (Glob.Pattern.compile pattern).isOk &&
    (Path.slashPieces pattern).all fun piece => (Glob.Pattern.compile piece).isOk

/-- Whether each piece between slashes of a text compiles. -/
def piecesCompile (cs : List Char) : Bool :=
  (cs.splitOn '/').all fun piece => (Glob.compileAux piece 0 none []).isOk

theorem all_slashPieces (s : String) :
    (Path.slashPieces s).all (fun piece => (Glob.Pattern.compile piece).isOk) =
      piecesCompile s.toList := by
  simp only [Path.slashPieces, piecesCompile, List.all_map, Function.comp_def, Glob.isOk_compile,
    String.toList_ofList]

theorem isOk_mapM {α β ε : Type} (f : α → Except ε β) (l : List α) :
    (l.mapM f).isOk = l.all fun a => (f a).isOk := by
  induction l with
  | nil => rfl
  | cons a l ih =>
    rw [List.mapM_cons, List.all_cons, ← ih]
    cases f a <;> cases l.mapM f <;> rfl

theorem eq_error_of_mapM_eq_error {α β ε : Type} {f : α → Except ε β} {l : List α} {e : ε}
    (h : l.mapM f = .error e) : ∃ a ∈ l, f a = .error e := by
  induction l with
  | nil => cases h
  | cons a l ih =>
    rw [List.mapM_cons] at h
    cases ha : f a with
    | error e' =>
      rw [ha] at h
      cases h
      exact ⟨a, List.mem_cons_self, ha⟩
    | ok b =>
      rw [ha] at h
      cases hl : l.mapM f with
      | error e' =>
        rw [hl] at h
        cases h
        obtain ⟨x, hx, hfx⟩ := ih hl
        exact ⟨x, List.mem_cons_of_mem a hx, hfx⟩
      | ok bs =>
        rw [hl] at h
        cases h

/-- A leading `./` is read as two plain characters, after which a component starts, so
removing it keeps whether a text compiles. -/
theorem isOk_compileAux_stripDotSlash (cs : List Char) :
    (Glob.compileAux (Manifest.stripDotSlash.go cs) 0 none []).isOk =
      (Glob.compileAux cs 0 none []).isOk := by
  fun_induction Manifest.stripDotSlash.go cs with
  | case1 rest ih =>
    rw [ih, Glob.compileAux, Glob.compileAux]
    · exact Glob.isOk_compileAux_congr rest _ _ _ (by simp)
    all_goals
      intros
      simp_all
  | case2 => rfl

/-- Removing a leading `./` removes `.` pieces, which compile. -/
theorem piecesCompile_stripDotSlash (cs : List Char) :
    piecesCompile (Manifest.stripDotSlash.go cs) = piecesCompile cs := by
  fun_induction Manifest.stripDotSlash.go cs with
  | case1 rest ih =>
    -- the `.` before the slash is a piece of its own, and it compiles
    have hdot : (Glob.compileAux ['.'] 0 none []).isOk = true := by
      rw [Glob.compileAux]
      · exact Glob.isOk_compileAux_nil _ _ _
      all_goals
        intros
        simp_all
    rw [ih, piecesCompile, piecesCompile,
      show '.' :: '/' :: rest = ['.'] ++ '/' :: rest from rfl, List.splitOn_append_cons_self,
      List.all_append, show ['.'].splitOn '/' = [['.']] by decide, List.all_cons, List.all_nil,
      hdot, Bool.and_true, Bool.true_and]
  | case2 => rfl

theorem isOk_compile_stripDotSlash (s : String) :
    (Glob.Pattern.compile (Manifest.stripDotSlash s)).isOk = (Glob.Pattern.compile s).isOk := by
  rw [Glob.isOk_compile, Glob.isOk_compile, Manifest.stripDotSlash, String.toList_ofList,
    isOk_compileAux_stripDotSlash]

/-- Escaping writes no slash of its own, so the pieces of escaped text are the escaped
pieces. -/
theorem splitOn_flatMap_escapeChar (s : List Char) :
    (s.flatMap Glob.escapeChar).splitOn '/' = (s.splitOn '/').map (·.flatMap Glob.escapeChar) := by
  induction s with
  | nil => rfl
  | cons c s ih =>
    rw [List.flatMap_cons, List.splitOn_cons_eq_if_modifyHead]
    by_cases hc : c = '/'
    · -- a slash is written as itself and ends a piece
      subst hc
      rw [show Glob.escapeChar '/' = ['/'] from rfl, List.singleton_append,
        List.splitOn_cons_eq_if_modifyHead, if_pos (beq_self_eq_true '/'),
        if_pos (beq_self_eq_true '/'), ih]
      rfl
    · have hnot : '/' ∉ Glob.escapeChar c := by
        unfold Glob.escapeChar
        split <;> simp [Ne.symm hc]
      rw [Path.splitOn_append_of_not_mem hnot, ih, if_neg (by simpa using hc)]
      cases s.splitOn '/' <;> simp

theorem toList_fullPattern (cwd : Path) (pattern : String) :
    (fullPattern cwd pattern).toList =
      (Manifest.trimEndSlashes cwd.text).toList.flatMap Glob.escapeChar ++
        '/' :: Manifest.stripDotSlash.go pattern.toList := by
  simp [fullPattern, Glob.toList_escape, Manifest.stripDotSlash]

/-- The escaped directory reads through, so the full pattern compiles when the pattern
does. -/
theorem isOk_compile_fullPattern (cwd : Path) (pattern : String) :
    (Glob.Pattern.compile (fullPattern cwd pattern)).isOk =
      (Glob.Pattern.compile pattern).isOk := by
  rw [Glob.isOk_compile, Glob.isOk_compile, toList_fullPattern]
  obtain ⟨pos, prev, acc, hdir⟩ := Glob.compileAux_escape_append
    (Manifest.trimEndSlashes cwd.text).toList ('/' :: Manifest.stripDotSlash.go pattern.toList)
    0 none []
  rw [hdir, Glob.compileAux, ← isOk_compileAux_stripDotSlash]
  · exact Glob.isOk_compileAux_congr _ _ _ _ (by simp)
  all_goals
    intros
    simp_all

/-- The pieces of the escaped directory compile, so the pieces of the full pattern compile
when those of the pattern do. -/
theorem piecesCompile_fullPattern (cwd : Path) (pattern : String) :
    piecesCompile (fullPattern cwd pattern).toList = piecesCompile pattern.toList := by
  have hdir : ∀ piece ∈ (Manifest.trimEndSlashes cwd.text).toList.flatMap Glob.escapeChar
      |>.splitOn '/', (Glob.compileAux piece 0 none []).isOk = true := by
    intro piece hpiece
    rw [splitOn_flatMap_escapeChar, List.mem_map] at hpiece
    obtain ⟨t, -, rfl⟩ := hpiece
    obtain ⟨pos, prev, acc, hread⟩ := Glob.compileAux_escape_append t [] 0 none []
    rw [← List.append_nil (t.flatMap Glob.escapeChar), hread, Glob.compileAux]
    rfl
  rw [toList_fullPattern, piecesCompile, List.splitOn_append_cons_self, List.all_append,
    List.all_eq_true.2 hdir, Bool.true_and, ← piecesCompile, piecesCompile_stripDotSlash]

/-- Dropping a last empty piece keeps whether the pieces compile. -/
theorem all_splitTerminator (r : String) :
    (Glob.splitTerminator r).all (fun piece => (Glob.Pattern.compile piece).isOk) =
      piecesCompile r.toList := by
  rw [← all_slashPieces]
  unfold Glob.splitTerminator
  by_cases hempty : r.isEmpty = true
  · rw [if_pos hempty]
    obtain rfl : r = "" := by simpa using hempty
    rw [show Path.slashPieces "" = [""] from rfl, List.all_cons, List.all_nil, Glob.isOk_compile,
      String.toList_empty, Glob.isOk_compileAux_nil]
    rfl
  · rw [if_neg hempty]
    dsimp only
    split
    · rename_i hlast
      conv_rhs => rw [← List.dropLast_append_getLast? "" hlast]
      rw [List.all_append, List.all_cons, List.all_nil, Glob.isOk_compile, String.toList_empty,
        Glob.isOk_compileAux_nil, Bool.and_true, Bool.and_true]
    · rfl

/-- A glob fails exactly when its pattern or one of the pieces between its slashes does not
compile. -/
theorem isOk_glob (fs : FileSystem) (pattern : String) (opts : Glob.MatchOptions) :
    (fs.glob pattern opts).isOk =
      ((Glob.Pattern.compile pattern).isOk && piecesCompile pattern.toList) := by
  -- after a leading slash the first piece is empty, and the empty piece compiles
  have hpieces : ((Glob.splitTerminator (if pattern.startsWith "/" then
      String.ofList (pattern.toList.drop 1) else pattern)).mapM Glob.Pattern.compile).isOk =
        piecesCompile pattern.toList := by
    rw [isOk_mapM, all_splitTerminator]
    split
    · rename_i habs
      obtain ⟨t, ht⟩ : ['/'] <+: pattern.toList := by
        simpa [← String.startsWith_toSlice] using habs
      have hslash : ('/' :: t).splitOn '/' = [] :: t.splitOn '/' := by
        simp [List.splitOn_eq_splitOnP, List.splitOnP_cons_eq_if_modifyHead]
      rw [String.toList_ofList, ← ht, piecesCompile, piecesCompile, List.singleton_append,
        List.drop_one, List.tail_cons, hslash, List.all_cons, Glob.isOk_compileAux_nil,
        Bool.true_and]
    · rfl
  unfold FileSystem.glob
  cases Glob.Pattern.compile pattern with
  | error e => rfl
  | ok _ =>
    rw [← hpieces]
    dsimp only
    cases (Glob.splitTerminator (if pattern.startsWith "/" then
      String.ofList (pattern.toList.drop 1) else pattern)).mapM Glob.Pattern.compile with
    | error e => rfl
    | ok pats =>
      show (if pats.toArray.isEmpty = true then _ else _ : Except _ _).isOk = true
      split <;> rfl

theorem isOk_map {ε α β : Type} (f : α → β) (x : Except ε α) :
    (f <$> x).isOk = x.isOk := by
  cases x <;> rfl

theorem isOk_mapError {ε ε' α : Type} (f : ε → ε') (x : Except ε α) :
    (x.mapError f).isOk = x.isOk := by
  cases x <;> rfl

theorem map_eq_error {ε α β : Type} {f : α → β} {x : Except ε α} {e : ε} :
    x.map f = .error e ↔ x = .error e := by
  cases x <;> simp [Except.map]

theorem mapError_eq_error {ε ε' α : Type} {g : ε → ε'} {x : Except ε α} {e' : ε'} :
    x.mapError g = .error e' ↔ ∃ e, x = .error e ∧ e' = g e := by
  cases x <;> simp [Except.mapError, eq_comm]

theorem exists_eq_error_iff {ε α : Type} (x : Except ε α) :
    (∃ e, x = .error e) ↔ x.isOk = false := by
  cases x <;> simp [Except.isOk, Except.toBool]

/-- **Reading a pattern** fails exactly when it is not readable. -/
theorem isOk_readStep (fs : FileSystem) (cwd : Path) (pattern : String) :
    (fs.readStep cwd pattern).isOk = readable pattern := by
  unfold readStep readable
  by_cases hneg : pattern.startsWith "!" = true
  · rw [if_pos hneg, if_pos hneg, isOk_map, Manifest.compilePattern, isOk_mapError, negatedText,
      isOk_compile_stripDotSlash]
  · rw [if_neg hneg, if_neg hneg, isOk_map, isOk_mapError, isOk_glob, isOk_compile_fullPattern,
      piecesCompile_fullPattern, all_slashPieces]

/-- A pattern that cannot be read is reported as a pattern error. -/
theorem readStep_error (fs : FileSystem) (cwd : Path) {pattern : String} {e : Error}
    (h : fs.readStep cwd pattern = .error e) : ∃ source cause, e = .pattern source cause := by
  unfold readStep Manifest.compilePattern at h
  split at h
  all_goals
    obtain ⟨cause, -, rfl⟩ := mapError_eq_error.1 (map_eq_error.1 h)
    exact ⟨_, cause, rfl⟩

/-- **Failing.** Expanding patterns fails, with a pattern error, exactly when one of them is
not readable. -/
theorem expandGlobs_fails_iff (fs : FileSystem) (cwd : Path) (patterns : List String) :
    ((∃ e, fs.expandGlobs cwd patterns = .error e) ↔ ∃ p ∈ patterns, readable p = false) ∧
      ∀ e, fs.expandGlobs cwd patterns = .error e →
        ∃ source cause, e = .pattern source cause := by
  rw [expandGlobs_eq]
  constructor
  · -- the expansion fails when reading fails, and reading fails at an unreadable pattern
    simp only [map_eq_error]
    rw [exists_eq_error_iff, isOk_mapM, List.all_eq_false]
    simp only [isOk_readStep, Bool.not_eq_true]
  · intro e he
    obtain ⟨p, -, hp⟩ := eq_error_of_mapM_eq_error (map_eq_error.1 he)
    exact readStep_error fs cwd hp

/-! ## What a list of patterns selects -/

/-- **Expanding glob patterns.** Expansion fails, with a pattern error, exactly when some
pattern is not readable. Otherwise every pattern is read, and the files selected name each
place once. A place is selected exactly when some positive pattern found a regular file there
that no later negated pattern removes, and the file selected for it is the first such
survivor. The files come in the order their places first survive: by the positive pattern that
adds them after the last negated pattern removing them, and for one pattern in the order its
glob found them. -/
theorem expandGlobs_selects_first_survivors (fs : FileSystem) (cwd : Path)
    (patterns : List String) :
    ((∃ e, fs.expandGlobs cwd patterns = .error e) ↔ ∃ p ∈ patterns, readable p = false) ∧
      (∀ e, fs.expandGlobs cwd patterns = .error e → ∃ source cause, e = .pattern source cause) ∧
      ∀ files, fs.expandGlobs cwd patterns = .ok files →
        ∃ steps, patterns.mapM (fs.readStep cwd) = .ok steps ∧
          files.Pairwise (fun p q => p.sameComponents q = false) ∧
          (∀ f, files.any (·.sameComponents f) = true ↔
            ∃ (i : Nat) (found : List Path) (g : Path), steps[i]? = some (.add found) ∧
              g ∈ found ∧ fs.isFile g = true ∧ g.sameComponents f = true ∧
              ∀ (j : Nat) negated, i < j → steps[j]? = some (.remove negated) →
                removes cwd negated g = false) ∧
          (∀ f ∈ files,
            (survivors fs cwd steps)[(survivors fs cwd steps).findIdx (·.sameComponents f)]? =
              some f) ∧
          files.Pairwise fun p q =>
            (survivors fs cwd steps).findIdx (·.sameComponents p) <
              (survivors fs cwd steps).findIdx (·.sameComponents q) := by
  refine ⟨(expandGlobs_fails_iff fs cwd patterns).1, (expandGlobs_fails_iff fs cwd patterns).2,
    ?_⟩
  intro files h
  rw [expandGlobs_eq] at h
  cases hm : patterns.mapM (fs.readStep cwd) with
  | error e =>
    rw [hm] at h
    cases h
  | ok steps =>
    rw [hm] at h
    -- the files are the first path of each place among the survivors
    have hfiles : files = firstPlaces (survivors fs cwd steps) := by
      rw [← foldl_applyStep_eq]
      exact (Except.ok.inj h).symm
    subst hfiles
    refine ⟨steps, rfl, pairwise_firstPlaces _, ?_, firstPlaces_first _,
      firstPlaces_ordered _⟩
    intro f
    rw [any_firstPlaces, List.any_eq_true]
    constructor
    · rintro ⟨g, hg, hgf⟩
      obtain ⟨i, found, hi, hfound, hfile, hkeep⟩ := (mem_survivors_iff fs cwd steps g).1 hg
      exact ⟨i, found, g, hi, hfound, hfile, hgf, (keeps_drop_iff cwd steps i g).1 hkeep⟩
    · rintro ⟨i, found, g, hi, hfound, hfile, hgf, hkeep⟩
      exact ⟨g, (mem_survivors_iff fs cwd steps g).2
        ⟨i, found, hi, hfound, hfile, (keeps_drop_iff cwd steps i g).2 hkeep⟩, hgf⟩

/-- A directory `/r` holding `a.ts` and `b.ts`. -/
def twoSources : FileSystem :=
  { nodes := [(["r"], .dir), (["r", "a.ts"], .file "x\n".toUTF8),
      (["r", "b.ts"], .file "y\n".toUTF8)],
    cwd := ["r"] }

/-- `./b.ts` names the place `b.ts` already selected, so it adds nothing. -/
theorem expandGlobs_selects_first_survivors_twoSources :
    twoSources.expandGlobs ⟨"/r"⟩ ["b.ts", "a.ts", "./b.ts"] = .ok [⟨"/r/b.ts"⟩, ⟨"/r/a.ts"⟩] ∧
      [(⟨"/r/b.ts"⟩ : Path), ⟨"/r/a.ts"⟩].Pairwise fun p q => p.sameComponents q = false := by
  have h : twoSources.expandGlobs ⟨"/r"⟩ ["b.ts", "a.ts", "./b.ts"] =
      .ok [⟨"/r/b.ts"⟩, ⟨"/r/a.ts"⟩] :=
    eq_ok_of_toOption_eq_some (by decide +kernel)
  obtain ⟨_, _, hdistinct, _⟩ :=
    (expandGlobs_selects_first_survivors twoSources ⟨"/r"⟩ ["b.ts", "a.ts", "./b.ts"]).2.2 _ h
  exact ⟨h, hdistinct⟩

/-- The class `[a/b]` compiles as a pattern, but its glob compiles the piece `[a` on its own,
which does not, so expanding it fails. -/
theorem expandGlobs_rejects_class_across_slash :
    (Glob.Pattern.compile "[a/b]").isOk = true ∧
      ∃ e, twoSources.expandGlobs ⟨"/r"⟩ ["[a/b]"] = .error e :=
  ⟨by decide +kernel, (expandGlobs_fails_iff twoSources ⟨"/r"⟩ ["[a/b]"]).1.2
    ⟨"[a/b]", List.mem_singleton_self _, by decide +kernel⟩⟩

end FileSystem

end FormatConfig
