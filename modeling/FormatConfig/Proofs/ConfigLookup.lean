import FormatConfig.Proofs.LexicalNormalForm
import FormatConfig.Lookup
import FormatConfig.Lint.Rules
import FormatConfig.EditorConfig.Options

/-!
# Looking up configuration files on the chain of ancestors

The search for a configuration file climbs the chain of lexical ancestors of a start
directory (`Path.ancestors`). `FoundOnChain` says what it finds: the file in the first
directory of the chain that holds it, unless the search stops at a repository root before.
`findUpward_eq_some_iff` proves that the search finds exactly that; its fuel, the length of
the start directory's text, always covers the whole chain.

The rule file and the editor settings that apply to a file are looked up this way from the
absolute normal form of the base directory or of the directory holding the file. Every
directory on that chain leads, by its components, to a prefix of where the file lies, so a
`..` in a file's path never reaches into a sibling directory (`searchStart_chain`).
-/

namespace FormatConfig

/-- An outcome that reads as a value is that value; this lets a closed outcome be computed
through `Option`, whose equality is decidable. -/
theorem eq_ok_of_toOption_eq_some {ε α : Type} {x : Except ε α} {a : α}
    (h : x.toOption = some a) : x = .ok a := by
  cases x with
  | error e => cases h
  | ok b =>
    cases h
    rfl

namespace FileSystem

variable (fs : FileSystem) (name : String) (stopAtRepo : Bool)

/-- What a search up a chain of directories finds: `found` is `dir/name` for the first
directory `dir` of the chain that holds `name`, and, when the search stops at
repositories, no directory before it holds `.git`. -/
def FoundOnChain (chain : List Path) (found : Path) : Prop :=
  ∃ before dir after, chain = before ++ dir :: after ∧ found = dir.joinText name ∧
    fs.pathExists found = true ∧
    ∀ d ∈ before, fs.pathExists (d.joinText name) = false ∧
      (stopAtRepo = true → fs.pathExists (d.joinText ".git") = false)

variable {fs name stopAtRepo}

theorem not_foundOnChain_nil (found : Path) : ¬ fs.FoundOnChain name stopAtRepo [] found := by
  rintro ⟨before, dir, after, h, -⟩
  simp at h

/-- A search finds the file in the first directory, or passes it and finds it further up. -/
theorem foundOnChain_cons (dir : Path) (chain : List Path) (found : Path) :
    fs.FoundOnChain name stopAtRepo (dir :: chain) found ↔
      (found = dir.joinText name ∧ fs.pathExists found = true) ∨
      (fs.pathExists (dir.joinText name) = false ∧
        (stopAtRepo = true → fs.pathExists (dir.joinText ".git") = false) ∧
        fs.FoundOnChain name stopAtRepo chain found) := by
  constructor
  · rintro ⟨before, d, after, hchain, hfound, hexists, hbefore⟩
    cases before with
    | nil =>
      obtain ⟨rfl, -⟩ := List.cons.inj hchain
      exact .inl ⟨hfound, hexists⟩
    | cons b before =>
      obtain ⟨hb, hrest⟩ := List.cons.inj hchain
      subst hb
      obtain ⟨hname, hgit⟩ := hbefore dir (List.mem_cons_self ..)
      exact .inr ⟨hname, hgit, before, d, after, hrest, hfound, hexists,
        fun e he => hbefore e (List.mem_cons_of_mem _ he)⟩
  · rintro (⟨hfound, hexists⟩ | ⟨hname, hgit, before, d, after, hchain, hfound, hexists, hbefore⟩)
    · exact ⟨[], dir, chain, rfl, hfound, hexists, by simp⟩
    · refine ⟨dir :: before, d, after, by rw [hchain]; rfl, hfound, hexists, ?_⟩
      intro e he
      rcases List.mem_cons.1 he with rfl | he
      · exact ⟨hname, hgit⟩
      · exact hbefore e he

/-- A search passes a directory that holds neither the file nor, when it stops at
repositories, `.git`. -/
theorem foundOnChain_cons_of_passed {dir : Path} {chain : List Path} {found : Path}
    (hname : fs.pathExists (dir.joinText name) = false)
    (hgit : stopAtRepo = true → fs.pathExists (dir.joinText ".git") = false) :
    fs.FoundOnChain name stopAtRepo (dir :: chain) found ↔
      fs.FoundOnChain name stopAtRepo chain found := by
  rw [foundOnChain_cons]
  constructor
  · rintro (⟨rfl, h⟩ | ⟨-, -, h⟩)
    · simp [hname] at h
    · exact h
  · exact fun h => .inr ⟨hname, hgit, h⟩

/-- With fuel for the whole chain, the search finds what the chain holds. -/
theorem findUpwardAux_eq_some_iff {fuel : Nat} {dir : Path} (hfuel : dir.ancestors.length ≤ fuel)
    (found : Path) :
    fs.findUpwardAux name stopAtRepo fuel dir = some found ↔
      fs.FoundOnChain name stopAtRepo dir.ancestors found := by
  induction fuel generalizing dir with
  | zero => simp [Path.ancestors_eq dir] at hfuel
  | succ fuel ih =>
    rw [findUpwardAux]
    -- the first directory of the chain is `dir` itself
    by_cases hname : fs.pathExists (dir.joinText name) = true
    · rw [if_pos hname, Path.ancestors_eq dir, foundOnChain_cons]
      constructor
      · rintro ⟨⟩
        exact .inl ⟨rfl, hname⟩
      · rintro (⟨rfl, -⟩ | ⟨hname', -⟩)
        · rfl
        · simp [hname] at hname'
    have hname' : fs.pathExists (dir.joinText name) = false := by simpa using hname
    rw [if_neg hname]
    by_cases hstop : (stopAtRepo && fs.pathExists (dir.joinText ".git")) = true
    · rw [if_pos hstop, Path.ancestors_eq dir, foundOnChain_cons]
      obtain ⟨hrepo, hgitHere⟩ := Bool.and_eq_true_iff.1 hstop
      constructor
      · rintro ⟨⟩
      · rintro (⟨rfl, h⟩ | ⟨-, hg, -⟩)
        · simp [hname'] at h
        · simp [hg hrepo] at hgitHere
    rw [if_neg hstop]
    have hgit : stopAtRepo = true → fs.pathExists (dir.joinText ".git") = false := by
      simpa using hstop
    -- the search passes `dir` and goes on up, where the chain goes on
    cases hup : dir.parent? with
    | none =>
      rw [Path.ancestors_of_parent?_eq_none hup, foundOnChain_cons_of_passed hname' hgit]
      simp only [reduceCtorEq, false_iff]
      exact not_foundOnChain_nil found
    | some up =>
      rw [Path.ancestors_of_parent? hup] at hfuel ⊢
      rw [foundOnChain_cons_of_passed hname' hgit]
      simp only [Path.sameComponents_parent? hup, Bool.false_eq_true, if_false]
      exact ih (Nat.le_of_succ_le_succ hfuel)

/-- **The search up the chain of ancestors.** The search for `name` from `start` finds
`dir/name` for the first directory `dir` of the chain of ancestors of `start` where it
exists, provided no directory before it holds `.git` when the search stops at
repositories; otherwise it finds nothing. -/
theorem findUpward_eq_some_iff (start : Path) (found : Path) :
    fs.findUpward start name stopAtRepo = some found ↔
      fs.FoundOnChain name stopAtRepo start.ancestors found :=
  findUpwardAux_eq_some_iff (Path.length_ancestors_le start) found

/-! ## Where the search starts -/

/-- Where a path leads, read by its components from the current directory. -/
def lexicalLocation (fs : FileSystem) (p : Path) : Location :=
  p.locationFrom (fs.cwdPath.locationFrom [])

/-- The directory whose chain the configuration search for `file` climbs, as a location:
the base directory when one is given, else the directory that holds the file. -/
def searchLocation (fs : FileSystem) (file : Path) : Option Path → Location
  | some dir => fs.lexicalLocation dir
  | none => (fs.lexicalLocation file).dropLast

theorem cwdPath_isAbsolute (fs : FileSystem) : fs.cwdPath.isAbsolute = true := by
  simp [cwdPath, Location.toPath, Path.isAbsolute_iff, String.toList_append]

/-- The absolute normal form of a path is rooted and leads where the path leads from the
current directory. -/
theorem absolutePath_locationFrom {p q : Path} (h : fs.absolutePath p = .ok q) :
    Path.RootedNames q.components ∧ q.locationFrom [] = fs.lexicalLocation p := by
  unfold absolutePath at h
  split at h
  · next q' hq =>
    cases h
    exact Path.absoluteNormal_locationFrom fs.cwdPath_isAbsolute hq []
  · cases h

/-- **The search starts where the file lies.** The search starts at the absolute normal form
of the base directory, or of the directory holding the file, and every directory on its
chain lies on the way from the root to there. -/
theorem searchStart_chain {file start : Path} {baseDir : Option Path}
    (h : fs.searchStart file baseDir = .ok start) :
    start.locationFrom [] = fs.searchLocation file baseDir ∧
      ∀ a ∈ start.ancestors, a.locationFrom [] <+: fs.searchLocation file baseDir := by
  -- where the search starts is rooted and leads to the search location
  have hstart : Path.RootedNames start.components ∧
      start.locationFrom [] = fs.searchLocation file baseDir := by
    cases baseDir with
    | some dir => exact absolutePath_locationFrom h
    | none =>
      cases habs : fs.absolutePath file with
      | error e =>
        rw [searchStart, habs] at h
        cases h
      | ok n =>
        rw [searchStart, habs] at h
        obtain rfl : n.parent?.getD n = start := Except.ok.inj h
        obtain ⟨hn, hloc⟩ := absolutePath_locationFrom habs
        cases hpar : n.parent? with
        | none =>
          refine ⟨hn, ?_⟩
          rw [Option.getD_none, searchLocation, ← hloc,
            Path.locationFrom_eq_nil_of_parent?_eq_none hn hpar]
          rfl
        | some s =>
          obtain ⟨hs, hsloc⟩ := Path.locationFrom_parent? hn hpar []
          exact ⟨hs, by rw [Option.getD_some, hsloc, hloc]; rfl⟩
  obtain ⟨hroot, hloc⟩ := hstart
  refine ⟨hloc, fun a ha => ?_⟩
  have hpre := (Path.ancestors_locationFrom hroot [] a ha).2
  rwa [hloc] at hpre

/-- A provider looks up its file from where the search starts. -/
theorem searchStart_bind_findUpward_eq_some_iff (file : Path) (baseDir : Option Path)
    (found : Path) :
    (fs.searchStart file baseDir >>= fun start => pure (fs.findUpward start name false)) =
        .ok (some found) ↔
      ∃ start, fs.searchStart file baseDir = .ok start ∧
        fs.FoundOnChain name false start.ancestors found := by
  cases fs.searchStart file baseDir with
  | error e => simp [bind, Except.bind]
  | ok start => simp [bind, Except.bind, pure, Except.pure, findUpward_eq_some_iff]

/-- **Every provider takes the nearest configuration file.** The search finds the first
directory of the chain of ancestors that holds the file, passing no repository root when it
stops at them; the rule file and the editor settings that apply to a file are found that way
from where the search starts; and every directory on that chain lies on the way from the
root to the base directory or to the directory holding the file. -/
theorem config_search_takes_nearest_on_chain :
    (∀ (fs : FileSystem) (start : Path) (name : String) (stopAtRepo : Bool) (found : Path),
      fs.findUpward start name stopAtRepo = some found ↔
        fs.FoundOnChain name stopAtRepo start.ancestors found) ∧
    (∀ (fs : FileSystem) (file : Path) (baseDir : Option Path) (found : Path),
      (fs.ruleFileFor file baseDir = .ok (some found) ↔
        ∃ start, fs.searchStart file baseDir = .ok start ∧
          fs.FoundOnChain ruleFileName false start.ancestors found) ∧
      (fs.editorConfigFor file baseDir = .ok (some found) ↔
        ∃ start, fs.searchStart file baseDir = .ok start ∧
          fs.FoundOnChain editorConfigName false start.ancestors found)) ∧
    ∀ (fs : FileSystem) (file : Path) (baseDir : Option Path) (start : Path),
      fs.searchStart file baseDir = .ok start →
        start.locationFrom [] = fs.searchLocation file baseDir ∧
        ∀ a ∈ start.ancestors, a.locationFrom [] <+: fs.searchLocation file baseDir :=
  ⟨fun _ start _ _ found => findUpward_eq_some_iff start found,
    fun _ file baseDir found =>
      ⟨searchStart_bind_findUpward_eq_some_iff file baseDir found,
        searchStart_bind_findUpward_eq_some_iff file baseDir found⟩,
    fun _ _ _ _ h => searchStart_chain h⟩

/-- From `/r`, the search for `a/../b.ts` starts at `/r`. -/
theorem config_search_takes_nearest_on_chain_from_r :
    FileSystem.searchStart { nodes := [], cwd := ["r"] } ⟨"a/../b.ts"⟩ none = .ok ⟨"/r"⟩ ∧
      (⟨"/r"⟩ : Path).locationFrom [] =
        FileSystem.searchLocation { nodes := [], cwd := ["r"] } ⟨"a/../b.ts"⟩ none := by
  have h : FileSystem.searchStart { nodes := [], cwd := ["r"] } ⟨"a/../b.ts"⟩ none = .ok ⟨"/r"⟩ :=
    eq_ok_of_toOption_eq_some (by decide +kernel)
  exact ⟨h, (config_search_takes_nearest_on_chain.2.2 _ _ _ _ h).1⟩

end FileSystem

end FormatConfig
