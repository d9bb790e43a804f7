import FormatConfig.Proofs.WildcardMatch

/-!
# The wildcard walk terminates

A wildcard walk lists a directory through a function, adds the files it keeps and then walks
each subdirectory it enters. Nothing in the walk bounds how deep it goes: the listing does.
The walk here runs on fuel, and this module shows that the fuel is never what stops it.

`Walk.subdirs` names the directories a walk of `dir` descends into, and `walk_succ` says that
one more level of fuel is the directory's files followed by a walk of each of those: they are
exactly the walk's calls. Over a listing that gives single names and fills finitely many
directories `dirs`, each call goes to a listed subdirectory one component deeper
(`components_of_mem_subdirs`), and a directory whose listing is empty makes none
(`listing_ne_of_mem_subdirs`). So every caller lies no deeper than the deepest of `dirs`, the
depth remaining below it falls at each call (`remainingDepth_lt_of_mem_subdirs`), the calls are
well founded (`wellFounded_subdirs`), and any fuel above the remaining depth gives the same walk
(`walk_eq_of_remainingDepth_lt`).
-/

namespace FormatConfig

namespace Manifest

namespace Walk

/-- The directories a walk of `dir` descends into, in listing order: the subdirectories that
are not hidden (unless the walk enters hidden entries), are no package directory the pattern
does not mention, and lie below the root at a relative path that is not excluded. -/
def subdirs (w : Walk) (incl : Glob.Pattern) (dir : Path) : List Path :=
  (w.listing dir).directories.filterMap fun name =>
    if !w.enterHidden && name.startsWith "." then none
    else if packageDirectories.contains name && !containsText incl.source name then none
    else ((dir.joinText name).relativeSlashText? w.root).bind fun rel =>
      if w.isExcluded rel then none else some (dir.joinText name)

/-- The depth of the deepest of `dirs`: the most components any of them has. -/
def deepest (dirs : List Path) : Nat := ((dirs.map fun d => d.components.length).max?).getD 0

/-- How many components a walk of `dir` may still add before it passes the deepest of
`dirs`. -/
def remainingDepth (dirs : List Path) (dir : Path) : Nat :=
  deepest dirs + 1 - dir.components.length

theorem length_components_le_deepest {dirs : List Path} {d : Path} (h : d ∈ dirs) :
    d.components.length ≤ deepest dirs :=
  List.le_max?_getD_of_mem (List.mem_map_of_mem h)

variable {w : Walk} {incl : Glob.Pattern}

/-- One more level of fuel: the directory's files, as a walk of one level adds them, then a
walk of every directory it enters, in order. -/
theorem walk_succ (n : Nat) (dir : Path) (acc : List Path × List Path) :
    w.walk incl (n + 1) dir acc =
      (w.subdirs incl dir).foldl (fun acc p => w.walk incl n p acc) (w.walk incl 1 dir acc) := by
  -- every fuel runs the same files step, then walks the subdirectories with one level less
  obtain ⟨files, hfiles⟩ : ∃ files, ∀ k, w.walk incl (k + 1) dir acc =
      (w.subdirs incl dir).foldl (fun acc p => w.walk incl k p acc) files := by
    apply Exists.intro
    intro k
    rw [walk, subdirs, List.foldl_filterMap]
    refine List.foldl_ext _ _ _ fun acc name _ => ?_
    by_cases hhidden : (!w.enterHidden && name.startsWith ".") = true
    · simp only [hhidden, if_true]
    by_cases hpkg : (packageDirectories.contains name && !containsText incl.source name) = true
    · simp only [hhidden, hpkg, Bool.false_eq_true, if_true, if_false]
    simp only [hhidden, hpkg, Bool.false_eq_true, if_false]
    cases hrel : (dir.joinText name).relativeSlashText? w.root with
    | none => rfl
    | some rel => by_cases hexcl : w.isExcluded rel = true <;> simp [hexcl]
  -- with no fuel left the subdirectories add nothing, so one level is the files step
  have hone : w.walk incl 1 dir acc = files :=
    (hfiles 0).trans (List.foldl_fixed' (fun _ => rfl) _)
  rw [hfiles n, hone]

/-- Every directory a walk enters is one of the listed subdirectories, joined to `dir`. -/
theorem exists_name_of_mem_subdirs {dir p : Path} (h : p ∈ w.subdirs incl dir) :
    ∃ name ∈ (w.listing dir).directories, p = dir.joinText name := by
  obtain ⟨name, hname, hp⟩ := List.mem_filterMap.1 h
  refine ⟨name, hname, ?_⟩
  split at hp
  · cases hp
  split at hp
  · cases hp
  obtain ⟨rel, -, hrel⟩ := Option.bind_eq_some_iff.1 hp
  split at hrel
  · cases hrel
  · exact (Option.some.inj hrel).symm

/-- A directory whose listing is empty makes no call. -/
theorem listing_ne_of_mem_subdirs {dir p : Path} (h : p ∈ w.subdirs incl dir) :
    w.listing dir ≠ {} := by
  intro hempty
  obtain ⟨name, hname, -⟩ := exists_name_of_mem_subdirs h
  simp [hempty] at hname

/-- Over a listing of single names, a call goes one component deeper than its caller. -/
theorem components_of_mem_subdirs (hnames : ListsNames w.listing) {dir p : Path}
    (h : p ∈ w.subdirs incl dir) :
    ∃ name ∈ (w.listing dir).directories,
      p = dir.joinText name ∧ p.components = dir.components ++ [.normal name] := by
  obtain ⟨name, hname, rfl⟩ := exists_name_of_mem_subdirs h
  exact ⟨name, hname, rfl,
    Path.components_joinText dir (hnames dir name (List.mem_append_right _ hname))⟩

section Finite

variable {dirs : List Path} (hnames : ListsNames w.listing)
  (hfin : ∀ d, w.listing d ≠ {} → d ∈ dirs)
include hnames hfin

/-- Each call goes one component deeper from a caller no deeper than the deepest of `dirs`,
so the depth remaining falls. -/
theorem remainingDepth_lt_of_mem_subdirs {dir p : Path} (h : p ∈ w.subdirs incl dir) :
    remainingDepth dirs p < remainingDepth dirs dir := by
  obtain ⟨name, -, -, hcomp⟩ := components_of_mem_subdirs hnames h
  have hle := length_components_le_deepest (hfin dir (listing_ne_of_mem_subdirs h))
  simp only [remainingDepth, hcomp, List.length_append, List.length_singleton]
  omega

/-- No chain of nested calls of the walk goes on forever. -/
theorem wellFounded_subdirs : WellFounded fun p dir => p ∈ w.subdirs incl dir :=
  Subrelation.wf (fun h => remainingDepth_lt_of_mem_subdirs hnames hfin h)
    (measure (remainingDepth dirs)).wf

/-- Fuel above the depth remaining below a directory is never used up: every such fuel gives
the same walk. The induction is on the fuel; one level is the files and then a walk of each
subdirectory entered (`walk_succ`), each with less depth remaining. -/
theorem walk_eq_of_remainingDepth_lt :
    ∀ (n m : Nat) (dir : Path) (acc : List Path × List Path),
      remainingDepth dirs dir < n → remainingDepth dirs dir < m →
        w.walk incl n dir acc = w.walk incl m dir acc
  | 0, _, _, _, hn, _ => absurd hn (Nat.not_lt_zero _)
  | _ + 1, 0, _, _, _, hm => absurd hm (Nat.not_lt_zero _)
  | n + 1, m + 1, dir, acc, hn, hm => by
    rw [walk_succ n, walk_succ m]
    refine List.foldl_ext _ _ _ fun acc p hp => ?_
    have hlt := remainingDepth_lt_of_mem_subdirs hnames hfin hp
    exact walk_eq_of_remainingDepth_lt n m p acc (by omega) (by omega)

end Finite

end Walk

/-- **The wildcard walk terminates.** Take any walk (root, extensions, excludes, options and
whether hidden entries are entered), any include pattern, and a listing that gives single
names and fills finitely many directories `dirs`. One more level of the walk is the
directory's files and then a walk of each directory it enters; each of those calls goes to a
listed subdirectory, one component deeper; and only a directory whose listing is not empty
makes calls, so none is made from below the deepest of `dirs`. The calls are therefore well
founded, and a walk given more fuel than the depth remaining below its directory is the same
for every such fuel. -/
theorem walk_terminates_one_component_deeper (w : Walk) (incl : Glob.Pattern)
    (hnames : ListsNames w.listing) (dirs : List Path) (hfin : ∀ d, w.listing d ≠ {} → d ∈ dirs) :
    (∀ n dir acc, w.walk incl (n + 1) dir acc =
      (w.subdirs incl dir).foldl (fun acc p => w.walk incl n p acc) (w.walk incl 1 dir acc)) ∧
    (∀ dir p, p ∈ w.subdirs incl dir → ∃ name ∈ (w.listing dir).directories,
      p = dir.joinText name ∧ p.components = dir.components ++ [.normal name]) ∧
    (∀ dir p, p ∈ w.subdirs incl dir →
      w.listing dir ≠ {} ∧ dir.components.length ≤ Walk.deepest dirs) ∧
    WellFounded (fun p dir => p ∈ w.subdirs incl dir) ∧
    (∀ dir acc n, Walk.remainingDepth dirs dir < n →
      w.walk incl n dir acc = w.walk incl (Walk.remainingDepth dirs dir + 1) dir acc) := by
  refine ⟨Walk.walk_succ, fun dir p h => Walk.components_of_mem_subdirs hnames h,
    fun dir p h => ?_, Walk.wellFounded_subdirs hnames hfin, fun dir acc n hn =>
      Walk.walk_eq_of_remainingDepth_lt hnames hfin n _ dir acc hn (by omega)⟩
  have hlisted := Walk.listing_ne_of_mem_subdirs h
  exact ⟨hlisted, Walk.length_components_le_deepest (hfin dir hlisted)⟩

/-- A root with one subdirectory that holds one file: the listing gives names and fills two
directories, so the walk's calls are well founded and three levels of fuel are enough. -/
theorem walk_terminates_one_component_deeper_nested :
    let listing : Path → DirListing := fun d =>
      if d = ⟨"/p"⟩ then { directories := ["s"] }
      else if d = ⟨"/p/s"⟩ then { files := ["a.ts"] } else {}
    let w : Walk := { root := ⟨"/p"⟩, extensions := [".ts"], excludes := [],
                      options := selectOptions true, enterHidden := false, listing }
    let incl : Glob.Pattern := ⟨"s/a.ts", "s/a.ts".toList.map .char, false⟩
    ListsNames w.listing ∧ (∀ d, w.listing d ≠ {} → d ∈ [⟨"/p"⟩, ⟨"/p/s"⟩]) ∧
      WellFounded (fun p dir => p ∈ w.subdirs incl dir) ∧
      ∀ dir acc n, Walk.remainingDepth [⟨"/p"⟩, ⟨"/p/s"⟩] dir < n →
        w.walk incl n dir acc =
          w.walk incl (Walk.remainingDepth [⟨"/p"⟩, ⟨"/p/s"⟩] dir + 1) dir acc := by
  intro listing w incl
  have hnames : ListsNames w.listing := by
    intro dir n hn
    by_cases hroot : dir = ⟨"/p"⟩
    · simp only [w, listing, hroot, if_true, List.nil_append, List.mem_singleton] at hn
      subst hn
      exact ⟨by decide, by decide, by decide, by decide⟩
    by_cases hsub : dir = ⟨"/p/s"⟩
    · have hne : (⟨"/p/s"⟩ : Path) ≠ ⟨"/p"⟩ := by decide
      simp only [w, listing, hsub, hne, if_true, if_false, List.append_nil,
        List.mem_singleton] at hn
      subst hn
      exact ⟨by decide, by decide, by decide, by decide⟩
    · simp [w, listing, hroot, hsub] at hn
  have hfin : ∀ d, w.listing d ≠ {} → d ∈ [⟨"/p"⟩, ⟨"/p/s"⟩] := by
    intro d hd
    by_cases hroot : d = ⟨"/p"⟩
    · simp [hroot]
    by_cases hsub : d = ⟨"/p/s"⟩
    · simp [hsub]
    · simp [w, listing, hroot, hsub] at hd
  obtain ⟨-, -, -, hwf, hfuel⟩ := walk_terminates_one_component_deeper w incl hnames _ hfin
  exact ⟨hnames, hfin, hwf, hfuel⟩

end Manifest

end FormatConfig
