import FormatConfig.Manifest.Select
import FormatConfig.Proofs.PathJoin

/-!
# Wildcard matching as a filter over the tree

Wildcard matching walks the tree below its root once per include pattern, pruning hidden,
package and excluded directories on the way, and shares one list of the files seen so far
between the walks. This module states what comes out without any walk: list every file
reachable through the listing in depth-first pre-order (a directory's files, then its
subdirectories, each in listing order), and for each include pattern in turn keep the
files that

* (a) end with a wanted extension, compared in lower case when matching ignores case;
* (b) match the include pattern with their path relative to the root;
* (c) have no relative path of theirs or of a directory above them matched by an exclude;
* (d) have no name starting with a dot, unless the include names such an entry;
* (e) sit below no package directory that the include does not mention;

listing each file once, where it is first kept (`selectedFiles`). The walk returns exactly
this list when every pattern compiles, and the error of the first that does not otherwise
(`matchFiles_eq_selectedFiles`); the fuel that bounds the walk only matters below the number
of directories the listing fills (`reachableFiles_eq_of_length_lt`).

The proof follows the walk. A file's verdict depends only on the names leading to it, so
one fuel step of the walk (files first, then each subdirectory) matches one level of the
enumeration; pruning a directory drops only files that some condition rejects anyway; and
the list of files seen so far computes first occurrences, as `List.eraseDups` does.
-/

namespace FormatConfig

namespace Manifest

/-- A file below the root of a walk: the names of the directories leading to it, outermost
first, and its own name. -/
structure TreeFile where
  dirs : List String
  name : String
deriving DecidableEq, Repr

namespace TreeFile

/-- All the names from the root to the file, its own last. -/
def names (f : TreeFile) : List String := f.dirs ++ [f.name]

/-- The file's path relative to the root: its names joined by slashes. -/
def relative (f : TreeFile) : String := "/".intercalate f.names

/-- The relative path of the `k + 1` outermost names: of a directory above the file, or of
the file itself. -/
def prefixText (f : TreeFile) (k : Nat) : String := "/".intercalate (f.names.take (k + 1))

/-- The file's path below `root`. -/
def path (root : Path) (f : TreeFile) : Path := root.joinNames f.names

/-- The same file seen from the directory above: one more directory leading to it. -/
def under (d : String) (f : TreeFile) : TreeFile := ⟨d :: f.dirs, f.name⟩

/-- The same file seen from further up, below the directories `ds`. -/
def below (ds : List String) (f : TreeFile) : TreeFile := ⟨ds ++ f.dirs, f.name⟩

end TreeFile

/-- Every file reachable from `dir` within `fuel` levels, in depth-first pre-order: the
directory's files in listing order, then the files below each subdirectory in listing
order. -/
def reachableFiles (listing : Path → DirListing) : Nat → Path → List TreeFile
  | 0, _ => []
  | fuel + 1, dir =>
    (listing dir).files.map (TreeFile.mk []) ++
      (listing dir).directories.flatMap fun d =>
        (reachableFiles listing fuel (dir.joinText d)).map (TreeFile.under d)

/-- The root a request walks. -/
def MatchRequest.root (req : MatchRequest) : Path :=
  Path.normalize (req.currentDirectory.join req.path)

/-- The include patterns a request walks with: everything when it gives none, and each
given pattern with a leading `./` removed and a directory widened to what is below it. -/
def MatchRequest.effectiveIncludes (req : MatchRequest) : List String :=
  if req.includes.isEmpty then ["**/*"]
  else req.includes.map fun i => includePattern (stripDotSlash i)

/-- The conditions under which the include pattern `incl` keeps a file. -/
structure Keeps (req : MatchRequest) (excludes : List Glob.Pattern) (incl : Glob.Pattern)
    (f : TreeFile) : Prop where
  extension : ∃ ext ∈ req.extensions,
    if req.caseSensitive then f.name.endsWith ext = true
    else (Unicode.toLower f.name).endsWith (Unicode.toLower ext) = true
  included : incl.matchesWith f.relative (selectOptions req.caseSensitive) = true
  notExcluded : ∀ k < f.names.length, ∀ e ∈ excludes,
    e.matchesWith (f.prefixText k) (selectOptions req.caseSensitive) = false
  visible : namesHiddenEntry incl.source = true ∨ ∀ n ∈ f.names, n.startsWith "." = false
  packagesNamed : ∀ d ∈ f.dirs, d ∈ packageDirectories → containsText incl.source d = true

instance (req : MatchRequest) (excludes : List Glob.Pattern) (incl : Glob.Pattern)
    (f : TreeFile) : Decidable (Keeps req excludes incl f) :=
  decidable_of_iff (_ ∧ _ ∧ _ ∧ _ ∧ _)
    ⟨fun ⟨a, b, c, d, e⟩ => ⟨a, b, c, d, e⟩, fun ⟨a, b, c, d, e⟩ => ⟨a, b, c, d, e⟩⟩

/-- The files wildcard matching selects with compiled `excludes` and `includes`, walking
`fuel` levels deep: for each include in turn, the reachable files it keeps, each file
listed once, where it is first kept. -/
def selectedFiles (req : MatchRequest) (listing : Path → DirListing) (fuel : Nat)
    (excludes includes : List Glob.Pattern) : List Path :=
  ((includes.flatMap fun incl =>
      (reachableFiles listing fuel req.root).filter fun f => decide (Keeps req excludes incl f)
    ).eraseDups).map (TreeFile.path req.root)

/-- Every name a listing gives is a single normal component. -/
def ListsNames (listing : Path → DirListing) : Prop :=
  ∀ dir, ∀ n ∈ (listing dir).files ++ (listing dir).directories, Path.IsName n

/-! ## The enumeration -/

section Enumeration

variable {listing : Path → DirListing}

theorem TreeFile.names_under (d : String) (f : TreeFile) :
    (f.under d).names = d :: f.names := by
  simp [under, names]

theorem TreeFile.below_under (ds : List String) (d : String) (f : TreeFile) :
    (f.under d).below ds = f.below (ds ++ [d]) := by
  simp [under, below]

theorem TreeFile.names_below (ds : List String) (f : TreeFile) :
    (f.below ds).names = ds ++ f.names := by
  simp [below, names]

@[simp] theorem TreeFile.below_nil : TreeFile.below [] = id := by
  funext f
  rfl

theorem TreeFile.names_inj {f g : TreeFile} (h : f.names = g.names) : f = g := by
  obtain ⟨hdirs, hname⟩ := List.append_inj' h rfl
  cases f
  cases g
  simp_all

theorem mem_reachableFiles_succ {n : Nat} {dir : Path} {f : TreeFile} :
    f ∈ reachableFiles listing (n + 1) dir ↔
      (f.dirs = [] ∧ f.name ∈ (listing dir).files) ∨
      ∃ d ∈ (listing dir).directories, ∃ g ∈ reachableFiles listing n (dir.joinText d),
        f = g.under d := by
  constructor
  · intro hf
    rcases List.mem_append.1 hf with hfile | hdir
    · obtain ⟨name, hname, rfl⟩ := List.mem_map.1 hfile
      exact .inl ⟨rfl, hname⟩
    · obtain ⟨d, hd, hg⟩ := List.mem_flatMap.1 hdir
      obtain ⟨g, hmem, rfl⟩ := List.mem_map.1 hg
      exact .inr ⟨d, hd, g, hmem, rfl⟩
  · rintro (⟨hdirs, hname⟩ | ⟨d, hd, g, hg, rfl⟩)
    · refine List.mem_append_left _ (List.mem_map.2 ⟨f.name, hname, ?_⟩)
      cases f
      simp_all
    · exact List.mem_append_right _ (List.mem_flatMap.2 ⟨d, hd, List.mem_map_of_mem hg⟩)

/-- The names leading to a reachable file come from the listing, so they are names. -/
theorem names_isName_of_mem_reachableFiles (hnames : ListsNames listing) :
    ∀ {n : Nat} {dir : Path} {f : TreeFile}, f ∈ reachableFiles listing n dir →
      ∀ m ∈ f.names, Path.IsName m
  | 0, _, _, hf => by simp [reachableFiles] at hf
  | n + 1, dir, f, hf => by
    rcases mem_reachableFiles_succ.1 hf with ⟨hdirs, hname⟩ | ⟨d, hd, g, hg, rfl⟩
    · intro m hm
      have hm' : m = f.name := by simpa [TreeFile.names, hdirs] using hm
      exact hm' ▸ hnames dir f.name (List.mem_append_left _ hname)
    · intro m hm
      rcases List.mem_cons.1 (TreeFile.names_under d g ▸ hm) with rfl | hm
      · exact hnames dir m (List.mem_append_right _ hd)
      · exact names_isName_of_mem_reachableFiles hnames hg m hm

end Enumeration

/-! ## Exclusion of a path or a directory above it -/

namespace Walk

/-- One step of `Walk.isExcluded`: extend the prefix by a piece and test it. -/
def exclusionStep (w : Walk) (acc : String × Bool) (part : String) : String × Bool :=
  let joined := if acc.1.isEmpty then part else acc.1 ++ "/" ++ part
  (joined, acc.2 || w.excludes.any (·.matchesWith joined w.options))

theorem isExcluded_eq_foldl (w : Walk) (relative : String) :
    w.isExcluded relative = ((Path.slashPieces relative).foldl w.exclusionStep ("", false)).2 :=
  rfl

theorem intercalate_isEmpty {pre : List String} (h : ∀ n ∈ pre, n ≠ "") :
    ("/".intercalate pre).isEmpty = pre.isEmpty := by
  cases pre with
  | nil => rfl
  | cons n rest =>
    have hn : n.toList ≠ [] := by simpa [String.toList_eq_nil_iff] using h n (by simp)
    cases rest <;> simp_all [← String.toList_eq_nil_iff]

theorem exclusionStep_intercalate (w : Walk) {pre : List String} (h : ∀ n ∈ pre, n ≠ "")
    (b : Bool) (part : String) :
    w.exclusionStep ("/".intercalate pre, b) part =
      ("/".intercalate (pre ++ [part]),
        b || w.excludes.any (·.matchesWith ("/".intercalate (pre ++ [part])) w.options)) := by
  have hjoined : (if ("/".intercalate pre).isEmpty then part else "/".intercalate pre ++ "/" ++ part)
      = "/".intercalate (pre ++ [part]) := by
    rw [intercalate_isEmpty h]
    cases pre with
    | nil => simp
    | cons n rest =>
      rw [String.intercalate_append_of_ne_nil (by simp) (by simp), String.intercalate_singleton]
      simp
  simp only [exclusionStep, hjoined]

/-- The fold behind `isExcluded` tests every slash-joined prefix of the pieces after `pre`. -/
theorem foldl_exclusionStep (w : Walk) {names : List String} (hnames : ∀ n ∈ names, n ≠ "") :
    ∀ (pre : List String), (∀ n ∈ pre, n ≠ "") → ∀ b : Bool,
      (names.foldl w.exclusionStep ("/".intercalate pre, b)).2 = true ↔
        b = true ∨ ∃ k < names.length, ∃ e ∈ w.excludes,
          e.matchesWith ("/".intercalate (pre ++ names.take (k + 1))) w.options = true := by
  induction names with
  | nil => simp
  | cons n rest ih =>
    intro pre hpre b
    have hn : n ≠ "" := hnames n (by simp)
    have hpre' : ∀ m ∈ pre ++ [n], m ≠ "" := by
      simpa [or_imp, forall_and] using ⟨hpre, hn⟩
    rw [List.foldl_cons, exclusionStep_intercalate w hpre,
      ih (fun m hm => hnames m (by simp [hm])) (pre ++ [n]) hpre', Bool.or_eq_true,
      List.any_eq_true]
    constructor
    · rintro ((hb | ⟨e, he, hm⟩) | ⟨k, hk, e, he, hm⟩)
      · exact .inl hb
      · exact .inr ⟨0, by simp, e, he, by simpa using hm⟩
      · exact .inr ⟨k + 1, by simpa using hk, e, he, by simpa using hm⟩
    · rintro (hb | ⟨k, hk, e, he, hm⟩)
      · simp [hb]
      · cases k with
        | zero => exact .inl (.inr ⟨e, he, by simpa using hm⟩)
        | succ k =>
          exact .inr ⟨k, by simpa using hk, e, he, by simpa using hm⟩

/-- A relative path built from names is excluded exactly when an exclude pattern matches
the path of the names so far, for some number of names. -/
theorem isExcluded_intercalate (w : Walk) {names : List String}
    (h : ∀ n ∈ names, Path.IsName n) (hne : names ≠ []) :
    w.isExcluded ("/".intercalate names) = true ↔
      ∃ k < names.length, ∃ e ∈ w.excludes,
        e.matchesWith ("/".intercalate (names.take (k + 1))) w.options = true := by
  rw [isExcluded_eq_foldl,
    Path.slashPieces_intercalate (fun n hn => (h n hn).no_slash) hne]
  simpa using foldl_exclusionStep w (fun n hn => (h n hn).ne_empty) [] (by simp) false

end Walk

/-! ## Files seen so far -/

/-- What the walk does with a file it keeps: list it, unless a file with the same
components is listed already. The first list holds the files seen, newest first; the
second, the answer so far. -/
def addFile (acc : List Path × List Path) (p : Path) : List Path × List Path :=
  if acc.1.any (·.sameComponents p) then acc else (p :: acc.1, acc.2 ++ [p])

/-- Adds, in order, the files of a list that the include pattern `incl` keeps. -/
def addKept (req : MatchRequest) (excludes : List Glob.Pattern) (incl : Glob.Pattern)
    (acc : List Path × List Path) (fs : List TreeFile) : List Path × List Path :=
  ((fs.filter fun f => decide (Keeps req excludes incl f)).map (TreeFile.path req.root)).foldl
    addFile acc

section Seen

variable (root : Path)

/-- Below one root, two files have paths with the same components exactly when they are
the same file. -/
theorem sameComponents_path {f g : TreeFile} (hf : ∀ n ∈ f.names, Path.IsName n)
    (hg : ∀ n ∈ g.names, Path.IsName n) :
    (f.path root).sameComponents (g.path root) = (g == f) := by
  rw [TreeFile.path, TreeFile.path, Path.sameComponents_joinNames root hf hg]
  apply Bool.eq_iff_iff.2
  simp only [beq_iff_eq]
  exact ⟨fun h => (TreeFile.names_inj h).symm, fun h => h ▸ rfl⟩

/-- Adding files to a seen list computes first occurrences, as `List.eraseDups` does
with its own list of the elements kept so far, newest first. -/
theorem foldl_addFile (xs : List TreeFile) :
    ∀ (bs : List TreeFile), (∀ f ∈ xs ++ bs, ∀ n ∈ f.names, Path.IsName n) →
      (xs.map (TreeFile.path root)).foldl addFile
          (bs.map (TreeFile.path root), bs.reverse.map (TreeFile.path root)) =
        ((List.eraseDupsBy.loop (· == ·) xs bs).reverse.map (TreeFile.path root),
          (List.eraseDupsBy.loop (· == ·) xs bs).map (TreeFile.path root)) := by
  induction xs with
  | nil => intro bs _; simp [List.eraseDupsBy.loop]
  | cons x xs ih =>
    intro bs hvalid
    have hx : ∀ n ∈ x.names, Path.IsName n := hvalid x (by simp)
    have hseen : (bs.map (TreeFile.path root)).any (·.sameComponents (x.path root)) =
        bs.any (x == ·) := by
      apply Bool.eq_iff_iff.2
      simp only [List.any_map, List.any_eq_true, Function.comp_apply]
      refine exists_congr fun b => and_congr_right fun hb => ?_
      rw [sameComponents_path root (hvalid b (by simp [hb])) hx]
    rw [List.map_cons, List.foldl_cons, addFile, hseen, List.eraseDupsBy.loop]
    cases hany : bs.any (x == ·)
    · have hrest : ∀ f ∈ xs ++ x :: bs, ∀ n ∈ f.names, Path.IsName n :=
        fun f hf => hvalid f (by simp only [List.mem_append, List.mem_cons] at hf ⊢; tauto)
      simpa using ih (x :: bs) hrest
    · exact ih bs fun f hf => hvalid f (by simp only [List.mem_append, List.mem_cons] at hf ⊢; tauto)

/-- Starting from nothing seen, the answer is the files' first occurrences. -/
theorem foldl_addFile_nil (xs : List TreeFile) (hvalid : ∀ f ∈ xs, ∀ n ∈ f.names, Path.IsName n) :
    ((xs.map (TreeFile.path root)).foldl addFile ([], [])).2 = xs.eraseDups.map (TreeFile.path root) := by
  have h := foldl_addFile root xs [] (by simpa using hvalid)
  simp only [List.map_nil, List.reverse_nil] at h
  rw [h]
  rfl

end Seen

theorem addKept_append (req : MatchRequest) (excludes : List Glob.Pattern)
    (incl : Glob.Pattern) (acc : List Path × List Path) (xs ys : List TreeFile) :
    addKept req excludes incl acc (xs ++ ys) =
      addKept req excludes incl (addKept req excludes incl acc xs) ys := by
  simp [addKept, List.filter_append, List.foldl_append]

theorem addKept_flatMap (req : MatchRequest) (excludes : List Glob.Pattern)
    (incl : Glob.Pattern) (acc : List Path × List Path) {α : Type} (l : List α)
    (g : α → List TreeFile) :
    addKept req excludes incl acc (l.flatMap g) =
      l.foldl (fun acc x => addKept req excludes incl acc (g x)) acc := by
  induction l generalizing acc with
  | nil => rfl
  | cons x l ih => rw [List.flatMap_cons, addKept_append, ih, List.foldl_cons]

theorem addKept_map (req : MatchRequest) (excludes : List Glob.Pattern)
    (incl : Glob.Pattern) (acc : List Path × List Path) {α : Type} (l : List α)
    (g : α → TreeFile) :
    addKept req excludes incl acc (l.map g) =
      l.foldl (fun acc x => addKept req excludes incl acc [g x]) acc := by
  induction l generalizing acc with
  | nil => rfl
  | cons x l ih => rw [List.map_cons, ← List.singleton_append, addKept_append, ih, List.foldl_cons]

theorem addKept_singleton (req : MatchRequest) (excludes : List Glob.Pattern)
    (incl : Glob.Pattern) (acc : List Path × List Path) (f : TreeFile) :
    addKept req excludes incl acc [f] =
      if Keeps req excludes incl f then addFile acc (f.path req.root) else acc := by
  by_cases hk : Keeps req excludes incl f <;> simp [addKept, hk]

/-- Files none of which is kept add nothing. -/
theorem addKept_of_not_keeps (req : MatchRequest) (excludes : List Glob.Pattern)
    (incl : Glob.Pattern) (acc : List Path × List Path) {fs : List TreeFile}
    (h : ∀ f ∈ fs, ¬Keeps req excludes incl f) : addKept req excludes incl acc fs = acc := by
  have hnil : fs.filter (fun f => decide (Keeps req excludes incl f)) = [] :=
    List.filter_eq_nil_iff.2 fun f hf => by simpa using h f hf
  simp [addKept, hnil]

/-! ## One walk -/

/-- The walk matching runs for one compiled include pattern. -/
def MatchRequest.walkFor (req : MatchRequest) (listing : Path → DirListing)
    (excludes : List Glob.Pattern) (incl : Glob.Pattern) : Walk :=
  { root := req.root, extensions := req.extensions, excludes,
    options := selectOptions req.caseSensitive, enterHidden := namesHiddenEntry incl.source,
    listing }

/-- The walk for `incl` may enter the directories `ds`: none is hidden unless the pattern
names a hidden entry, and the pattern mentions each package directory among them. -/
def Entered (incl : Glob.Pattern) (ds : List String) : Prop :=
  (namesHiddenEntry incl.source = true ∨ ∀ n ∈ ds, n.startsWith "." = false) ∧
    ∀ d ∈ ds, d ∈ packageDirectories → containsText incl.source d = true

section Walk

variable {req : MatchRequest} {listing : Path → DirListing} {excludes : List Glob.Pattern}
  {incl : Glob.Pattern}

@[simp] theorem walkFor_root : (req.walkFor listing excludes incl).root = req.root := rfl

@[simp] theorem walkFor_options :
    (req.walkFor listing excludes incl).options = selectOptions req.caseSensitive := rfl

@[simp] theorem walkFor_enterHidden :
    (req.walkFor listing excludes incl).enterHidden = namesHiddenEntry incl.source := rfl

@[simp] theorem walkFor_listing : (req.walkFor listing excludes incl).listing = listing := rfl

theorem not_keeps_of_hidden {f : TreeFile} {d : String} (hd : d ∈ f.names)
    (hhidden : namesHiddenEntry incl.source = false) (hdot : d.startsWith "." = true) :
    ¬Keeps req excludes incl f := fun hk => by
  rcases hk.visible with h | h
  · simp [hhidden] at h
  · simp [h d hd] at hdot

theorem not_keeps_of_package {f : TreeFile} {d : String} (hd : d ∈ f.dirs)
    (hpkg : d ∈ packageDirectories) (hnamed : containsText incl.source d = false) :
    ¬Keeps req excludes incl f := fun hk => by
  simp [hk.packagesNamed d hd hpkg] at hnamed

/-- A file below an excluded directory, or itself excluded, is not kept. -/
theorem not_keeps_of_excluded {f : TreeFile} {ds rest : List String}
    (hnames : f.names = ds ++ rest) (hds : ∀ d ∈ ds, Path.IsName d) (hne : ds ≠ [])
    (hexcl : (req.walkFor listing excludes incl).isExcluded ("/".intercalate ds) = true) :
    ¬Keeps req excludes incl f := fun hk => by
  obtain ⟨k, hk', e, he, hm⟩ := (Walk.isExcluded_intercalate _ hds hne).1 hexcl
  have hjoined : f.prefixText k = "/".intercalate (ds.take (k + 1)) := by
    rw [TreeFile.prefixText, hnames, List.take_append_of_le_length (by omega)]
  have hlen : k < f.names.length := by
    rw [hnames, List.length_append]
    omega
  have hkept := hk.notExcluded k hlen e he
  rw [hjoined] at hkept
  simp [MatchRequest.walkFor, hkept] at hm

/-- Below entered directories, a file's verdict is what the walk tests for it. -/
theorem keeps_iff (listing : Path → DirListing) {ds : List String} {name : String}
    (hentered : Entered incl ds)
    (hvalid : ∀ n ∈ ds ++ [name], Path.IsName n) :
    Keeps req excludes incl ⟨ds, name⟩ ↔
      ¬(namesHiddenEntry incl.source = false ∧ name.startsWith "." = true) ∧
        ((req.walkFor listing excludes incl).hasExtension name &&
          incl.matchesWith ("/".intercalate (ds ++ [name]))
            (req.walkFor listing excludes incl).options &&
          !(req.walkFor listing excludes incl).isExcluded ("/".intercalate (ds ++ [name]))) =
          true := by
  have hext : (req.walkFor listing excludes incl).hasExtension name = true ↔
      ∃ ext ∈ req.extensions, if req.caseSensitive then name.endsWith ext = true
        else (Unicode.toLower name).endsWith (Unicode.toLower ext) = true := by
    simp only [Walk.hasExtension, MatchRequest.walkFor, selectOptions, List.any_eq_true]
    refine exists_congr fun ext => and_congr_right fun _ => ?_
    by_cases hcase : req.caseSensitive = true <;> simp [hcase]
  have hexcl : (req.walkFor listing excludes incl).isExcluded ("/".intercalate (ds ++ [name])) =
      false ↔ ∀ k < (ds ++ [name]).length, ∀ e ∈ excludes,
        e.matchesWith ("/".intercalate ((ds ++ [name]).take (k + 1)))
          (selectOptions req.caseSensitive) = false := by
    rw [← Bool.not_eq_true, Walk.isExcluded_intercalate _ hvalid (by simp)]
    simp [MatchRequest.walkFor]
  simp only [Bool.and_eq_true, Bool.not_eq_true', hext, hexcl, walkFor_options]
  constructor
  · intro hk
    refine ⟨fun ⟨hhidden, hdot⟩ => not_keeps_of_hidden (by simp [TreeFile.names]) hhidden hdot hk,
      ⟨hk.extension, hk.included⟩, hk.notExcluded⟩
  · rintro ⟨hvisible, ⟨hx, hinc⟩, hnot⟩
    refine ⟨hx, hinc, hnot, ?_, hentered.2⟩
    rcases hentered.1 with h | h
    · exact .inl h
    · cases hhidden : namesHiddenEntry incl.source
      · refine .inr fun n hn => ?_
        rcases List.mem_append.1 hn with hn | hn
        · exact h n hn
        · rw [List.mem_singleton.1 hn]
          simpa [hhidden] using hvisible
      · exact .inl rfl

/-- An entry of a directory below the root has the names leading to it as relative path. -/
theorem relativeSlashText?_entry {ds : List String} {m : String}
    (hvalid : ∀ k ∈ ds ++ [m], Path.IsName k) :
    ((req.root.joinNames ds).joinText m).relativeSlashText?
      (req.walkFor listing excludes incl).root = some ("/".intercalate (ds ++ [m])) := by
  rw [← Path.joinNames_append_singleton]
  exact Path.relativeSlashText?_joinNames req.root hvalid

/-- One file of a directory: the walk adds it exactly when the pattern keeps it. -/
theorem walk_file_step {ds : List String} {name : String} (hentered : Entered incl ds)
    (hvalid : ∀ n ∈ ds ++ [name], Path.IsName n) (acc : List Path × List Path) :
    (if (!(req.walkFor listing excludes incl).enterHidden && name.startsWith ".") = true then acc
      else
        if ((req.walkFor listing excludes incl).hasExtension name &&
              incl.matchesWith ("/".intercalate (ds ++ [name]))
                (req.walkFor listing excludes incl).options &&
              !(req.walkFor listing excludes incl).isExcluded ("/".intercalate (ds ++ [name])) &&
              !acc.1.any (·.sameComponents ((req.root.joinNames ds).joinText name))) = true then
          ((req.root.joinNames ds).joinText name :: acc.1,
            acc.2 ++ [(req.root.joinNames ds).joinText name])
        else acc) =
      addKept req excludes incl acc [⟨ds, name⟩] := by
  have hpath : TreeFile.path req.root ⟨ds, name⟩ = (req.root.joinNames ds).joinText name := by
    simp [TreeFile.path, TreeFile.names]
  rw [addKept_singleton, hpath]
  by_cases hk : Keeps req excludes incl ⟨ds, name⟩
  · obtain ⟨hvisible, hcond⟩ := (keeps_iff listing hentered hvalid).1 hk
    rw [if_neg (by simpa using hvisible), if_pos hk, addFile]
    split
    · next hadd =>
      have hnew : acc.1.any (·.sameComponents ((req.root.joinNames ds).joinText name)) = false := by
        rwa [hcond, Bool.true_and, Bool.not_eq_true'] at hadd
      rw [if_neg (by simp [hnew])]
    · next hskip =>
      have hseen : acc.1.any (·.sameComponents ((req.root.joinNames ds).joinText name)) = true := by
        rw [hcond, Bool.true_and] at hskip
        simpa using hskip
      rw [if_pos hseen]
  · rw [if_neg hk]
    by_cases hskip : namesHiddenEntry incl.source = false ∧ name.startsWith "." = true
    · simp [hskip]
    · have hcond : ((req.walkFor listing excludes incl).hasExtension name &&
            incl.matchesWith ("/".intercalate (ds ++ [name]))
              (req.walkFor listing excludes incl).options &&
            !(req.walkFor listing excludes incl).isExcluded ("/".intercalate (ds ++ [name]))) =
            false :=
        Bool.eq_false_iff.2 fun h => hk ((keeps_iff listing hentered hvalid).2 ⟨hskip, h⟩)
      rw [if_neg (by simpa using hskip)]
      refine if_neg ?_
      rw [hcond, Bool.false_and]
      exact Bool.false_ne_true

/-- Entering one more directory that the walk does not skip keeps the walk entered. -/
theorem entered_append {ds : List String} {d : String} (hentered : Entered incl ds)
    (hvisible : ¬(namesHiddenEntry incl.source = false ∧ d.startsWith "." = true))
    (hnamed : ¬(d ∈ packageDirectories ∧ containsText incl.source d = false)) :
    Entered incl (ds ++ [d]) := by
  refine ⟨?_, fun d' hd' hpkg => ?_⟩
  · rcases hentered.1 with h | h
    · exact .inl h
    · cases hhidden : namesHiddenEntry incl.source
      · refine .inr fun n hn => ?_
        rcases List.mem_append.1 hn with hn | hn
        · exact h n hn
        · rw [List.mem_singleton.1 hn]
          simpa [hhidden] using hvisible
      · exact .inl rfl
  · rcases List.mem_append.1 hd' with hd' | hd'
    · exact hentered.2 d' hd' hpkg
    · rw [List.mem_singleton.1 hd'] at hpkg ⊢
      simpa [hpkg] using hnamed

/-- One subdirectory: the walk skips it exactly when the pattern keeps no file below it,
and otherwise walks it. -/
theorem walk_dir_step {n : Nat} {ds : List String} {d : String} (hentered : Entered incl ds)
    (hvalid : ∀ m ∈ ds ++ [d], Path.IsName m)
    (hwalk : Entered incl (ds ++ [d]) → ∀ acc,
      (req.walkFor listing excludes incl).walk incl n (req.root.joinNames (ds ++ [d])) acc =
        addKept req excludes incl acc
          ((reachableFiles listing n (req.root.joinNames (ds ++ [d]))).map
            (TreeFile.below (ds ++ [d]))))
    (acc : List Path × List Path) :
    (if (!(req.walkFor listing excludes incl).enterHidden && d.startsWith ".") = true then acc
      else if (packageDirectories.contains d && !containsText incl.source d) = true then acc
      else
        if (req.walkFor listing excludes incl).isExcluded ("/".intercalate (ds ++ [d])) = true
        then acc
        else (req.walkFor listing excludes incl).walk incl n ((req.root.joinNames ds).joinText d)
          acc) =
      addKept req excludes incl acc
        ((reachableFiles listing n ((req.root.joinNames ds).joinText d)).map
          (TreeFile.below (ds ++ [d]))) := by
  have hjoin : (req.root.joinNames ds).joinText d = req.root.joinNames (ds ++ [d]) :=
    (Path.joinNames_append_singleton _ _ _).symm
  -- every file below the subdirectory has `ds ++ [d]` leading to it
  have hbelow : ∀ f ∈ (reachableFiles listing n ((req.root.joinNames ds).joinText d)).map
      (TreeFile.below (ds ++ [d])), (∃ rest, f.names = (ds ++ [d]) ++ rest) ∧ d ∈ f.dirs := by
    intro f hf
    obtain ⟨x, -, rfl⟩ := List.mem_map.1 hf
    exact ⟨⟨x.names, TreeFile.names_below _ _⟩, by simp [TreeFile.below]⟩
  by_cases hhidden : namesHiddenEntry incl.source = false ∧ d.startsWith "." = true
  · rw [if_pos (by simpa using hhidden)]
    refine (addKept_of_not_keeps req excludes incl acc fun f hf => ?_).symm
    obtain ⟨rest, hrest⟩ := (hbelow f hf).1
    have hd : d ∈ f.names := by rw [hrest]; simp
    exact not_keeps_of_hidden hd hhidden.1 hhidden.2
  rw [if_neg (by simpa using hhidden)]
  by_cases hpkg : d ∈ packageDirectories ∧ containsText incl.source d = false
  · rw [if_pos (by simpa using hpkg)]
    exact (addKept_of_not_keeps req excludes incl acc fun f hf =>
      not_keeps_of_package (hbelow f hf).2 hpkg.1 hpkg.2).symm
  rw [if_neg (by simpa using hpkg)]
  by_cases hexcl : (req.walkFor listing excludes incl).isExcluded ("/".intercalate (ds ++ [d])) = true
  · rw [if_pos hexcl]
    refine (addKept_of_not_keeps req excludes incl acc fun f hf => ?_).symm
    obtain ⟨rest, hrest⟩ := (hbelow f hf).1
    exact not_keeps_of_excluded hrest hvalid (by simp) hexcl
  rw [if_neg hexcl, hjoin]
  exact hwalk (entered_append hentered hhidden hpkg) acc

/-- A walk of `n` levels from an entered directory adds, in order, the files that the
pattern keeps among those reachable within `n` levels. The induction is on the fuel: one
level is the directory's files (`walk_file_step`), then its subdirectories
(`walk_dir_step`), each walked with one level less. -/
theorem walk_eq_addKept (hnames : ListsNames listing) :
    ∀ (n : Nat) (ds : List String), (∀ d ∈ ds, Path.IsName d) → Entered incl ds → ∀ acc,
      (req.walkFor listing excludes incl).walk incl n (req.root.joinNames ds) acc =
        addKept req excludes incl acc
          ((reachableFiles listing n (req.root.joinNames ds)).map (TreeFile.below ds))
  | 0, _, _, _, _ => rfl
  | n + 1, ds, hds, hentered, acc => by
    have hvalid : ∀ m ∈ (listing (req.root.joinNames ds)).files ++
        (listing (req.root.joinNames ds)).directories, ∀ k ∈ ds ++ [m], Path.IsName k := by
      intro m hm k hk
      rcases List.mem_append.1 hk with hk | hk
      · exact hds k hk
      · exact List.mem_singleton.1 hk ▸ hnames _ m hm
    rw [Walk.walk, reachableFiles, List.map_append, addKept_append, List.map_flatMap,
      addKept_flatMap, List.map_map, addKept_map]
    refine (List.foldl_ext _ _ _ fun acc d hd => ?_).trans
      (congrArg (fun a => List.foldl _ a _) (List.foldl_ext _ _ _ fun acc name hname => ?_))
    · have hd' := hvalid d (List.mem_append_right _ hd)
      dsimp only
      rw [relativeSlashText?_entry hd']
      dsimp only
      rw [List.map_map, show TreeFile.below ds ∘ TreeFile.under d = TreeFile.below (ds ++ [d]) from
        funext (TreeFile.below_under ds d)]
      exact walk_dir_step hentered hd' (fun h acc =>
        walk_eq_addKept hnames n (ds ++ [d]) (fun m hm => hd' m hm) h acc) acc
    · have hname' := hvalid name (List.mem_append_left _ hname)
      dsimp only
      rw [relativeSlashText?_entry hname',
        show (TreeFile.below ds ∘ TreeFile.mk []) name = ⟨ds, name⟩ by simp [TreeFile.below]]
      dsimp only
      exact walk_file_step hentered hname' acc

end Walk

/-! ## All walks -/

/-- A compiled pattern keeps the text it was compiled from. -/
theorem compilePattern_source {s : String} {p : Glob.Pattern} (h : compilePattern s = .ok p) :
    p.source = s := by
  unfold compilePattern Glob.Pattern.compile at h
  split at h
  · cases h
    rfl
  · cases h

/-- A fold that compiles each text and then updates its state fails with the first text
that does not compile, and otherwise folds over the compiled patterns. -/
theorem foldlM_compilePattern {α : Type} {F : α → String → Except Error α}
    (G : Glob.Pattern → α → α)
    (hF : ∀ acc s, F acc s = (compilePattern s).map fun p => G p acc) :
    ∀ (l : List String) (acc : α),
      l.foldlM F acc = (l.mapM compilePattern).map fun ps => ps.foldl (fun acc p => G p acc) acc
  | [], _ => rfl
  | s :: l, acc => by
    rw [List.foldlM_cons, hF, List.mapM_cons]
    cases compilePattern s with
    | error e => rfl
    | ok p =>
      change l.foldlM F (G p acc) = _
      rw [foldlM_compilePattern G hF l (G p acc)]
      cases l.mapM compilePattern <;> rfl

section Walks

variable {req : MatchRequest} {listing : Path → DirListing} {excludes : List Glob.Pattern}

/-- The walks for the include patterns in turn add the files each keeps, in order. -/
theorem foldl_walks (hnames : ListsNames listing) (n : Nat) (includes : List Glob.Pattern)
    (acc : List Path × List Path) :
    includes.foldl (fun acc incl => (req.walkFor listing excludes incl).walk incl n req.root acc)
        acc =
      (((includes.flatMap fun incl => (reachableFiles listing n req.root).filter
          fun f => decide (Keeps req excludes incl f)).map (TreeFile.path req.root)).foldl
        addFile acc) := by
  induction includes generalizing acc with
  | nil => rfl
  | cons incl rest ih =>
    have hroot : (req.walkFor listing excludes incl).walk incl n req.root acc =
        addKept req excludes incl acc (reachableFiles listing n req.root) := by
      have hentered : Entered incl [] := ⟨.inr (by simp), by simp⟩
      have h : (req.walkFor listing excludes incl).walk incl n (req.root.joinNames []) acc =
          addKept req excludes incl acc
            ((reachableFiles listing n (req.root.joinNames [])).map (TreeFile.below [])) :=
        walk_eq_addKept hnames n [] (by simp) hentered acc
      simpa using h
    rw [List.foldl_cons, hroot, ih, List.flatMap_cons, List.map_append, List.foldl_append]
    rfl

end Walks

/-- Wildcard matching fails with the error of the first exclude, and then of the first
include, that does not compile; otherwise it returns the files the rule selects. -/
theorem matchFiles_eq_selectedFiles (req : MatchRequest) (listing : Path → DirListing)
    (depth : Nat) (hnames : ListsNames listing) :
    matchFiles req listing depth = (do
      let excludes ← req.excludes.mapM fun e => compilePattern (trimEndSlashes (stripDotSlash e))
      let includes ← req.effectiveIncludes.mapM compilePattern
      return selectedFiles req listing depth excludes includes) := by
  unfold matchFiles
  dsimp only
  cases req.excludes.mapM fun e => compilePattern (trimEndSlashes (stripDotSlash e)) with
  | error e => rfl
  | ok excludes =>
    dsimp only [bind, Except.bind]
    rw [foldlM_compilePattern
      (fun p acc => (req.walkFor listing excludes p).walk p depth req.root acc)]
    · rw [MatchRequest.effectiveIncludes]
      cases (if req.includes.isEmpty = true then ["**/*"]
          else req.includes.map fun i => includePattern (stripDotSlash i)).mapM compilePattern with
      | error e => rfl
      | ok includes =>
        refine congrArg Except.ok ?_
        dsimp only
        rw [foldl_walks hnames, foldl_addFile_nil]
        · rfl
        · intro f hf
          obtain ⟨incl, -, hf⟩ := List.mem_flatMap.1 hf
          exact names_isName_of_mem_reachableFiles hnames (List.mem_filter.1 hf).1
    · intro acc s
      cases hc : compilePattern s with
      | error e => rfl
      | ok p =>
        have hsource := compilePattern_source hc
        subst hsource
        rfl

/-! ## How deep the walk has to go -/

section Depth

variable {listing : Path → DirListing}

/-- Fewer directories have more than `c` components than at least `c`, when one has exactly
`c`. -/
theorem countP_components_succ_lt {dirs : List Path} {c : Nat}
    (h : ∃ d ∈ dirs, d.components.length = c) :
    dirs.countP (fun d => c + 1 ≤ d.components.length) <
      dirs.countP (fun d => c ≤ d.components.length) := by
  induction dirs with
  | nil => simp at h
  | cons x xs ih =>
    have hmono : xs.countP (fun d => c + 1 ≤ d.components.length) ≤
        xs.countP (fun d => c ≤ d.components.length) :=
      List.countP_mono_left fun d _ hd => by
        simp only [decide_eq_true_eq] at hd ⊢
        omega
    rw [List.countP_cons, List.countP_cons]
    by_cases hx : x.components.length = c
    · have hnot : ¬c + 1 ≤ x.components.length := by omega
      have hle : c ≤ x.components.length := by omega
      simp only [hnot, hle, decide_true, decide_false, Bool.false_eq_true, if_true, if_false]
      omega
    · obtain ⟨d, hd, hdc⟩ := h
      have hd' : d ∈ xs := by
        rcases List.mem_cons.1 hd with rfl | hd
        · exact absurd hdc hx
        · exact hd
      have hlt := ih ⟨d, hd', hdc⟩
      by_cases hsucc : c + 1 ≤ x.components.length
      · have hle : c ≤ x.components.length := by omega
        simp only [hsucc, hle, decide_true, if_true]
        omega
      · simp only [hsucc, decide_false, Bool.false_eq_true, if_false]
        split <;> omega

/-- The enumeration from `dir` is the same for every fuel above the number of directories
the listing fills with at least as many components as `dir`. The induction is on the fuel:
a subdirectory has one component more, and `dir` itself, if it lists anything, is one of the
directories counted for it and not for its subdirectories. -/
theorem reachableFiles_eq_of_countP_lt (hnames : ListsNames listing) {dirs : List Path}
    (hfin : ∀ d, listing d ≠ {} → d ∈ dirs) :
    ∀ (n m : Nat) (dir : Path),
      dirs.countP (fun d => dir.components.length ≤ d.components.length) < n →
      dirs.countP (fun d => dir.components.length ≤ d.components.length) < m →
      reachableFiles listing n dir = reachableFiles listing m dir
  | 0, _, _, hn, _ => absurd hn (Nat.not_lt_zero _)
  | _ + 1, 0, _, _, hm => absurd hm (Nat.not_lt_zero _)
  | n + 1, m + 1, dir, hn, hm => by
    rw [reachableFiles, reachableFiles]
    congr 1
    refine List.flatMap_congr fun d hd => ?_
    have hdir : dir ∈ dirs := hfin dir fun hempty => by simp [hempty] at hd
    have hlen : (dir.joinText d).components.length = dir.components.length + 1 := by
      rw [Path.components_joinText dir (hnames dir d (List.mem_append_right _ hd)),
        List.length_append, List.length_singleton]
    have hfewer := countP_components_succ_lt (c := dir.components.length) ⟨dir, hdir, rfl⟩
    rw [reachableFiles_eq_of_countP_lt hnames hfin n m (dir.joinText d) (by rw [hlen]; omega)
      (by rw [hlen]; omega)]

/-- Over a listing that fills finitely many directories, every fuel above their number gives
the same enumeration. -/
theorem reachableFiles_eq_of_length_lt (hnames : ListsNames listing) {dirs : List Path}
    (hfin : ∀ d, listing d ≠ {} → d ∈ dirs) (dir : Path) {n m : Nat} (hn : dirs.length < n)
    (hm : dirs.length < m) : reachableFiles listing n dir = reachableFiles listing m dir :=
  reachableFiles_eq_of_countP_lt hnames hfin n m dir
    (Nat.lt_of_le_of_lt (List.countP_le_length) hn)
    (Nat.lt_of_le_of_lt (List.countP_le_length) hm)

end Depth

/-- Wildcard matching over a listing of names that fills finitely many directories: once the
walk may go deeper than their number, it fails with the error of the first exclude, then of
the first include, that does not compile, and otherwise returns the rule's selection from the
whole tree; more depth adds nothing to the enumeration. -/
theorem matchFiles_selects_reachable_files (req : MatchRequest) (listing : Path → DirListing)
    (hnames : ListsNames listing) (dirs : List Path) (hfin : ∀ d, listing d ≠ {} → d ∈ dirs)
    (depth : Nat) (hdepth : dirs.length < depth) :
    matchFiles req listing depth = (do
      let excludes ← req.excludes.mapM fun e => compilePattern (trimEndSlashes (stripDotSlash e))
      let includes ← req.effectiveIncludes.mapM compilePattern
      return selectedFiles req listing (dirs.length + 1) excludes includes) ∧
    ∀ fuel, dirs.length < fuel →
      reachableFiles listing fuel req.root = reachableFiles listing (dirs.length + 1) req.root := by
  have hstable : ∀ fuel, dirs.length < fuel →
      reachableFiles listing fuel req.root = reachableFiles listing (dirs.length + 1) req.root :=
    fun fuel hfuel => reachableFiles_eq_of_length_lt hnames hfin req.root hfuel (by omega)
  refine ⟨?_, hstable⟩
  have hselected : selectedFiles req listing depth = selectedFiles req listing (dirs.length + 1) := by
    funext excludes includes
    simp only [selectedFiles, hstable depth hdepth]
  rw [matchFiles_eq_selectedFiles req listing depth hnames, hselected]

/-- The hypotheses hold of a tree two levels deep, with a hidden directory and a directory the
request excludes, walked five levels deep; its files are enumerated depth first. -/
theorem matchFiles_selects_reachable_files_nested :
    let listing : Path → DirListing := fun d =>
      if d = ⟨"/p"⟩ then { files := ["a.ts"], directories := ["s", ".h", "x"] }
      else if d = ⟨"/p/s"⟩ then { files := ["b.ts"] }
      else if d = ⟨"/p/.h"⟩ then { files := ["c.ts"] }
      else if d = ⟨"/p/x"⟩ then { files := ["d.ts"] }
      else {}
    let req : MatchRequest := { path := ⟨"p"⟩, currentDirectory := ⟨"/"⟩, excludes := ["x"] }
    let dirs : List Path := [⟨"/p"⟩, ⟨"/p/s"⟩, ⟨"/p/.h"⟩, ⟨"/p/x"⟩]
    ListsNames listing ∧ (∀ d, listing d ≠ {} → d ∈ dirs) ∧ dirs.length < 5 ∧
    reachableFiles listing 5 req.root =
      [⟨[], "a.ts"⟩, ⟨["s"], "b.ts"⟩, ⟨[".h"], "c.ts"⟩, ⟨["x"], "d.ts"⟩] ∧
    (matchFiles req listing 5 = (do
      let excludes ← req.excludes.mapM fun e => compilePattern (trimEndSlashes (stripDotSlash e))
      let includes ← req.effectiveIncludes.mapM compilePattern
      return selectedFiles req listing (dirs.length + 1) excludes includes) ∧
    ∀ fuel, dirs.length < fuel →
      reachableFiles listing fuel req.root = reachableFiles listing (dirs.length + 1) req.root) := by
  intro listing req dirs
  have hnames : ListsNames listing := by
    -- every name listed is one of seven, each a single normal component
    have hvalid : ∀ n ∈ ["a.ts", "s", ".h", "x", "b.ts", "c.ts", "d.ts"], Path.IsName n := by
      intro n hn
      simp only [List.mem_cons, List.not_mem_nil, or_false] at hn
      rcases hn with rfl | rfl | rfl | rfl | rfl | rfl | rfl <;>
        exact ⟨by decide, by decide, by decide, by decide⟩
    intro dir n hn
    apply hvalid
    simp only [listing] at hn
    split_ifs at hn <;>
      simp only [List.append_nil, List.nil_append, List.mem_append, List.mem_cons,
        List.not_mem_nil, or_false] at hn ⊢ <;> tauto
  have hfin : ∀ d, listing d ≠ {} → d ∈ dirs := by
    intro d hd
    simp only [listing] at hd
    split_ifs at hd <;> simp_all [dirs]
  have hreach : reachableFiles listing 5 req.root =
      [⟨[], "a.ts"⟩, ⟨["s"], "b.ts"⟩, ⟨[".h"], "c.ts"⟩, ⟨["x"], "d.ts"⟩] := by
    decide +kernel
  exact ⟨hnames, hfin, by decide, hreach,
    matchFiles_selects_reachable_files req listing hnames dirs hfin 5 (by decide)⟩

end Manifest

end FormatConfig
