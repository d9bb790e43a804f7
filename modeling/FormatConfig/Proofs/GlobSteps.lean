import FormatConfig.Glob.Expand
import FormatConfig.Proofs.PathParent

/-!
# The steps of a glob expansion never run out

`Glob.matchesOf` allows a number of steps below each pending path: one for each later
component, and one for each directory level a run of `**` goes down. A pending path's
*potential* bounds what it may still need: each component it has left is worth one more step
than a walk from the root to the deepest location, and to that come the levels left below
where its path leads (`Glob.Pending.potential`).

Every path a step puts on the stack has a lower potential. One that waits for a later
component has fewer components left (`potential_lt_of_rank_lt`); an entry of a directory met
by a run of `**` leads one level deeper (`resolve_childPath`), on a file system whose
locations are made of names (`FileSystem.StoresNames`). So the matches do not change once the
steps exceed the potential (`matchesOf_eq_of_potential_lt`), and the
`(patterns + 1) * (depth + 2)` steps a glob allows cover every path it starts from
(`matchesOf_glob_steps`).
-/

namespace FormatConfig

namespace FileSystem

variable {fs : FileSystem}

/-- Every location stored is made of names, as on a real file system: no entry is empty,
`.` or `..`, and none holds a slash. -/
def StoresNames (fs : FileSystem) : Prop :=
  ∀ e ∈ fs.nodes, ∀ name ∈ e.1, Path.IsName name

/-- The length of the location a path leads to, or one more than the depth where it leads
nowhere. -/
def level (fs : FileSystem) (p : Path) : Nat :=
  match fs.resolve p with
  | .ok (loc, _) => loc.length
  | .error _ => fs.depth + 1

theorem length_le_depth {e : Location × Node} (he : e ∈ fs.nodes) : e.1.length ≤ fs.depth :=
  List.le_max?_getD_of_mem (List.mem_map_of_mem he)

theorem walkPieces_append (cur : Location × Node) (xs ys : List String) :
    fs.walkPieces cur (xs ++ ys) = (fs.walkPieces cur xs).bind (fs.walkPieces · ys) := by
  induction xs generalizing cur with
  | nil => rfl
  | cons x xs ih =>
    rw [List.cons_append, walkPieces, walkPieces]
    cases fs.stepPiece cur x with
    | ok next => exact ih next
    | error e => rfl

theorem walkPieces_singleton (cur : Location × Node) (x : String) :
    fs.walkPieces cur [x] = fs.stepPiece cur x := by
  rw [walkPieces]
  cases fs.stepPiece cur x <;> rfl

/-- A resolved path is walked piece by piece from the root or the current directory. -/
theorem walkPieces_of_resolve {p : Path} {r : Location × Node} (h : fs.resolve p = .ok r) :
    p.text ≠ "" ∧
      fs.walkPieces ((if p.isAbsolute then [] else fs.cwd), .dir) (Path.slashPieces p.text) =
        .ok r := by
  unfold resolve at h
  split at h
  · cases h
  split at h
  · cases h
  split at h
  · cases h
  · exact ⟨‹_›, h⟩

/-- A name leads from a directory into it. -/
theorem stepPiece_name {loc : Location} {name : String} {r : Location × Node}
    (hname : Path.IsName name) (h : fs.stepPiece (loc, .dir) name = .ok r) :
    r.1 = loc ++ [name] := by
  unfold stepPiece at h
  simp only [hname.ne_empty, hname.ne_cur, hname.ne_parent, decide_false, Bool.or_false,
    Bool.false_eq_true, if_false] at h
  split at h
  · cases h
  · split at h
    · cases h
      rfl
    · cases h

/-- An empty piece stays in a directory, and fails on a file. -/
theorem stepPiece_empty {cur r : Location × Node} (h : fs.stepPiece cur "" = .ok r) :
    r = (cur.1, .dir) ∧ cur.2 = .dir := by
  obtain ⟨loc, n⟩ := cur
  cases n with
  | file b => cases h
  | dir =>
    simp only [stepPiece] at h
    cases h
    exact ⟨rfl, rfl⟩

/-- A walk that ends with a name goes one level below where the rest of it leads. -/
theorem walkPieces_append_name {cur r : Location × Node} {xs : List String} {loc : Location}
    {name : String} (hname : Path.IsName name) (hwalk : fs.walkPieces cur xs = .ok (loc, .dir))
    (h : fs.walkPieces cur (xs ++ [name]) = .ok r) : r.1 = loc ++ [name] := by
  rw [walkPieces_append, hwalk] at h
  change fs.walkPieces (loc, .dir) [name] = _ at h
  rw [walkPieces_singleton] at h
  exact stepPiece_name hname h

/-- A walk that ends with an empty piece leads where the rest of it leads. -/
theorem walkPieces_of_append_empty {cur r : Location × Node} {xs : List String}
    (h : fs.walkPieces cur (xs ++ [""]) = .ok r) : fs.walkPieces cur xs = .ok r := by
  rw [walkPieces_append] at h
  cases h0 : fs.walkPieces cur xs with
  | error e => rw [h0] at h; cases h
  | ok r0 =>
    rw [h0] at h
    change fs.walkPieces r0 [""] = _ at h
    rw [walkPieces_singleton] at h
    obtain ⟨rfl, hdir⟩ := stepPiece_empty h
    obtain ⟨loc0, n0⟩ := r0
    dsimp only at hdir ⊢
    rw [hdir]

/-- **An entry leads one level down.** Where a path leads to a directory, the path of its
entry `name` leads, if anywhere, into that directory. -/
theorem resolve_childPath {path : Path} {loc : Location} {name : String} {r : Location × Node}
    (hres : fs.resolve path = .ok (loc, .dir)) (hname : Path.IsName name)
    (hchild : fs.resolve (Glob.childPath path name) = .ok r) : r.1 = loc ++ [name] := by
  obtain ⟨t⟩ := path
  obtain ⟨hne, hwalk⟩ := walkPieces_of_resolve hres
  obtain ⟨-, hcwalk⟩ := walkPieces_of_resolve hchild
  dsimp only at hne hwalk
  have hpieces : Path.slashPieces name = [name] := Path.slashPieces_of_no_slash hname.no_slash
  unfold Glob.childPath at hcwalk
  split at hcwalk
  · -- `.` leads to the current directory, and the bare name below it
    next hdot =>
    dsimp only at hdot
    subst hdot
    have hdot : Path.isAbsolute ⟨"."⟩ = false := Path.isAbsolute_of_no_slash (by simp)
    rw [hdot, Path.slashPieces_of_no_slash (by simp), walkPieces_singleton] at hwalk
    simp [stepPiece] at hwalk
    rw [Path.isAbsolute_name hname] at hcwalk
    simp only [Bool.false_eq_true, if_false] at hcwalk
    rw [hpieces] at hcwalk
    have hstart : fs.walkPieces (fs.cwd, .dir) [] = .ok (loc, .dir) := by rw [hwalk]; rfl
    exact walkPieces_append_name hname hstart hcwalk
  · -- a path that ends in a slash takes the name right after it, any other after a slash
    have hjoin : ({ text := t } : Path).joinText name =
        if t.endsWith "/" then ⟨t ++ name⟩ else ⟨t ++ "/" ++ name⟩ := by
      simp [Path.joinText, Path.join, Path.isAbsolute_name hname, hne]
    rw [hjoin] at hcwalk
    split at hcwalk
    · next hend =>
      obtain ⟨u, rfl⟩ := Path.exists_eq_append_slash hend
      have habs : Path.isAbsolute ⟨u ++ "/" ++ name⟩ = Path.isAbsolute ⟨u ++ "/"⟩ :=
        Path.isAbsolute_append name hne
      dsimp only at hcwalk
      rw [habs, Path.slashPieces_append_slash, hpieces] at hcwalk
      rw [Path.slashPieces_append_slash_end] at hwalk
      exact walkPieces_append_name hname (walkPieces_of_append_empty hwalk) hcwalk
    · have habs : Path.isAbsolute ⟨t ++ "/" ++ name⟩ = Path.isAbsolute ⟨t⟩ := by
        rw [Path.isAbsolute_append name (by simp), Path.isAbsolute_append "/" hne]
      dsimp only at hcwalk
      rw [habs, Path.slashPieces_append_slash, hpieces] at hcwalk
      exact walkPieces_append_name hname hwalk hcwalk

/-- An entry of a directory is stored one level below it. -/
theorem mem_nodes_of_mem_childrenAt {loc : Location} {name : String} {n : Node}
    (h : (name, n) ∈ fs.childrenAt loc) : (loc ++ [name], n) ∈ fs.nodes := by
  unfold childrenAt sortNames at h
  obtain ⟨⟨l, n'⟩, hl, hsome⟩ := List.mem_filterMap.1 (List.mem_mergeSort.1 h)
  cases hlast : l.getLast? with
  | none => simp [hlast] at hsome
  | some last =>
    cases hloc : l.dropLast == loc with
    | false => simp [hlast, hloc] at hsome
    | true =>
      simp only [hlast, hloc, Option.some.injEq, Prod.mk.injEq] at hsome
      obtain ⟨rfl, rfl⟩ := hsome
      have hl' : l = loc ++ [last] := by
        rw [← List.dropLast_append_getLast? last hlast, eq_of_beq hloc]
      rw [← hl']
      exact hl

/-- **A directory's entries lie one level down.** A directory listed lies above the depth,
and the path of each of its entries leads one level below it, or nowhere. -/
theorem level_childPath (hnames : fs.StoresNames) {path : Path} {children : List (String × Node)}
    (hread : fs.readDir path = .ok children) {name : String} {n : Node}
    (hmem : (name, n) ∈ children) :
    fs.level path < fs.depth ∧ (fs.level (Glob.childPath path name) = fs.level path + 1 ∨
      fs.level (Glob.childPath path name) = fs.depth + 1) := by
  unfold readDir at hread
  split at hread
  · next loc hres =>
    cases hread
    have hstored := mem_nodes_of_mem_childrenAt hmem
    have hlen := length_le_depth hstored
    have hname := hnames _ hstored name (by simp)
    simp only [List.length_append, List.length_singleton] at hlen
    have hlevel : fs.level path = loc.length := by simp [level, hres]
    refine ⟨by omega, ?_⟩
    rw [hlevel]
    unfold level
    split
    · next r _ hchild =>
      have hr := resolve_childPath hres hname hchild
      dsimp only at hr
      rw [hr]
      exact .inl (by simp)
    · exact .inr rfl
  · cases hread
  · cases hread

end FileSystem

namespace Glob

variable {fs : FileSystem} {pats : Array Pattern} {opts : MatchOptions} {requireDir : Bool}

/-- How many component patterns a pending path has left to match; none once it matches in
full. -/
def Pending.rank (pats : Array Pattern) (p : Pending) : Nat :=
  match p.index with
  | none => 0
  | some idx => pats.size - idx

/-- What a pending path may still need: each component left is worth one more step than a
walk down to the deepest location, and to that come the levels left below its path. -/
def Pending.potential (fs : FileSystem) (pats : Array Pattern) (p : Pending) : Nat :=
  p.rank pats * (fs.depth + 2) + (fs.depth + 1 - fs.level p.path)

theorem Pending.rank_of_index {p : Pending} {idx : Nat} (h : p.index = some idx) :
    p.rank pats = pats.size - idx := by
  simp [Pending.rank, h]

/-- An entry of a directory met at the same component has a lower potential: it lies one
level down. -/
theorem potential_childPath_lt (hnames : fs.StoresNames) {p q : Pending}
    {children : List (String × Node)} {name : String} {n : Node}
    (hrank : q.rank pats = p.rank pats) (hread : fs.readDir p.path = .ok children)
    (hmem : (name, n) ∈ children) (hpath : q.path = childPath p.path name) :
    q.potential fs pats < p.potential fs pats := by
  obtain ⟨hlt, hlevel⟩ := FileSystem.level_childPath hnames hread hmem
  unfold Pending.potential
  rw [hrank, hpath]
  omega

/-- What `fillTodo` puts on the stack waits for a later component pattern, or is an entry
of the directory, waiting at `idx`; it puts nothing there once the patterns run out. -/
theorem mem_fillTodo {idx : Nat} {path : Path} {isDir : Bool} {todo : List Pending} {q : Pending}
    (h : q ∈ fillTodo fs pats opts idx path isDir todo) :
    q ∈ todo ∨ idx < pats.size ∧ (q.rank pats < pats.size - idx ∨
      q.rank pats = pats.size - idx ∧ ∃ children name n, fs.readDir path = .ok children ∧
        (name, n) ∈ children ∧ q.path = childPath path name) := by
  fun_induction fillTodo fs pats opts idx path isDir todo with
  | case1 idx path isDir todo hidx =>
    rcases List.mem_cons.1 h with rfl | h
    · exact .inr ⟨hidx, .inl (by simp [Pending.rank]; omega)⟩
    · exact .inl h
  | case2 idx path isDir todo hidx _ _ _ _ _ _ _ ih =>
    rcases ih h with h | ⟨hlt, hrank⟩
    · exact .inl h
    · exact .inr ⟨hidx, .inl (by omega)⟩
  | case4 idx path todo hidx pattern _ children hread pending _ ih =>
    -- each special entry puts paths waiting at `idx + 1` or later on what is there
    have hspecial : ∀ (acc : List Pending) (special : String),
        q ∈ (if pattern.matchesWith special opts = true then
          if idx + 1 = pats.size then
            (⟨path.joinText special, fs.isDir (path.joinText special), none⟩ : Pending) :: acc
          else fillTodo fs pats opts (idx + 1) (path.joinText special)
            (fs.isDir (path.joinText special)) acc
          else acc) → q ∈ acc ∨ q.rank pats < pats.size - idx := by
      intro acc special hq
      split at hq
      · split at hq
        · rcases List.mem_cons.1 hq with rfl | hq
          · exact .inr (by simp [Pending.rank]; omega)
          · exact .inl hq
        · rcases ih acc special hq with hq | ⟨-, hrank⟩
          · exact .inl hq
          · exact .inr (by omega)
      · exact .inl hq
    simp only [List.foldl_cons, List.foldl_nil] at h
    rcases hspecial _ _ h with h | h
    · rcases hspecial _ _ h with h | h
      · rcases List.mem_append.1 h with h | h
        · obtain ⟨⟨name, n⟩, hmem, rfl⟩ := List.mem_map.1 h
          exact .inr ⟨hidx, .inr ⟨by simp [Pending.rank], children, name, n, hread, hmem, rfl⟩⟩
        · exact .inl h
      · exact .inr ⟨hidx, .inl h⟩
    · exact .inr ⟨hidx, .inl h⟩
  | case5 idx path todo hidx pattern _ children hread =>
    rcases List.mem_append.1 h with h | h
    · obtain ⟨⟨name, n⟩, hmem, rfl⟩ := List.mem_map.1 h
      exact .inr ⟨hidx, .inr ⟨by simp [Pending.rank], children, name, n, hread, hmem, rfl⟩⟩
    · exact .inl h
  | _ => exact .inl h

/-- The index of the last of a run of `**` components starting at `idx` is `idx` or later. -/
theorem le_lastRecursive (pats : Array Pattern) (idx : Nat) : idx ≤ lastRecursive pats idx := by
  suffices h : ∀ n i, i ≤ lastRecursive.go pats i n from h _ idx
  intro n
  induction n with
  | zero => intro i; exact Nat.le_refl i
  | succ n ih =>
    intro i
    unfold lastRecursive.go
    split
    · exact Nat.le_trans (Nat.le_succ i) (ih (i + 1))
    · exact Nat.le_refl i

theorem potential_lt_of_rank_lt {p q : Pending} (h : q.rank pats < p.rank pats) :
    q.potential fs pats < p.potential fs pats := by
  have hmul := Nat.mul_le_mul_right (fs.depth + 2) h
  rw [Nat.succ_mul] at hmul
  unfold Pending.potential
  omega

/-- Every path a step puts on the stack after a run of `**` has a lower potential: it waits
further on, or it is an entry of the directory, one level down. -/
theorem potential_lt_of_mem_below (hnames : fs.StoresNames) {p q : Pending} {idx : Nat}
    (hidx : p.index = some idx)
    (hq : q ∈ fillTodo fs pats opts (lastRecursive pats idx) p.path true []) :
    q.potential fs pats < p.potential fs pats := by
  have hp : p.rank pats = pats.size - idx := Pending.rank_of_index hidx
  have hnext := le_lastRecursive pats idx
  rcases mem_fillTodo hq with hq | ⟨hlt, hq⟩
  · cases hq
  rcases hq with hrank | ⟨hrank, children, name, n, hread, hmem, hpath⟩
  · exact potential_lt_of_rank_lt (by omega)
  by_cases hsame : lastRecursive pats idx = idx
  · -- an entry of the directory, at the same component
    rw [hsame, ← hp] at hrank
    exact potential_childPath_lt hnames hrank hread hmem hpath
  · exact potential_lt_of_rank_lt (by omega)

/-- Every path a step puts on the stack after matching a component has a lower potential: it
waits for a later component. -/
theorem potential_lt_of_mem_own {p q : Pending} {idx j : Nat} {isDir : Bool}
    (hidx : p.index = some idx) (hj : idx ≤ j)
    (hq : q ∈ fillTodo fs pats opts (j + 1) p.path isDir []) :
    q.potential fs pats < p.potential fs pats := by
  have hp : p.rank pats = pats.size - idx := Pending.rank_of_index hidx
  rcases mem_fillTodo hq with hq | ⟨hlt, hq⟩
  · cases hq
  rcases hq with hrank | ⟨hrank, -⟩ <;> exact potential_lt_of_rank_lt (by omega)

/-- **A step looks only below its potential.** Two steps agree where the matches of the
paths they put on the stack agree on every path of lower potential. -/
theorem matchStep_congr {rest rest' : Pending → List Path} {p : Pending}
    (hnames : fs.StoresNames)
    (h : ∀ q, q.potential fs pats < p.potential fs pats → rest q = rest' q) :
    matchStep fs pats opts requireDir rest p = matchStep fs pats opts requireDir rest' p := by
  unfold matchStep
  split
  · rfl
  · next idx hidx =>
    dsimp only
    have hbelow : (fillTodo fs pats opts (lastRecursive pats idx) p.path true []).flatMap rest =
        (fillTodo fs pats opts (lastRecursive pats idx) p.path true []).flatMap rest' :=
      List.flatMap_congr fun q hq => h q (potential_lt_of_mem_below hnames hidx hq)
    have hj : idx ≤ if (pats[idx]?.map (·.isRecursive)).getD false = true then
        lastRecursive pats idx + 1 else idx := by
      have := le_lastRecursive pats idx
      split <;> omega
    have hown : ∀ j, idx ≤ j → (fillTodo fs pats opts (j + 1) p.path p.isDir []).flatMap rest =
        (fillTodo fs pats opts (j + 1) p.path p.isDir []).flatMap rest' :=
      fun j hj => List.flatMap_congr fun q hq => h q (potential_lt_of_mem_own hidx hj hq)
    rw [hbelow, hown _ hj]

/-- **Enough steps.** On a file system whose locations are made of names, the matches of a
pending path stay the same once the steps allowed exceed its potential. -/
theorem matchesOf_eq_of_potential_lt (hnames : fs.StoresNames) :
    ∀ {n m : Nat} {p : Pending}, p.potential fs pats < n → p.potential fs pats < m →
      matchesOf fs pats opts requireDir n p = matchesOf fs pats opts requireDir m p
  | 0, _, _, hn, _ => absurd hn (Nat.not_lt_zero _)
  | _ + 1, 0, _, _, hm => absurd hm (Nat.not_lt_zero _)
  | n + 1, m + 1, p, hn, hm => by
    -- every path the step puts on the stack has less potential, so one step fewer suffices
    rw [matchesOf, matchesOf]
    exact matchStep_congr hnames fun q hq =>
      matchesOf_eq_of_potential_lt hnames (by omega) (by omega)

/-- **A glob never runs out of steps.** Every path a glob starts from has less potential than
the `(patterns + 1) * (depth + 2)` steps it allows, so allowing more finds the same matches. -/
theorem matchesOf_glob_steps (hnames : fs.StoresNames) {scope : Path} {isDir : Bool}
    {q : Pending} (hq : q ∈ fillTodo fs pats opts 0 scope isDir []) {n : Nat}
    (hn : (pats.size + 1) * (fs.depth + 2) ≤ n) :
    matchesOf fs pats opts requireDir n q =
      matchesOf fs pats opts requireDir ((pats.size + 1) * (fs.depth + 2)) q := by
  have hrank : q.rank pats ≤ pats.size := by
    rcases mem_fillTodo hq with hq | ⟨-, hq⟩
    · cases hq
    · omega
  have hmul := Nat.mul_le_mul_right (fs.depth + 2) hrank
  have hlt : q.potential fs pats < (pats.size + 1) * (fs.depth + 2) := by
    unfold Pending.potential
    rw [Nat.succ_mul]
    omega
  exact matchesOf_eq_of_potential_lt hnames (by omega) hlt

end Glob

end FormatConfig
