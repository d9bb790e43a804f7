import FormatConfig.Proofs.PathParent
import FormatConfig.Fs.Basic

/-!
# Lexical normal form and where a path leads

`Path.normalize` folds `Path.normalizeStep` over the components, so it is a stack machine
over components: `stackStep` says what one step does to the stack, and
`normalize_components` proves that normalisation runs it. A `..` pops whatever is on top,
a kept `..` included, and is kept only when the stack is empty or holds the root alone.

A path leads somewhere without any file system: `Path.locationFrom` reads its components
from a starting location, `..` going up and the root starting over. Below the root the
stack holds the root, one `..` at most and names (`RootedNames`), and a step of
normalisation leads where its component leads, so normalising an absolute path keeps
where it leads (`normalize_of_isAbsolute`). Relative paths lose this: `../..` normalises to
the empty path (`normalize_cancels_parentDirs`). Where every `..` of a path
finds a name to take away or nothing at all (`parentsMeetNames`), normalisation is the
lexical normal form of the documentation, `lexicalStep`
(`normalize_lexical_of_parentsMeetNames`): every path that never goes above where it starts
(`staysBelowStart`) is one, and so is `../x`.

The absolute form `Path.absolute` puts the components of a relative path after those of
the current directory (`components_absolute`), and the chain of ancestors of a rooted path
climbs through prefixes of where it leads (`ancestors_locationFrom`).
-/

namespace FormatConfig

/-- Where a component leads from a location: the root starts over, `.` stays, `..` goes up
one level (the root is its own parent) and a name goes down into it. -/
def Component.enter (loc : Location) : Component → Location
  | .root => []
  | .curDir => loc
  | .parentDir => loc.dropLast
  | .normal name => loc ++ [name]

/-- A component that can follow the head of a path: `..` or a name. -/
def Component.IsBody : Component → Prop
  | .parentDir => True
  | .normal n => Path.IsName n
  | _ => False

namespace Path

/-- The location a path leads to from `base`, by its components alone. -/
def locationFrom (base : Location) (p : Path) : Location :=
  p.components.foldl Component.enter base

/-- A normal component of a path is a name: pieces have no slash, and `.`, `..` and empty
pieces mean something else. -/
theorem isName_of_mem_components {p : Path} {n : String} (h : .normal n ∈ p.components) :
    IsName n := by
  rw [components_eq_head_body] at h
  rcases List.mem_append.1 h with h | h
  · rcases head_cases p with ⟨-, hhead⟩ | ⟨-, hhead, -⟩ | ⟨-, hhead, -⟩ <;> rw [hhead] at h
    · simp [components_root] at h
    · simp [components_curDir] at h
    · simp at h
  · obtain ⟨s, hs, hc⟩ := List.mem_filterMap.1 h
    have hslash := not_mem_of_mem_slashPieces hs
    unfold bodyComponent at hc
    split at hc
    · cases hc
    · cases hc
    · cases hc
    · next hne hdot hup =>
      cases hc
      exact ⟨hne, hslash, hdot, hup⟩

/-- What a piece means, if anything, can follow the head. -/
theorem isBody_of_bodyComponent {s : String} {c : Component} (hslash : '/' ∉ s.toList)
    (h : bodyComponent s = some c) : c.IsBody := by
  unfold bodyComponent at h
  split at h
  · cases h
  · cases h
  · cases h
    trivial
  · next hne hdot hup =>
    cases h
    exact ⟨hne, hslash, hdot, hup⟩

theorem isBody_of_mem_body {p : Path} {c : Component}
    (h : c ∈ p.bodyPieces.filterMap bodyComponent) : c.IsBody := by
  obtain ⟨s, hs, hc⟩ := List.mem_filterMap.1 h
  exact isBody_of_bodyComponent (not_mem_of_mem_slashPieces hs) hc

/-- An absolute path is the root followed by `..` and names. -/
theorem components_of_isAbsolute {p : Path} (habs : p.isAbsolute = true) :
    p.components = .root :: p.bodyPieces.filterMap bodyComponent := by
  rw [components_eq_head_body]
  rcases head_cases p with ⟨-, hhead⟩ | ⟨h, -⟩ | ⟨h, -⟩
  · rw [hhead, components_root, List.singleton_append]
  all_goals rw [habs] at h; cases h

/-- A relative path is `..` and names, possibly after a leading `.`. -/
theorem components_of_not_isAbsolute {p : Path} (habs : p.isAbsolute = false) :
    p.components = p.bodyPieces.filterMap bodyComponent ∨
      p.components = .curDir :: p.bodyPieces.filterMap bodyComponent := by
  rw [components_eq_head_body]
  rcases head_cases p with ⟨h, -⟩ | ⟨-, hhead, -⟩ | ⟨-, hhead, -⟩
  · rw [habs] at h
    cases h
  · rw [hhead, components_curDir, List.singleton_append]
    exact .inr rfl
  · rw [hhead, components_empty, List.nil_append]
    exact .inl rfl

/-- Appending `..` or a name adds its component. -/
theorem components_pushComponent {c : Component} (hc : c.IsBody) (acc : Path) :
    (acc.pushComponent c).components = acc.components ++ [c] := by
  cases c with
  | parentDir =>
    have h := components_joinText_piece acc (s := "..") (by decide) (by decide)
    exact h
  | normal n => exact components_joinText acc hc
  | root => exact absurd hc id
  | curDir => exact absurd hc id

/-- Appending the root gives the root. -/
theorem components_pushComponent_root (acc : Path) :
    (acc.pushComponent .root).components = [.root] := by
  have h : acc.pushComponent .root = ⟨"/"⟩ := by
    simp [pushComponent, join, Component.text, isAbsolute]
  rw [h, components_root]

/-- One step of normalisation on components, as `Path.normalize` takes it: `.` is dropped,
`..` takes away the last component unless there is none or only the root, where it is kept,
and the root or a name is added, the root replacing everything. -/
def stackStep (stack : List Component) : Component → List Component
  | .curDir => stack
  | .parentDir => if stack = [] ∨ stack = [.root] then stack ++ [.parentDir] else stack.dropLast
  | .root => [.root]
  | .normal n => stack ++ [.normal n]

/-- A step of normalisation does to the components what `stackStep` says. -/
theorem components_normalizeStep (acc : Path) {c : Component} (hc : c = .root ∨ c = .curDir ∨ c.IsBody) :
    (normalizeStep acc c).components = stackStep acc.components c := by
  cases c with
  | root => exact components_pushComponent_root acc
  | curDir => rfl
  | normal n =>
    rcases hc with h | h | h
    · cases h
    · cases h
    · exact components_pushComponent h acc
  | parentDir =>
    unfold normalizeStep pop
    simp only [stackStep]
    -- `..` pops exactly when there is a parent to go to
    cases hpar : acc.parent? with
    | none =>
      dsimp only
      rw [if_pos ((parent?_eq_none_iff acc).1 hpar)]
      exact components_pushComponent (c := .parentDir) trivial acc
    | some q =>
      have hsome : ¬(acc.components = [] ∨ acc.components = [.root]) := fun h => by
        rw [(parent?_eq_none_iff acc).2 h] at hpar
        cases hpar
      dsimp only
      rw [if_neg hsome]
      exact components_parent? hpar

/-- Folding the steps over components that are the root, `.`, `..` or names. -/
theorem components_foldl_normalizeStep (acc : Path) {cs : List Component}
    (hcs : ∀ c ∈ cs, c = .root ∨ c = .curDir ∨ c.IsBody) :
    (cs.foldl normalizeStep acc).components = cs.foldl stackStep acc.components := by
  induction cs generalizing acc with
  | nil => rfl
  | cons c cs ih =>
    rw [List.foldl_cons, List.foldl_cons, ih _ fun d hd => hcs d (List.mem_cons_of_mem _ hd),
      components_normalizeStep acc (hcs c (List.mem_cons_self ..))]

/-- Every component of a path is the root, `.`, `..` or a name. -/
theorem mem_components_cases (p : Path) :
    ∀ c ∈ p.components, c = .root ∨ c = .curDir ∨ c.IsBody := by
  intro c hc
  cases habs : p.isAbsolute with
  | true =>
    rw [components_of_isAbsolute habs] at hc
    rcases List.mem_cons.1 hc with rfl | hc
    · exact .inl rfl
    · exact .inr (.inr (isBody_of_mem_body hc))
  | false =>
    rcases components_of_not_isAbsolute habs with hp | hp <;> rw [hp] at hc
    · exact .inr (.inr (isBody_of_mem_body hc))
    · rcases List.mem_cons.1 hc with rfl | hc
      · exact .inr (.inl rfl)
      · exact .inr (.inr (isBody_of_mem_body hc))

/-- **What normalisation does to the components.** `Path.normalize` runs `stackStep` over
the components, from no component at all. -/
theorem normalize_components (p : Path) :
    (normalize p).components = p.components.foldl stackStep [] := by
  have hempty : empty.components = [] := components_empty
  rw [normalize, components_foldl_normalizeStep empty (mem_components_cases p), hempty]

/-! ## Locations kept by normalisation -/

/-- Components from the root down: the root, possibly one `..` kept at the root, then names. -/
def RootedNames (stack : List Component) : Prop :=
  ∃ (up : List Component) (names : List String), (up = [] ∨ up = [.parentDir]) ∧
    stack = .root :: (up ++ names.map .normal)

theorem foldl_enter_names (acc : Location) (names : List String) :
    (names.map Component.normal).foldl Component.enter acc = acc ++ names := by
  induction names generalizing acc with
  | nil => simp
  | cons n names ih => simp [Component.enter, ih]

/-- From the root, such components lead to their names. -/
theorem foldl_enter_rootedNames {up : List Component} (hup : up = [] ∨ up = [.parentDir])
    (names : List String) (base : Location) :
    (Component.root :: (up ++ names.map .normal)).foldl Component.enter base = names := by
  rcases hup with rfl | rfl <;> simp [Component.enter, foldl_enter_names]

/-- Going up from rooted components, unless they are the root alone, keeps them rooted and
takes away the last name of where they lead. -/
theorem rootedNames_dropLast {stack : List Component} (h : RootedNames stack)
    (hne : stack ≠ [.root]) (base : Location) :
    RootedNames stack.dropLast ∧
      stack.dropLast.foldl Component.enter base = (stack.foldl Component.enter base).dropLast := by
  obtain ⟨up, names, hup, rfl⟩ := h
  rw [foldl_enter_rootedNames hup]
  rcases List.eq_nil_or_concat names with rfl | ⟨init, n, rfl⟩
  · -- only the `..` kept at the root is left to take away
    have hup' : up = [.parentDir] := hup.resolve_left fun h => hne (by simp [h])
    subst hup'
    exact ⟨⟨[], [], .inl rfl, rfl⟩, rfl⟩
  · rw [List.concat_eq_append]
    have heq : Component.root :: (up ++ (init ++ [n]).map .normal) =
        Component.root :: (up ++ init.map .normal) ++ [.normal n] := by simp
    rw [heq, List.dropLast_concat, foldl_enter_rootedNames hup, List.dropLast_concat]
    exact ⟨⟨up, init, hup, rfl⟩, rfl⟩

/-- **A normalisation step below the root keeps locations.** From a stack of the root, one
`..` at most and names, `stackStep` leads where the component leads. -/
theorem stackStep_rootedNames {stack : List Component} (h : RootedNames stack) (c : Component)
    (base : Location) :
    RootedNames (stackStep stack c) ∧
      (stackStep stack c).foldl Component.enter base =
        Component.enter (stack.foldl Component.enter base) c := by
  obtain ⟨up, names, hup, rfl⟩ := h
  rw [foldl_enter_rootedNames hup]
  cases c with
  | root => exact ⟨⟨[], [], .inl rfl, rfl⟩, rfl⟩
  | curDir => exact ⟨⟨up, names, hup, rfl⟩, foldl_enter_rootedNames hup names base⟩
  | normal n =>
    refine ⟨⟨up, names ++ [n], hup, by simp [stackStep]⟩, ?_⟩
    simp only [stackStep]
    rw [show Component.root :: (up ++ names.map .normal) ++ [.normal n] =
        Component.root :: (up ++ (names ++ [n]).map .normal) by simp,
      foldl_enter_rootedNames hup]
    rfl
  | parentDir =>
    simp only [stackStep]
    by_cases hroot : up = [] ∧ names = []
    · -- at the root, `..` is kept and still leads to the root
      obtain ⟨rfl, rfl⟩ := hroot
      exact ⟨⟨[.parentDir], [], .inr rfl, rfl⟩, rfl⟩
    have hkeep : ¬(Component.root :: (up ++ names.map .normal) = [] ∨
        Component.root :: (up ++ names.map .normal) = [.root]) := by
      rintro (h | h)
      · cases h
      · exact hroot (by simpa using h)
    rw [if_neg hkeep]
    obtain ⟨hdrop, hloc⟩ := rootedNames_dropLast ⟨up, names, hup, rfl⟩ (fun h => hkeep (.inr h)) base
    rw [foldl_enter_rootedNames hup] at hloc
    exact ⟨hdrop, hloc⟩

theorem foldl_stackStep_rootedNames {stack : List Component} (h : RootedNames stack)
    (cs : List Component) (base : Location) :
    RootedNames (cs.foldl stackStep stack) ∧
      (cs.foldl stackStep stack).foldl Component.enter base =
        cs.foldl Component.enter (stack.foldl Component.enter base) := by
  induction cs generalizing stack with
  | nil => exact ⟨h, rfl⟩
  | cons c cs ih =>
    obtain ⟨hstep, hloc⟩ := stackStep_rootedNames h c base
    obtain ⟨hrest, hloc'⟩ := ih hstep
    exact ⟨hrest, by rw [List.foldl_cons, List.foldl_cons, hloc', hloc]⟩

/-- **Normalising an absolute path keeps where it leads**, and leaves the root, one `..` at
most and names. -/
theorem normalize_of_isAbsolute {p : Path} (habs : p.isAbsolute = true) (base : Location) :
    RootedNames (normalize p).components ∧
      (normalize p).locationFrom base = p.locationFrom base := by
  have hstart : RootedNames [.root] := ⟨[], [], .inl rfl, rfl⟩
  obtain ⟨hnames, hloc⟩ :=
    foldl_stackStep_rootedNames hstart (p.bodyPieces.filterMap bodyComponent) base
  have hroot : stackStep [] .root = [.root] := rfl
  rw [List.foldl_cons, List.foldl_nil] at hloc
  rw [locationFrom, locationFrom, normalize_components, components_of_isAbsolute habs,
    List.foldl_cons, List.foldl_cons, hroot]
  exact ⟨hnames, hloc⟩

/-! ## Absolute paths -/

/-- Appending `..` and names adds their components. -/
theorem components_foldl_pushComponent (acc : Path) {cs : List Component}
    (hcs : ∀ c ∈ cs, c.IsBody) : (cs.foldl pushComponent acc).components = acc.components ++ cs := by
  induction cs generalizing acc with
  | nil => simp
  | cons c cs ih =>
    rw [List.foldl_cons, ih _ fun d hd => hcs d (List.mem_cons_of_mem _ hd),
      components_pushComponent (hcs c (List.mem_cons_self ..)), List.append_assoc,
      List.singleton_append]

/-- A trailing slash adds no component. -/
theorem components_joinText_empty (p : Path) : (p.joinText "").components = p.components := by
  rw [components_joinText_piece p (by decide) (by decide), bodyComponent_empty]
  exact List.append_nil _

/-- A trailing slash, when there is one, adds no component. -/
theorem components_trailingSlash (b : Bool) (built : Path) :
    (if b = true then built.joinText "" else built).components = built.components := by
  cases b
  · rfl
  · exact components_joinText_empty built

/-- **The components of the absolute form.** A relative path goes below the current
directory, an absolute one below the root; either way a leading `.`, a doubled leading
slash and a trailing slash leave no component behind. -/
theorem components_absolute {cwd p q : Path} (h : absolute cwd p = .ok q) :
    q.components = (if p.isAbsolute then [.root] else cwd.components) ++
      p.bodyPieces.filterMap bodyComponent := by
  have hbody : ∀ c ∈ p.bodyPieces.filterMap bodyComponent, c.IsBody :=
    fun c hc => isBody_of_mem_body hc
  unfold absolute at h
  split at h
  · cases h
  simp only [Except.ok.injEq] at h
  subst h
  rw [components_trailingSlash]
  by_cases habs : p.isAbsolute = true
  · simp only [habs, if_true]
    rw [components_of_isAbsolute habs]
    by_cases htwo : (p.text.startsWith "//" && !p.text.startsWith "///") = true
    · simp only [htwo, if_true, List.drop_succ_cons, List.drop_zero]
      rw [components_foldl_pushComponent _ hbody, components_doubleSlash]
    · simp only [htwo, Bool.false_eq_true, if_false, List.foldl_cons]
      rw [components_foldl_pushComponent _ hbody, components_pushComponent_root]
  · simp only [habs, Bool.false_eq_true, if_false]
    rcases components_of_not_isAbsolute (Bool.eq_false_iff.2 habs) with hp | hp <;> rw [hp]
    · split
      · next rest hrest =>
        -- the body never starts with `.`
        exact absurd (hbody .curDir (by rw [hrest]; exact List.mem_cons_self ..)) id
      · exact components_foldl_pushComponent _ hbody
    · exact components_foldl_pushComponent _ hbody

/-- A path is absolute exactly when its components start at the root. -/
theorem isAbsolute_iff_head?_components (p : Path) :
    p.isAbsolute = true ↔ p.components.head? = some .root := by
  constructor
  · intro habs
    rw [components_of_isAbsolute habs]
    rfl
  · intro hhead
    cases habs : p.isAbsolute with
    | true => rfl
    | false =>
      -- a relative path starts with `.`, `..` or a name
      exfalso
      rcases components_of_not_isAbsolute habs with hp | hp <;> rw [hp] at hhead
      · obtain ⟨rest, hrest⟩ : ∃ rest, p.bodyPieces.filterMap bodyComponent = .root :: rest := by
          cases hb : p.bodyPieces.filterMap bodyComponent with
          | nil => rw [hb] at hhead; cases hhead
          | cons c rest => rw [hb] at hhead; cases hhead; exact ⟨rest, rfl⟩
        exact isBody_of_mem_body (hrest ▸ List.mem_cons_self ..)
      · cases hhead

/-- **Where the absolute form leads.** Read from `base`, the absolute form of `p` below
`cwd` leads where `p` leads from where `cwd` leads. -/
theorem locationFrom_absolute {cwd p q : Path} (h : absolute cwd p = .ok q) (base : Location) :
    q.locationFrom base = p.locationFrom (cwd.locationFrom base) := by
  simp only [locationFrom]
  rw [components_absolute h, List.foldl_append]
  cases habs : p.isAbsolute with
  | true =>
    rw [components_of_isAbsolute habs]
    simp only [if_pos, List.foldl_cons, List.foldl_nil, Component.enter]
  | false =>
    rcases components_of_not_isAbsolute habs with hp | hp <;> rw [hp] <;>
      simp only [Bool.false_eq_true, if_false, List.foldl_cons, Component.enter]

/-- Below an absolute directory, the absolute form is absolute. -/
theorem isAbsolute_absolute {cwd p q : Path} (hcwd : cwd.isAbsolute = true)
    (h : absolute cwd p = .ok q) : q.isAbsolute = true := by
  rw [isAbsolute_iff_head?_components, components_absolute h]
  cases habs : p.isAbsolute with
  | true => simp only [if_pos, List.singleton_append, List.head?_cons]
  | false =>
    rw [components_of_isAbsolute hcwd]
    simp only [Bool.false_eq_true, if_false, List.cons_append, List.head?_cons]

/-- **The absolute normal form below an absolute directory** is rooted and leads where the
path leads from that directory. -/
theorem absoluteNormal_locationFrom {cwd p q : Path} (hcwd : cwd.isAbsolute = true)
    (h : absoluteNormal cwd p = .ok q) (base : Location) :
    RootedNames q.components ∧ q.locationFrom base = p.locationFrom (cwd.locationFrom base) := by
  unfold absoluteNormal at h
  cases ha : absolute cwd p with
  | error e =>
    rw [ha] at h
    cases h
  | ok r =>
    rw [ha] at h
    cases h
    obtain ⟨hnames, hloc⟩ := normalize_of_isAbsolute (isAbsolute_absolute hcwd ha) base
    exact ⟨hnames, hloc.trans (locationFrom_absolute ha base)⟩

/-! ## Where normalisation is the lexical normal form -/

/-- The step of the lexical normal form as the documentation describes it: `.` vanishes, a
name is added, and `..` takes away a name on top, vanishes on the root alone, and is kept
on an empty stack or on a kept `..`. -/
def lexicalStep (stack : List Component) : Component → List Component
  | .curDir => stack
  | .parentDir =>
    match stack.getLast? with
    | some (.normal _) => stack.dropLast
    | some .root => stack
    | _ => stack ++ [.parentDir]
  | .root => [.root]
  | .normal n => stack ++ [.normal n]

/-- Whether components read `depth` names below where they start never go above the start:
every `..` finds a name before it to take away. -/
def staysBelowStart : Nat → List Component → Bool
  | _, [] => true
  | _, .root :: cs => staysBelowStart 0 cs
  | depth, .curDir :: cs => staysBelowStart depth cs
  | 0, .parentDir :: _ => false
  | depth + 1, .parentDir :: cs => staysBelowStart depth cs
  | depth, .normal _ :: cs => staysBelowStart (depth + 1) cs

/-- Whether every `..` of the components either finds a name to take away or finds nothing at
all and is kept: no `..` meets a kept `..` or the root. The components are read `depth`
names below a head, and `blocked` says whether that head is the root or a kept `..`. -/
def parentsMeetNames (blocked : Bool) (depth : Nat) : List Component → Bool
  | [] => true
  | .root :: cs => parentsMeetNames true 0 cs
  | .curDir :: cs => parentsMeetNames blocked depth cs
  | .parentDir :: cs =>
    match depth with
    | depth + 1 => parentsMeetNames blocked depth cs
    | 0 => !blocked && parentsMeetNames true 0 cs
  | .normal _ :: cs => parentsMeetNames blocked (depth + 1) cs

/-- Components that never go above their start let every `..` find a name, whatever the
head they are read below. -/
theorem parentsMeetNames_of_staysBelowStart {cs : List Component} {depth : Nat}
    (h : staysBelowStart depth cs = true) (blocked : Bool) :
    parentsMeetNames blocked depth cs = true := by
  induction cs generalizing blocked depth with
  | nil => rfl
  | cons c cs ih =>
    cases c with
    | root => exact ih h true
    | curDir => exact ih h blocked
    | normal n => exact ih h blocked
    | parentDir =>
      cases depth with
      | zero => simp [staysBelowStart] at h
      | succ d => exact ih h blocked

example : parentsMeetNames false 0 (⟨"../x"⟩ : Path).components = true ∧
    staysBelowStart 0 (⟨"../x"⟩ : Path).components = false := by
  decide +kernel

/-- Components the lexical normal form builds: a head, which is nothing, the root or a `..`
kept at the start, then `depth` names. -/
def HeadNames (stack head : List Component) (depth : Nat) : Prop :=
  (head = [] ∨ head = [.root] ∨ head = [.parentDir]) ∧
    ∃ names : List String, names.length = depth ∧ stack = head ++ names.map Component.normal

theorem foldl_enter_append_normal (stack : List Component) (n : String) (base : Location) :
    (stack ++ [Component.normal n]).foldl Component.enter base =
      stack.foldl Component.enter base ++ [n] := by
  rw [List.foldl_append]
  rfl

/-- **A `..` below a name.** On a stack that ends in names, both steps take the last name
away and keep the head, and the stack leads one level up. -/
theorem stackStep_parentDir_headNames {stack head : List Component} {depth : Nat}
    (h : HeadNames stack head (depth + 1)) :
    stackStep stack .parentDir = lexicalStep stack .parentDir ∧
      HeadNames (stackStep stack .parentDir) head depth ∧
      ∀ base, (stackStep stack .parentDir).foldl Component.enter base =
        Component.enter (stack.foldl Component.enter base) .parentDir := by
  obtain ⟨hhead, names, hlen, rfl⟩ := h
  obtain ⟨init, n, rfl⟩ : ∃ init n, names = init ++ [n] := by
    rcases List.eq_nil_or_concat names with rfl | ⟨init, n, rfl⟩
    · cases hlen
    · exact ⟨init, n, List.concat_eq_append ..⟩
  have hstack : head ++ (init ++ [n]).map Component.normal =
      head ++ init.map .normal ++ [.normal n] := by simp
  -- the stack holds a name, so it is neither empty nor the root alone
  have hkeep : ¬(head ++ init.map Component.normal ++ [.normal n] = [] ∨
      head ++ init.map Component.normal ++ [.normal n] = [.root]) := by
    rintro (h | h)
    · simp at h
    · have hlast := congrArg List.getLast? h
      simp at hlast
  rw [hstack]
  refine ⟨?_, ⟨hhead, init, by simpa using hlen, ?_⟩, fun base => ?_⟩
  · simp only [stackStep, lexicalStep, if_neg hkeep, List.getLast?_concat]
  · simp only [stackStep, if_neg hkeep, List.dropLast_concat]
  · simp only [stackStep, if_neg hkeep, List.dropLast_concat, Component.enter]
    rw [foldl_enter_append_normal, List.dropLast_concat]

/-- **One step of the lexical normal form.** A component that `parentsMeetNames` lets
through builds the same stack under both disciplines, keeps the stack's shape at the head
and depth the rest is read at, and leads where the component leads. A `..` becomes the head
only where the components go above their start. -/
theorem stackStep_headNames {stack head : List Component} {depth : Nat} {c : Component}
    {cs : List Component} (h : HeadNames stack head depth)
    (hs : parentsMeetNames (!head.isEmpty) depth (c :: cs) = true) :
    ∃ head' depth', stackStep stack c = lexicalStep stack c ∧
      HeadNames (stackStep stack c) head' depth' ∧
      parentsMeetNames (!head'.isEmpty) depth' cs = true ∧
      (staysBelowStart depth (c :: cs) = true →
        staysBelowStart depth' cs = true ∧ (head' = [.parentDir] → head = [.parentDir])) ∧
      ∀ base, (stackStep stack c).foldl Component.enter base =
        Component.enter (stack.foldl Component.enter base) c := by
  cases c with
  | root =>
    exact ⟨[.root], 0, rfl, ⟨.inr (.inl rfl), [], rfl, rfl⟩, hs, fun hb => ⟨hb, nofun⟩,
      fun _ => rfl⟩
  | curDir => exact ⟨head, depth, rfl, h, hs, fun hb => ⟨hb, id⟩, fun _ => rfl⟩
  | normal n =>
    obtain ⟨hhead, names, hlen, rfl⟩ := h
    exact ⟨head, depth + 1, rfl, ⟨hhead, names ++ [n], by simp [hlen], by simp [stackStep]⟩,
      hs, fun hb => ⟨hb, id⟩, fun base => foldl_enter_append_normal _ n base⟩
  | parentDir =>
    cases depth with
    | succ d =>
      obtain ⟨hstep, hnames, hloc⟩ := stackStep_parentDir_headNames h
      exact ⟨head, d, hstep, hnames, hs, fun hb => ⟨hb, id⟩, hloc⟩
    | zero =>
      -- with no name to take away, only an empty stack lets `..` through, and keeps it
      obtain ⟨hhead, names, hlen, rfl⟩ := h
      rw [List.length_eq_zero_iff] at hlen
      subst hlen
      rcases hhead with rfl | rfl | rfl
      · exact ⟨[.parentDir], 0, rfl, ⟨.inr (.inr rfl), [], rfl, rfl⟩, hs, nofun, fun _ => rfl⟩
      all_goals simp [parentsMeetNames] at hs

/-- **Where every `..` meets a name, normalisation is the lexical normal form.** Run over
such components, the two disciplines build the same stack of a head and names, which leads
where the components lead; a `..` is the head only where it was or where the components go
above their start. -/
theorem foldl_stackStep_headNames {cs : List Component} {depth : Nat}
    {stack head : List Component} (h : HeadNames stack head depth)
    (hs : parentsMeetNames (!head.isEmpty) depth cs = true) :
    cs.foldl stackStep stack = cs.foldl lexicalStep stack ∧
      (∃ head' depth', HeadNames (cs.foldl stackStep stack) head' depth' ∧
        (staysBelowStart depth cs = true → head' = [.parentDir] → head = [.parentDir])) ∧
      ∀ base, (cs.foldl stackStep stack).foldl Component.enter base =
        cs.foldl Component.enter (stack.foldl Component.enter base) := by
  induction cs generalizing depth stack head with
  | nil => exact ⟨rfl, ⟨head, depth, h, fun _ => id⟩, fun _ => rfl⟩
  | cons c cs ih =>
    obtain ⟨head', depth', hstep, hnext, hs', hbelow, hloc⟩ := stackStep_headNames h hs
    obtain ⟨heq, ⟨head'', depth'', hlast, hup⟩, hloc'⟩ := ih hnext hs'
    refine ⟨?_, ⟨head'', depth'', hlast, fun hb hhead => ?_⟩, fun base => ?_⟩
    · rw [List.foldl_cons, List.foldl_cons, heq, hstep]
    · obtain ⟨hb', hback⟩ := hbelow hb
      exact hback (hup hb' hhead)
    · rw [List.foldl_cons, List.foldl_cons, hloc' base, hloc base]

/-- **Where the documented normal form holds.** For a path whose every `..` finds a name to
take away or nothing at all, normalisation gives the lexical normal form of the
documentation: a head, then names, where the head is nothing, the root, or a `..` kept at
the start of a path that goes above where it starts. It leads where the path leads from any
location. -/
theorem normalize_lexical_of_parentsMeetNames (p : Path)
    (h : parentsMeetNames false 0 p.components = true) :
    (normalize p).components = p.components.foldl lexicalStep [] ∧
      (∃ (head : List Component) (names : List String),
        (head = [] ∨ head = [.root] ∨
          head = [.parentDir] ∧ staysBelowStart 0 p.components = false) ∧
        (normalize p).components = head ++ names.map .normal) ∧
      ∀ base, (normalize p).locationFrom base = p.locationFrom base := by
  have hstart : HeadNames [] [] 0 := ⟨.inl rfl, [], rfl, rfl⟩
  obtain ⟨heq, ⟨head, -, ⟨hhead, names, -, hstack⟩, hup⟩, hloc⟩ :=
    foldl_stackStep_headNames hstart h
  refine ⟨by rw [normalize_components, heq],
    ⟨head, names, ?_, by rw [normalize_components, hstack]⟩, fun base => ?_⟩
  · rcases hhead with rfl | rfl | rfl
    · exact .inl rfl
    · exact .inr (.inl rfl)
    · -- a kept `..` at the head means the path went above its start
      refine .inr (.inr ⟨rfl, Bool.eq_false_iff.2 fun hb => ?_⟩)
      cases hup hb rfl
  · rw [locationFrom, locationFrom, normalize_components]
    exact hloc base

theorem normalize_lexical_of_parentsMeetNames_leading_up :
    parentsMeetNames false 0 (⟨"../x/.."⟩ : Path).components = true ∧
      staysBelowStart 0 (⟨"../x/.."⟩ : Path).components = false ∧
      (normalize ⟨"../x/.."⟩).components =
        (⟨"../x/.."⟩ : Path).components.foldl lexicalStep [] := by
  have h : parentsMeetNames false 0 (⟨"../x/.."⟩ : Path).components = true := by decide +kernel
  exact ⟨h, by decide +kernel, (normalize_lexical_of_parentsMeetNames _ h).1⟩

/-- A `..` after a kept `..` cancels it, and a `..` at the root is kept: `../..` normalises to
the empty path and `/..` to itself, so below `/x/y` the normal form of `../..` leads to
`/x/y` while `../..` leads to the root. -/
theorem normalize_cancels_parentDirs :
    normalize ⟨"../.."⟩ = empty ∧ normalize ⟨"/.."⟩ = ⟨"/.."⟩ ∧
      ((⟨"/x/y"⟩ : Path).join (normalize ⟨"../.."⟩)).locationFrom [] = ["x", "y"] ∧
      ((⟨"/x/y"⟩ : Path).join ⟨"../.."⟩).locationFrom [] = [] := by
  decide +kernel

/-! ## Chains of rooted directories -/

/-- The parent of a rooted path is rooted and leads one level up. -/
theorem locationFrom_parent? {p q : Path} (hp : RootedNames p.components)
    (h : p.parent? = some q) (base : Location) :
    RootedNames q.components ∧ q.locationFrom base = (p.locationFrom base).dropLast := by
  have hne : p.components ≠ [.root] := fun hroot => by
    rw [(parent?_eq_none_iff p).2 (.inr hroot)] at h
    cases h
  rw [locationFrom, locationFrom, components_parent? h]
  exact rootedNames_dropLast hp hne base

/-- A rooted path without a parent is the root. -/
theorem locationFrom_eq_nil_of_parent?_eq_none {p : Path} (hp : RootedNames p.components)
    (h : p.parent? = none) (base : Location) : p.locationFrom base = [] := by
  rcases (parent?_eq_none_iff p).1 h with hnil | hroot
  · obtain ⟨up, names, -, hS⟩ := hp
    rw [hnil] at hS
    cases hS
  · rw [locationFrom, hroot]
    rfl

/-- **The chain of a rooted path stays above it.** Every path on the chain of ancestors of
a rooted path is rooted and leads to a prefix of where the path leads. -/
theorem ancestors_locationFrom {p : Path} (hp : RootedNames p.components) (base : Location) :
    ∀ a ∈ p.ancestors, RootedNames a.components ∧ a.locationFrom base <+: p.locationFrom base := by
  induction hn : p.text.length using Nat.strong_induction_on generalizing p with
  | _ n ih =>
    intro a ha
    cases hpar : p.parent? with
    | none =>
      rw [ancestors_of_parent?_eq_none hpar, List.mem_singleton] at ha
      subst ha
      exact ⟨hp, List.prefix_refl _⟩
    | some q =>
      rw [ancestors_of_parent? hpar, List.mem_cons] at ha
      rcases ha with rfl | ha
      · exact ⟨hp, List.prefix_refl _⟩
      -- the parent is shorter, rooted and one level up
      obtain ⟨hq, hloc⟩ := locationFrom_parent? hp hpar base
      obtain ⟨ha', hpre⟩ := ih q.text.length (hn ▸ text_length_lt_of_parent? hpar) hq rfl a ha
      exact ⟨ha', hpre.trans (hloc ▸ List.dropLast_prefix _)⟩

end Path

end FormatConfig
