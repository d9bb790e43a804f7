import FormatConfig.Proofs.BlankLines
import FormatConfig.Fs.Listing
import FormatConfig.Lookup
import Mathlib.Data.List.Nodup

/-!
# File systems whose texts were collapsed

A fix run changes a file system in one way only: it writes a file's text back with its runs
of blank lines collapsed. `FileSystem.CollapsedTo fs fs'` says that `fs'` is `fs` after any
number of such writes: the same current directory, the same locations in the same order with
the same kinds, and every file holding its old bytes or the collapse of its old text.

Since collapsing a collapsed text changes nothing, the relation is transitive. Everything
that looks only at the shape of the tree (resolving a path, whether it exists, a directory's
entries and their kinds) gives the same answer on both sides; reading a file gives the old
bytes or the collapsed text. Writing the collapse of a file's own text is such a step, and
reading the file back gives what was written.
-/

namespace FormatConfig

/-- Two outcomes that fail with the same error, or succeed with related values. -/
inductive ExceptRel {ε α β : Type} (r : α → β → Prop) : Except ε α → Except ε β → Prop
  | error (e : ε) : ExceptRel r (.error e) (.error e)
  | ok {a : α} {b : β} (h : r a b) : ExceptRel r (.ok a) (.ok b)

namespace ExceptRel

variable {ε α β : Type} {r : α → β → Prop}

theorem of_ok {x : Except ε α} {y : Except ε β} {a : α} (h : ExceptRel r x y) (hx : x = .ok a) :
    ∃ b, y = .ok b ∧ r a b := by
  cases h with
  | error e => cases hx
  | ok hab => cases hx; exact ⟨_, rfl, hab⟩

theorem of_error {x : Except ε α} {y : Except ε β} {e : ε} (h : ExceptRel r x y)
    (hx : x = .error e) : y = .error e := by
  cases h with
  | error e => cases hx; rfl
  | ok _ => cases hx

/-- Related outcomes succeed together. -/
theorem isOk_eq {x : Except ε α} {y : Except ε β} (h : ExceptRel r x y) : y.isOk = x.isOk := by
  cases h <;> rfl

end ExceptRel

namespace Node

/-- A node and the same node after its text may have been collapsed: a directory stays a
directory, and a file keeps its bytes or holds its text collapsed. -/
inductive Collapsed : Node → Node → Prop
  | dir : Collapsed .dir .dir
  | same (bytes : ByteArray) : Collapsed (.file bytes) (.file bytes)
  | text {bytes : ByteArray} {t : String} (h : String.fromUTF8? bytes = some t) :
      Collapsed (.file bytes) (.file (BlankLines.collapse t).toUTF8)

@[simp] theorem fromUTF8?_toUTF8 (s : String) : String.fromUTF8? s.toUTF8 = some s := by
  simp only [String.fromUTF8?, String.toUTF8_eq_toByteArray, dif_pos s.isValidUTF8]
  rfl

/-- Bytes that decode to a text are that text's bytes. -/
theorem toUTF8_of_fromUTF8? {b : ByteArray} {s : String} (h : String.fromUTF8? b = some s) :
    s.toUTF8 = b := by
  unfold String.fromUTF8? at h
  split at h
  · cases h
    rfl
  · cases h

theorem Collapsed.refl : ∀ n : Node, Collapsed n n
  | .dir => .dir
  | .file bytes => .same bytes

/-- Collapsing twice is collapsing once, so edits compose. -/
theorem Collapsed.trans {a b c : Node} (hab : Collapsed a b) (hbc : Collapsed b c) :
    Collapsed a c := by
  cases hab with
  | dir => exact hbc
  | same => exact hbc
  | text h =>
    cases hbc with
    | same => exact .text h
    | text h' =>
      rw [fromUTF8?_toUTF8, Option.some.injEq] at h'
      rw [← h', BlankLines.collapse_collapse]
      exact .text h

theorem Collapsed.isDir_eq {n n' : Node} (h : Collapsed n n') : n'.isDir = n.isDir := by
  cases h <;> rfl

/-- A file's bytes after the edit: the same, or its text collapsed. -/
def CollapsedBytes (b b' : ByteArray) : Prop := Collapsed (.file b) (.file b')

/-- A file's text after the edit: the same, or collapsed. -/
def CollapsedText (t t' : String) : Prop := t' = t ∨ t' = BlankLines.collapse t

/-- Decoding edited bytes gives the old text or its collapse. -/
theorem CollapsedBytes.fromUTF8? {b b' : ByteArray} (h : CollapsedBytes b b') :
    Option.Rel CollapsedText (String.fromUTF8? b) (String.fromUTF8? b') := by
  unfold CollapsedBytes at h
  cases h with
  | same =>
    cases String.fromUTF8? b with
    | none => exact .none
    | some t => exact .some (.inl rfl)
  | text h => rw [h, fromUTF8?_toUTF8]; exact .some (.inr rfl)

end Node

namespace FileSystem

/-- Two lists of nodes, the second with the texts of some files collapsed. -/
def NodesCollapsed (l l' : List (Location × Node)) : Prop :=
  List.Forall₂ (fun e e' => e'.1 = e.1 ∧ Node.Collapsed e.2 e'.2) l l'

theorem NodesCollapsed.trans {l l' l'' : List (Location × Node)} (h : NodesCollapsed l l')
    (h' : NodesCollapsed l' l'') : NodesCollapsed l l'' := by
  induction h generalizing l'' with
  | nil => cases h'; exact .nil
  | cons he _ ih =>
    cases h' with
    | cons he' hrest => exact .cons ⟨he'.1.trans he.1, he.2.trans he'.2⟩ (ih hrest)

theorem NodesCollapsed.map_kind {l l' : List (Location × Node)} (h : NodesCollapsed l l') :
    l'.map (Prod.map id Node.isDir) = l.map (Prod.map id Node.isDir) := by
  induction h with
  | nil => rfl
  | @cons e e' _ _ he _ ih =>
    obtain ⟨l, n⟩ := e
    obtain ⟨l', n'⟩ := e'
    obtain ⟨hl, hn⟩ := he
    simp only at hl
    simp [hl, hn.isDir_eq, ih]

/-- `fs'` is `fs` with the texts of some files collapsed. -/
structure CollapsedTo (fs fs' : FileSystem) : Prop where
  cwd : fs'.cwd = fs.cwd
  nodes : NodesCollapsed fs.nodes fs'.nodes

namespace CollapsedTo

theorem refl (fs : FileSystem) : fs.CollapsedTo fs :=
  ⟨rfl, List.forall₂_same.2 fun e _ => ⟨rfl, Node.Collapsed.refl e.2⟩⟩

theorem trans {fs fs' fs'' : FileSystem} (h : fs.CollapsedTo fs') (h' : fs'.CollapsedTo fs'') :
    fs.CollapsedTo fs'' :=
  ⟨h'.cwd.trans h.cwd, h.nodes.trans h'.nodes⟩

/-- The locations and kinds of the nodes are kept. -/
theorem nodes_map_kind {fs fs' : FileSystem} (h : fs.CollapsedTo fs') :
    fs'.nodes.map (Prod.map id Node.isDir) = fs.nodes.map (Prod.map id Node.isDir) :=
  h.nodes.map_kind

theorem nodes_map_fst {fs fs' : FileSystem} (h : fs.CollapsedTo fs') :
    fs'.nodes.map Prod.fst = fs.nodes.map Prod.fst := by
  have hk := congrArg (List.map Prod.fst) h.nodes_map_kind
  simpa [Function.comp_def] using hk

theorem length_nodes {fs fs' : FileSystem} (h : fs.CollapsedTo fs') :
    fs'.nodes.length = fs.nodes.length := by
  simpa using congrArg List.length h.nodes_map_fst

theorem depth {fs fs' : FileSystem} (h : fs.CollapsedTo fs') : fs'.depth = fs.depth := by
  have hlen : fs'.nodes.map (·.1.length) = fs.nodes.map (·.1.length) := by
    simpa [List.map_map, Function.comp_def] using congrArg (List.map List.length) h.nodes_map_fst
  rw [FileSystem.depth, FileSystem.depth, hlen]

end CollapsedTo

/-! ## Resolving paths -/

/-- A location reached with its node, before and after the edit. -/
def Reached (r r' : Location × Node) : Prop := r'.1 = r.1 ∧ Node.Collapsed r.2 r'.2

theorem NodesCollapsed.find? {l l' : List (Location × Node)} (h : NodesCollapsed l l')
    (loc : Location) :
    Option.Rel Reached (l.find? (·.1 == loc)) (l'.find? (·.1 == loc)) := by
  induction h with
  | nil => exact .none
  | @cons e e' _ _ he _ ih =>
    by_cases hloc : e.1 = loc
    · have hp : (e.1 == loc) = true := by simpa using hloc
      have hp' : (e'.1 == loc) = true := by simpa [he.1] using hloc
      rw [List.find?_cons_of_pos (p := fun x : Location × Node => x.1 == loc) hp,
        List.find?_cons_of_pos (p := fun x : Location × Node => x.1 == loc) hp']
      exact .some he
    · have hp : ¬(e.1 == loc) = true := by simpa using hloc
      have hp' : ¬(e'.1 == loc) = true := by simpa [he.1] using hloc
      rw [List.find?_cons_of_neg (p := fun x : Location × Node => x.1 == loc) hp,
        List.find?_cons_of_neg (p := fun x : Location × Node => x.1 == loc) hp']
      exact ih

variable {fs fs' : FileSystem}

theorem CollapsedTo.nodeAt? (h : fs.CollapsedTo fs') (loc : Location) :
    Option.Rel Node.Collapsed (fs.nodeAt? loc) (fs'.nodeAt? loc) := by
  cases loc with
  | nil => exact .some .dir
  | cons name rest =>
    have hfind := h.nodes.find? (name :: rest)
    revert hfind
    simp only [FileSystem.nodeAt?]
    generalize fs.nodes.find? (·.1 == name :: rest) = a
    generalize fs'.nodes.find? (·.1 == name :: rest) = b
    rintro (hab | _)
    · exact .some hab.2
    · exact .none

theorem CollapsedTo.stepPiece (h : fs.CollapsedTo fs') {cur cur' : Location × Node}
    (hc : Reached cur cur') (piece : String) :
    ExceptRel Reached (fs.stepPiece cur piece) (fs'.stepPiece cur' piece) := by
  obtain ⟨loc, n⟩ := cur
  obtain ⟨loc', n'⟩ := cur'
  obtain ⟨rfl, hn⟩ := hc
  cases hn with
  | same => exact .error _
  | text => exact .error _
  | dir =>
    simp only [FileSystem.stepPiece]
    split
    · exact .ok ⟨rfl, .dir⟩
    split
    · exact .ok ⟨rfl, .dir⟩
    split
    · exact .error _
    have hnode := h.nodeAt? (loc' ++ [piece])
    revert hnode
    generalize fs.nodeAt? (loc' ++ [piece]) = a
    generalize fs'.nodeAt? (loc' ++ [piece]) = b
    rintro (hab | _)
    · exact .ok ⟨rfl, hab⟩
    · exact .error _

theorem CollapsedTo.walkPieces (h : fs.CollapsedTo fs') {cur cur' : Location × Node}
    (hc : Reached cur cur') (pieces : List String) :
    ExceptRel Reached (fs.walkPieces cur pieces) (fs'.walkPieces cur' pieces) := by
  induction pieces generalizing cur cur' with
  | nil => exact .ok hc
  | cons piece rest ih =>
    have hstep := h.stepPiece hc piece
    revert hstep
    simp only [FileSystem.walkPieces]
    generalize fs.stepPiece cur piece = x
    generalize fs'.stepPiece cur' piece = y
    rintro (e | hnext)
    · exact .error e
    · exact ih hnext

/-- A path resolves alike before and after the edit. -/
theorem CollapsedTo.resolve (h : fs.CollapsedTo fs') (p : Path) :
    ExceptRel Reached (fs.resolve p) (fs'.resolve p) := by
  simp only [FileSystem.resolve, h.cwd]
  split
  · exact .error _
  split
  · exact .error _
  split
  · exact .error _
  exact h.walkPieces ⟨rfl, .dir⟩ _

theorem CollapsedTo.metadata (h : fs.CollapsedTo fs') (p : Path) :
    ExceptRel Node.Collapsed (fs.metadata p) (fs'.metadata p) := by
  have hres := h.resolve p
  revert hres
  simp only [FileSystem.metadata]
  generalize fs.resolve p = x
  generalize fs'.resolve p = y
  rintro (e | hab)
  · exact .error e
  · exact .ok hab.2

theorem CollapsedTo.pathExists (h : fs.CollapsedTo fs') (p : Path) :
    fs'.pathExists p = fs.pathExists p := by
  have hmeta := h.metadata p
  revert hmeta
  simp only [FileSystem.pathExists]
  generalize fs.metadata p = x
  generalize fs'.metadata p = y
  rintro (e | _) <;> rfl

theorem CollapsedTo.isFile (h : fs.CollapsedTo fs') (p : Path) :
    fs'.isFile p = fs.isFile p := by
  have hmeta := h.metadata p
  revert hmeta
  simp only [FileSystem.isFile]
  generalize fs.metadata p = x
  generalize fs'.metadata p = y
  rintro (e | hab)
  · rfl
  · simp [Node.isFile, hab.isDir_eq]

theorem CollapsedTo.isDir (h : fs.CollapsedTo fs') (p : Path) :
    fs'.isDir p = fs.isDir p := by
  have hmeta := h.metadata p
  revert hmeta
  simp only [FileSystem.isDir]
  generalize fs.metadata p = x
  generalize fs'.metadata p = y
  rintro (e | hab)
  · rfl
  · exact hab.isDir_eq

/-- A file holds the same bytes or its text collapsed; a failure to read is the same. -/
theorem CollapsedTo.readBytes (h : fs.CollapsedTo fs') (p : Path) :
    ExceptRel Node.CollapsedBytes (fs.readBytes p) (fs'.readBytes p) := by
  have hmeta := h.metadata p
  revert hmeta
  simp only [FileSystem.readBytes]
  generalize fs.metadata p = x
  generalize fs'.metadata p = y
  rintro (e | hab)
  · exact .error e
  · cases hab with
    | dir => exact .error _
    | same b => exact .ok (.same b)
    | text ht => exact .ok (.text ht)

/-- A file's text is the same or collapsed; a failure to read is the same. -/
theorem CollapsedTo.readText (h : fs.CollapsedTo fs') (p : Path) :
    ExceptRel Node.CollapsedText (fs.readText p) (fs'.readText p) := by
  have hbytes := h.readBytes p
  revert hbytes
  simp only [FileSystem.readText]
  generalize fs.readBytes p = x
  generalize fs'.readBytes p = y
  intro hrel
  cases hrel with
  | error e => exact .error e
  | @ok b b' hab =>
    have hdec := hab.fromUTF8?
    revert hdec
    dsimp only
    generalize String.fromUTF8? b = a
    generalize String.fromUTF8? b' = a'
    rintro (ht | _)
    · exact .ok ht
    · exact .error _

/-! ## Directory entries and searches -/

theorem sortNames_map {α β : Type} (f : α → β) (xs : List (String × α)) :
    (sortNames xs).map (Prod.map id f) = sortNames (xs.map (Prod.map id f)) :=
  List.map_mergeSort (by simp)

/-- The entries of a directory with their kinds depend only on the locations and kinds of
the nodes. -/
theorem childrenAt_map_kind (fs : FileSystem) (loc : Location) :
    (fs.childrenAt loc).map (Prod.map id Node.isDir) =
      sortNames ((fs.nodes.map (Prod.map id Node.isDir)).filterMap fun e =>
        match e.1.getLast?, e.1.dropLast == loc with
        | some name, true => some (name, e.2)
        | _, _ => none) := by
  rw [childrenAt, sortNames_map, List.map_filterMap, List.filterMap_map]
  congr 1
  apply List.filterMap_congr
  rintro ⟨l, n⟩ -
  simp only [Function.comp_apply, Prod.map_fst, Prod.map_snd, id]
  split <;> simp_all

theorem CollapsedTo.childrenAt (h : fs.CollapsedTo fs') (loc : Location) :
    (fs'.childrenAt loc).map (Prod.map id Node.isDir) =
      (fs.childrenAt loc).map (Prod.map id Node.isDir) := by
  rw [childrenAt_map_kind, childrenAt_map_kind, h.nodes_map_kind]

/-- A directory lists the same names with the same kinds. -/
theorem CollapsedTo.readDir (h : fs.CollapsedTo fs') (p : Path) :
    ExceptRel (fun es es' => es'.map (Prod.map id Node.isDir) = es.map (Prod.map id Node.isDir))
      (fs.readDir p) (fs'.readDir p) := by
  have hres := h.resolve p
  revert hres
  simp only [FileSystem.readDir]
  generalize fs.resolve p = x
  generalize fs'.resolve p = y
  intro hrel
  cases hrel with
  | error e => exact .error e
  | @ok r r' hr =>
    obtain ⟨loc, n⟩ := r
    obtain ⟨loc', n'⟩ := r'
    obtain ⟨hloc, hn⟩ := hr
    simp only at hloc
    subst hloc
    cases hn with
    | dir => exact .ok (h.childrenAt _)
    | same => exact .error _
    | text => exact .error _

/-- The names of the entries of one kind. -/
theorem names_filter_isFile (es : List (String × Node)) :
    (es.filter (·.2.isFile)).map (·.1) =
      ((es.map (Prod.map id Node.isDir)).filter (fun e => !e.2)).map (·.1) := by
  induction es with
  | nil => rfl
  | cons e es ih => cases he : e.2.isDir <;> simp_all [Node.isFile]

theorem names_filter_isDir (es : List (String × Node)) :
    (es.filter (·.2.isDir)).map (·.1) =
      ((es.map (Prod.map id Node.isDir)).filter (fun e => e.2)).map (·.1) := by
  induction es with
  | nil => rfl
  | cons e es ih => cases he : e.2.isDir <;> simp_all

theorem CollapsedTo.listing (h : fs.CollapsedTo fs') : fs'.listing = fs.listing := by
  funext p
  have hdir := h.readDir p
  revert hdir
  simp only [FileSystem.listing]
  generalize fs.readDir p = x
  generalize fs'.readDir p = y
  rintro (e | hes)
  · rfl
  · dsimp only
    rw [names_filter_isFile, names_filter_isFile, names_filter_isDir, names_filter_isDir, hes]

theorem CollapsedTo.findUpwardAux (h : fs.CollapsedTo fs') (name : String) (stop : Bool)
    (fuel : Nat) (dir : Path) :
    fs'.findUpwardAux name stop fuel dir = fs.findUpwardAux name stop fuel dir := by
  induction fuel generalizing dir with
  | zero => rfl
  | succ fuel ih => simp only [FileSystem.findUpwardAux, h.pathExists, ih]

theorem CollapsedTo.findUpward (h : fs.CollapsedTo fs') (start : Path) (name : String)
    (stop : Bool) : fs'.findUpward start name stop = fs.findUpward start name stop :=
  h.findUpwardAux name stop _ start

theorem CollapsedTo.cwdPath (h : fs.CollapsedTo fs') : fs'.cwdPath = fs.cwdPath := by
  simp [FileSystem.cwdPath, h.cwd]

theorem CollapsedTo.searchStart (h : fs.CollapsedTo fs') (file : Path) (baseDir : Option Path) :
    fs'.searchStart file baseDir = fs.searchStart file baseDir := by
  simp [FileSystem.searchStart, FileSystem.absolutePath, h.cwdPath]

/-! ## Writing a collapsed text back -/

/-- What resolution reaches is a directory, or the node stored at its location. -/
def StoredOrDir (fs : FileSystem) (r : Location × Node) : Prop :=
  r.2.isDir = true ∨ fs.nodeAt? r.1 = some r.2

theorem storedOrDir_stepPiece {cur next : Location × Node} {piece : String}
    (h : fs.stepPiece cur piece = .ok next) : fs.StoredOrDir next := by
  obtain ⟨loc, n⟩ := cur
  cases n with
  | file b => cases h
  | dir =>
    simp only [FileSystem.stepPiece] at h
    split at h
    · cases h; exact .inl rfl
    split at h
    · cases h; exact .inl rfl
    split at h
    · cases h
    cases hn : fs.nodeAt? (loc ++ [piece]) with
    | none => rw [hn] at h; cases h
    | some n => rw [hn] at h; cases h; exact .inr hn

theorem storedOrDir_walkPieces {cur r : Location × Node} {pieces : List String}
    (hcur : fs.StoredOrDir cur) (h : fs.walkPieces cur pieces = .ok r) : fs.StoredOrDir r := by
  induction pieces generalizing cur with
  | nil => cases h; exact hcur
  | cons piece rest ih =>
    simp only [FileSystem.walkPieces] at h
    cases hs : fs.stepPiece cur piece with
    | error e => rw [hs] at h; cases h
    | ok next => rw [hs] at h; exact ih (storedOrDir_stepPiece hs) h

/-- A path that resolves to a file resolves to the file stored at its location. -/
theorem nodeAt?_of_resolve {p : Path} {loc : Location} {n : Node}
    (h : fs.resolve p = .ok (loc, n)) (hn : n.isDir = false) : fs.nodeAt? loc = some n := by
  simp only [FileSystem.resolve] at h
  split at h
  · cases h
  split at h
  · cases h
  split at h
  · cases h
  rcases storedOrDir_walkPieces (.inl rfl) h with hdir | hnode
  · simp [hn] at hdir
  · exact hnode

theorem resolve_of_readBytes {p : Path} {b : ByteArray} (h : fs.readBytes p = .ok b) :
    ∃ loc, fs.resolve p = .ok (loc, .file b) := by
  simp only [FileSystem.readBytes, FileSystem.metadata] at h
  cases hr : fs.resolve p with
  | error e => rw [hr] at h; cases h
  | ok r =>
    obtain ⟨loc, n⟩ := r
    rw [hr] at h
    cases n with
    | dir => cases h
    | file b' => cases h; exact ⟨loc, rfl⟩

theorem nodeAt?_setNode_self {loc : Location} {b : ByteArray} {n' : Node}
    (h : fs.nodeAt? loc = some (.file b)) : (fs.setNode loc n').nodeAt? loc = some n' := by
  cases loc with
  | nil => cases h
  | cons name rest =>
    simp only [FileSystem.nodeAt?, Option.map_eq_some_iff] at h
    obtain ⟨e, he, -⟩ := h
    have hloc : e.1 = name :: rest := by simpa using List.find?_some he
    have hany : fs.nodes.any (·.1 == name :: rest) = true :=
      List.any_eq_true.2 ⟨e, List.mem_of_find?_eq_some he, by simp [hloc]⟩
    simp only [FileSystem.setNode, dif_pos hany, FileSystem.nodeAt?, List.find?_map]
    have hfind : fs.nodes.find? ((·.1 == name :: rest) ∘ fun e =>
        if e.1 == name :: rest then (name :: rest, n') else e) =
        fs.nodes.find? (·.1 == name :: rest) := by
      congr 1
      funext e
      by_cases he : e.1 = name :: rest <;> simp [he]
    rw [hfind, he]
    simp [hloc]

/-- Replacing the one file stored at a location by the collapse of its text is a collapsing
edit, since every location is stored once. -/
theorem collapsedTo_setNode {loc : Location}
    {b : ByteArray} {t : String} (hloc : fs.nodeAt? loc = some (.file b))
    (ht : String.fromUTF8? b = some t) :
    fs.CollapsedTo (fs.setNode loc (.file (BlankLines.collapse t).toUTF8)) := by
  cases loc with
  | nil => cases hloc
  | cons name rest =>
    simp only [FileSystem.nodeAt?, Option.map_eq_some_iff] at hloc
    obtain ⟨e, he, hnode⟩ := hloc
    have hmem : e ∈ fs.nodes := List.mem_of_find?_eq_some he
    have heloc : e.1 = name :: rest := by simpa using List.find?_some he
    have hany : fs.nodes.any (·.1 == name :: rest) = true :=
      List.any_eq_true.2 ⟨e, hmem, by simp [heloc]⟩
    rw [FileSystem.setNode, dif_pos hany]
    refine ⟨rfl, ?_⟩
    refine List.forall₂_map_right_iff.2 (List.forall₂_same.2 fun e' he' => ?_)
    by_cases he'loc : e'.1 = name :: rest
    · -- the location is stored once, so this is the file that was read
      have hsame : e' = e :=
        List.inj_on_of_nodup_map fs.nodup he' hmem (he'loc.trans heloc.symm)
      subst hsame
      simp only [he'loc, beq_self_eq_true, if_true, true_and]
      rw [hnode]
      exact .text ht
    · simp only [beq_iff_eq, he'loc, if_false, true_and]
      exact Node.Collapsed.refl _

/-- **Writing a file's text back collapsed.** The write succeeds, it is a collapsing edit,
and the file then reads as the collapsed text. -/
theorem writeText_collapse {p : Path} {b : ByteArray}
    {t : String} (hread : fs.readBytes p = .ok b) (ht : String.fromUTF8? b = some t) :
    ∃ fs', fs.writeText p (BlankLines.collapse t) = .ok fs' ∧ fs.CollapsedTo fs' ∧
      fs'.readBytes p = .ok (BlankLines.collapse t).toUTF8 := by
  obtain ⟨loc, hres⟩ := resolve_of_readBytes hread
  have hloc := nodeAt?_of_resolve hres rfl
  have hedit := collapsedTo_setNode hloc ht
  refine ⟨_, by simp [FileSystem.writeText, FileSystem.writeBytes, hres], hedit, ?_⟩
  -- the edited system resolves the path to the same location, where the new file is
  obtain ⟨r, hres', hr⟩ := (hedit.resolve p).of_ok hres
  obtain ⟨loc', n'⟩ := r
  obtain ⟨hloc', hn'⟩ := hr
  simp only at hloc'
  subst hloc'
  have hstored := nodeAt?_of_resolve hres' (by rw [hn'.isDir_eq]; rfl)
  rw [nodeAt?_setNode_self hloc, Option.some.injEq] at hstored
  subst hstored
  rw [FileSystem.readBytes, FileSystem.metadata, hres']
  rfl

end FileSystem

end FormatConfig
