import FormatConfig.Path.Basic
import Mathlib.Data.List.Infix

/-!
# Joining names onto a path

A directory listing hands out names: texts that are one normal component, with no slash in
them and neither `.` nor `..`. Appending such a name with `Path.joinText` adds exactly that
component, whatever the spelling of the path it is appended to (empty, ending in a slash,
starting with `./`, absolute).

So a path built from a base by appending names has the base's components followed by the
names (`components_joinNames`), its text relative to the base is the names joined by
slashes (`relativeSlashText?_joinNames`), and two such paths name the same thing exactly
when their names agree (`sameComponents_joinNames`). These are the facts a directory walk
needs to rebuild, compare and match the paths it visits.
-/

namespace FormatConfig

namespace Path

/-- A name as a directory listing gives it: a single normal component. -/
structure IsName (s : String) : Prop where
  ne_empty : s ≠ ""
  no_slash : '/' ∉ s.toList
  ne_cur : s ≠ "."
  ne_parent : s ≠ ".."

/-- Appends names one after the other. -/
def joinNames (p : Path) (names : List String) : Path := names.foldl joinText p

@[simp] theorem joinNames_nil (p : Path) : p.joinNames [] = p := rfl

@[simp] theorem joinNames_append_singleton (p : Path) (names : List String) (n : String) :
    p.joinNames (names ++ [n]) = (p.joinNames names).joinText n := by
  simp [joinNames]

theorem slashPieces_of_no_slash {s : String} (h : '/' ∉ s.toList) : slashPieces s = [s] := by
  simp [slashPieces, List.splitOn_eq_singleton h]

theorem slashPieces_append_slash (a b : String) :
    slashPieces (a ++ "/" ++ b) = slashPieces a ++ slashPieces b := by
  simp [slashPieces, List.splitOn_append_cons_self]

theorem slashPieces_ne_nil (s : String) : slashPieces s ≠ [] := by
  simp [slashPieces]

/-- A trailing slash leaves an empty last piece. -/
theorem slashPieces_append_slash_end (t : String) : slashPieces (t ++ "/") = slashPieces t ++ [""] := by
  simpa [slashPieces_of_no_slash] using slashPieces_append_slash t ""

@[simp] theorem bodyComponent_empty : bodyComponent "" = none := rfl

theorem bodyComponent_of_isName {s : String} (h : IsName s) :
    bodyComponent s = some (.normal s) := by
  unfold bodyComponent
  split
  · exact absurd rfl h.ne_empty
  · exact absurd rfl h.ne_cur
  · exact absurd rfl h.ne_parent
  · rfl

theorem isAbsolute_iff (p : Path) : p.isAbsolute = true ↔ ['/'] <+: p.text.toList := by
  simp [isAbsolute]

/-- Whether a path is absolute is decided by its first character. -/
theorem isAbsolute_append {a : String} (b : String) (ha : a ≠ "") :
    isAbsolute ⟨a ++ b⟩ = isAbsolute ⟨a⟩ := by
  obtain ⟨c, cs, hc⟩ := List.exists_cons_of_ne_nil (mt String.toList_eq_nil_iff.1 ha)
  apply Bool.eq_iff_iff.2
  simp [isAbsolute_iff, String.toList_append, hc]

/-- A name is never absolute: it has no slash. -/
theorem isAbsolute_name {s : String} (h : IsName s) : isAbsolute ⟨s⟩ = false := by
  apply Bool.eq_false_iff.2
  intro habs
  obtain ⟨t, ht⟩ := (isAbsolute_iff _).1 habs
  exact h.no_slash (by simp [← ht])

/-- A name alone is one normal component. -/
theorem components_of_isName {s : String} (h : IsName s) :
    (⟨s⟩ : Path).components = [.normal s] := by
  simp [components, slashPieces_of_no_slash h.no_slash, isAbsolute_name h, h.ne_cur,
    bodyComponent_of_isName h]

@[simp] theorem components_empty : (⟨""⟩ : Path).components = [] := by
  decide

theorem slashPieces_empty : slashPieces "" = [""] := by
  simp [slashPieces]

/-- The root alone is the root component. -/
theorem components_root : (⟨"/"⟩ : Path).components = [.root] := by
  have hsplit : ['/'].splitOn '/' = [[], []] := by decide
  have habs : isAbsolute ⟨"/"⟩ = true := by simp [isAbsolute_iff]
  simp [components, slashPieces, hsplit, habs]

/-- A doubled slash is the root component too. -/
theorem components_doubleSlash : (⟨"//"⟩ : Path).components = [.root] := by
  have hsplit : ['/', '/'].splitOn '/' = [[], [], []] := by decide
  have habs : isAbsolute ⟨"//"⟩ = true := by simp [isAbsolute_iff]
  simp [components, slashPieces, hsplit, habs]

/-- A lone `.` is the current directory. -/
theorem components_curDir : (⟨"."⟩ : Path).components = [.curDir] := by
  have hsplit : ['.'].splitOn '/' = [['.']] := by decide
  have habs : isAbsolute ⟨"."⟩ = false := by
    rw [← Bool.not_eq_true, isAbsolute_iff]
    simp
  simp [components, slashPieces, hsplit, habs]

/-- After a slash, a piece without slashes adds the component it means and nothing else. -/
theorem components_slash_append (t : String) {x : String} (hx : '/' ∉ x.toList) :
    (⟨t ++ "/" ++ x⟩ : Path).components =
      (⟨t ++ "/"⟩ : Path).components ++ (bodyComponent x).toList := by
  have hslash : t ++ "/" ≠ "" := by simp [← String.toList_eq_nil_iff, String.toList_append]
  have habs : isAbsolute ⟨t ++ "/" ++ x⟩ = isAbsolute ⟨t ++ "/"⟩ := isAbsolute_append x hslash
  obtain ⟨first, rest, hfirst⟩ := List.exists_cons_of_ne_nil (slashPieces_ne_nil t)
  have hlast : [x].filterMap bodyComponent = [""].filterMap bodyComponent ++ (bodyComponent x).toList := by
    cases hb : bodyComponent x <;> simp [hb]
  simp only [components, slashPieces_append_slash, slashPieces_append_slash_end,
    slashPieces_of_no_slash hx, hfirst, habs]
  by_cases hroot : isAbsolute ⟨t ++ "/"⟩ = true <;> by_cases hdot : first = "." <;>
    cases hf : bodyComponent first <;>
    simp [hroot, hdot, hf, hlast, List.filterMap_append, List.filterMap_cons]

/-- A trailing slash after a non-empty text adds no component. -/
theorem components_append_slash {t : String} (ht : t ≠ "") :
    (⟨t ++ "/"⟩ : Path).components = (⟨t⟩ : Path).components := by
  have habs : isAbsolute ⟨t ++ "/"⟩ = isAbsolute ⟨t⟩ := isAbsolute_append "/" ht
  obtain ⟨first, rest, hfirst⟩ := List.exists_cons_of_ne_nil (slashPieces_ne_nil t)
  simp only [components, slashPieces_append_slash_end, hfirst, habs]
  by_cases hroot : isAbsolute ⟨t⟩ = true <;> by_cases hdot : first = "." <;>
    cases hf : bodyComponent first <;>
    simp [hroot, hdot, hf, List.filterMap_append, List.filterMap_cons]

theorem exists_eq_append_slash {t : String} (h : t.endsWith "/" = true) :
    ∃ u : String, t = u ++ "/" := by
  obtain ⟨l, hl⟩ : ['/'] <:+ t.toList := by simpa [← String.endsWith_toSlice] using h
  exact ⟨String.ofList l, String.toList_injective (by simp [String.toList_append, hl])⟩

/-- Appending a piece without slashes adds the component it means, however the path is
spelled; only `.`, which would start a relative path, is left out. -/
theorem components_joinText_piece (p : Path) {s : String} (hslash : '/' ∉ s.toList)
    (hdot : s ≠ ".") :
    (p.joinText s).components = p.components ++ (bodyComponent s).toList := by
  have habs : isAbsolute ⟨s⟩ = false := by
    apply Bool.eq_false_iff.2
    intro h
    obtain ⟨t, ht⟩ := (isAbsolute_iff _).1 h
    exact hslash (by simp [← ht])
  simp only [joinText, join, habs, Bool.false_eq_true, if_false]
  by_cases hempty : p.text = ""
  · obtain ⟨text⟩ := p
    subst hempty
    have hpiece : (⟨s⟩ : Path).components = (bodyComponent s).toList := by
      simp only [components, slashPieces_of_no_slash hslash, habs, hdot, Bool.false_eq_true,
        if_false]
      cases hb : bodyComponent s <;> simp [hb]
    simp [hpiece]
  · by_cases hend : p.text.endsWith "/" = true
    · obtain ⟨u, hu⟩ := exists_eq_append_slash hend
      simp only [hempty, hend, decide_false, Bool.or_true, if_true]
      have hp : p = ⟨u ++ "/"⟩ := by cases p; simp_all
      rw [hu, components_slash_append u hslash, hp]
    · simp only [hempty, hend, decide_false, Bool.or_false, Bool.false_eq_true, if_false]
      rw [components_slash_append p.text hslash, components_append_slash hempty]

/-- Appending a name adds exactly its component, however the path is spelled. -/
theorem components_joinText (p : Path) {s : String} (h : IsName s) :
    (p.joinText s).components = p.components ++ [.normal s] := by
  rw [components_joinText_piece p h.no_slash h.ne_cur, bodyComponent_of_isName h]
  rfl

/-- Names joined by slashes split back into the names. -/
theorem slashPieces_intercalate {names : List String} (h : ∀ n ∈ names, '/' ∉ n.toList)
    (hne : names ≠ []) : slashPieces ("/".intercalate names) = names := by
  have hsplit : (['/'].intercalate (names.map String.toList)).splitOn '/' =
      names.map String.toList :=
    List.splitOn_intercalate '/' (by simpa using h) (by simpa using hne)
  simp [slashPieces, hsplit, Function.comp_def]

/-- Appending names adds their components, in order. -/
theorem components_joinNames (p : Path) {names : List String} (h : ∀ n ∈ names, IsName n) :
    (p.joinNames names).components = p.components ++ names.map .normal := by
  induction names generalizing p with
  | nil => simp
  | cons n rest ih =>
    have hn : IsName n := h n (by simp)
    have hrest : ∀ m ∈ rest, IsName m := fun m hm => h m (by simp [hm])
    calc (p.joinNames (n :: rest)).components
        = ((p.joinText n).joinNames rest).components := rfl
      _ = (p.joinText n).components ++ rest.map .normal := ih _ hrest
      _ = p.components ++ (n :: rest).map .normal := by
        simp [components_joinText p hn]

theorem stripPrefix?_go_append (base rest : List Component) :
    stripPrefix?.go (base ++ rest) base = some rest := by
  induction base with
  | nil => cases rest <;> rfl
  | cons b bs ih => simp [stripPrefix?.go, ih]

/-- Below a base, the relative text of appended names is the names joined by slashes. -/
theorem relativeSlashText?_joinNames (p : Path) {names : List String}
    (h : ∀ n ∈ names, IsName n) :
    (p.joinNames names).relativeSlashText? p = some ("/".intercalate names) := by
  have htext : (names.map Component.normal).map Component.text = names := by
    simp [Function.comp_def, Component.text]
  simp [relativeSlashText?, stripPrefix?, components_joinNames p h, stripPrefix?_go_append,
    htext]

/-- Two paths below one base name the same thing exactly when the names appended agree. -/
theorem sameComponents_joinNames (p : Path) {names names' : List String}
    (h : ∀ n ∈ names, IsName n) (h' : ∀ n ∈ names', IsName n) :
    (p.joinNames names).sameComponents (p.joinNames names') = (names == names') := by
  have hinj : Function.Injective (List.map Component.normal) :=
    List.map_injective_iff.2 fun _ _ e => Component.normal.inj e
  simp [sameComponents, components_joinNames p h, components_joinNames p h', hinj.eq_iff]

end Path

end FormatConfig
