import FormatConfig.Proofs.PathJoin
import Mathlib.Data.List.DropRight

/-!
# The parent of a path and the chain of its ancestors

`Path.parent?` works on the text: it keeps the head (the root slash or a leading `.`), and
of the pieces after it drops the last one that names something, together with the
separators and `.` pieces around it. This module shows what that means for the
components: the parent has the path's components without the last one
(`components_parent?`), only the empty path and the root have no parent
(`parent?_eq_none_iff`), and the parent's text is strictly shorter
(`text_length_lt_of_parent?`).

So taking parents one after another ends: `Path.ancestors` is the chain of a path, its
parent, the parent's parent and so on, and it has at most one path more than the text has
characters (`length_ancestors_le`). This is the chain along which configuration files are
looked up.
-/

namespace FormatConfig

namespace Path

/-! ## Pieces between slashes -/

/-- No piece of a split at slashes holds a slash. -/
theorem not_mem_of_mem_splitOn {cs l : List Char} (h : l ∈ cs.splitOn '/') : '/' ∉ l := by
  induction cs generalizing l with
  | nil => simp_all
  | cons c cs ih =>
    rw [List.splitOn_eq_splitOnP, List.splitOnP_cons_eq_if_modifyHead,
      ← List.splitOn_eq_splitOnP] at h
    split at h
    · rcases List.mem_cons.1 h with rfl | h
      · simp
      · exact ih h
    · next hc =>
      obtain ⟨l₀, ls, hls⟩ := List.exists_cons_of_ne_nil (List.splitOn_ne_nil '/' cs)
      rw [hls, List.modifyHead_cons] at h
      rcases List.mem_cons.1 h with rfl | h
      · have : '/' ∉ l₀ := ih (by simp [hls])
        simp only [beq_iff_eq] at hc
        simp [this, Ne.symm hc]
      · exact ih (by simp [hls, h])

/-- No piece between slashes holds a slash. -/
theorem not_mem_of_mem_slashPieces {t s : String} (h : s ∈ slashPieces t) : '/' ∉ s.toList := by
  obtain ⟨l, hl, rfl⟩ := List.mem_map.1 h
  simpa using not_mem_of_mem_splitOn hl

/-- Joining the pieces of a text with slashes gives the text back. -/
@[simp] theorem intercalate_slashPieces (t : String) : "/".intercalate (slashPieces t) = t := by
  apply String.toList_injective
  simp [slashPieces, Function.comp_def, List.intercalate_splitOn]

/-- Slashes joining pieces after a first one: the joined text starts with the first piece. -/
theorem exists_intercalate_cons (s : String) (rest : List String) :
    ∃ u, "/".intercalate (s :: rest) = s ++ u := by
  cases rest with
  | nil => exact ⟨"", by simp⟩
  | cons r rest => exact ⟨"/" ++ "/".intercalate (r :: rest), by simp [String.intercalate_cons_cons, String.append_assoc]⟩

theorem splitOn_append_of_not_mem {a : List Char} (ha : '/' ∉ a) (cs : List Char) :
    (a ++ cs).splitOn '/' = (cs.splitOn '/').modifyHead (a ++ ·) := by
  induction a with
  | nil =>
    rw [List.nil_append]
    cases cs.splitOn '/' <;> rfl
  | cons c a ih =>
    have hc : (c == '/') = false := beq_eq_false_iff_ne.2 fun h => ha (by simp [h])
    rw [List.cons_append, List.splitOn_cons_eq_if_modifyHead, hc, if_neg Bool.false_ne_true,
      ih (fun h => ha (List.mem_cons_of_mem _ h)), List.modifyHead_modifyHead]
    rfl

/-- Text without a slash in front of a path joins its first piece. -/
theorem slashPieces_append_of_no_slash {a : String} (ha : '/' ∉ a.toList) (u : String) :
    slashPieces (a ++ u) = (slashPieces u).modifyHead (a ++ ·) := by
  obtain ⟨f, r, hfr⟩ := List.exists_cons_of_ne_nil (List.splitOn_ne_nil '/' u.toList)
  simp [slashPieces, String.toList_append, splitOn_append_of_not_mem ha, hfr]

theorem slashPieces_slash_append (s : String) : slashPieces ("/" ++ s) = "" :: slashPieces s := by
  simpa [slashPieces_of_no_slash] using slashPieces_append_slash "" s

/-- Text without slashes is not absolute. -/
theorem isAbsolute_of_no_slash {s : String} (h : '/' ∉ s.toList) : isAbsolute ⟨s⟩ = false := by
  apply Bool.eq_false_iff.2
  intro habs
  obtain ⟨t, ht⟩ := (isAbsolute_iff _).1 habs
  exact h (by simp [← ht])

/-- A relative path whose first piece is empty is the empty path. -/
theorem text_eq_empty_of_slashPieces {t : String} {rest : List String}
    (h : slashPieces t = "" :: rest) (habs : isAbsolute ⟨t⟩ = false) : t = "" := by
  cases ht : t.toList with
  | nil => exact String.toList_eq_nil_iff.1 ht
  | cons c cs =>
    have hc : c ≠ '/' := by
      rintro rfl
      have : isAbsolute ⟨t⟩ = true := (isAbsolute_iff _).2 ⟨cs, by simp [ht]⟩
      simp_all
    have hsplit : t = String.ofList [c] ++ String.ofList cs :=
      String.toList_injective (by simp [ht, String.toList_append])
    rw [hsplit, slashPieces_append_of_no_slash (by simpa using hc.symm)] at h
    obtain ⟨f, r, hfr⟩ := List.exists_cons_of_ne_nil (slashPieces_ne_nil (String.ofList cs))
    rw [hfr, List.modifyHead_cons] at h
    have hempty := congrArg String.length (List.cons.inj h).1
    simp at hempty

/-! ## Head and body -/

/-- The head is where the text starts. -/
theorem exists_text_eq_head_append (p : Path) : ∃ u, p.text = p.head ++ u := by
  unfold head
  split
  · next habs =>
    obtain ⟨t, ht⟩ := (isAbsolute_iff p).1 habs
    exact ⟨String.ofList t, String.toList_injective (by simp [← ht])⟩
  · split
    · next rest hpieces =>
      obtain ⟨u, hu⟩ := exists_intercalate_cons "." rest
      exact ⟨u, by rw [← intercalate_slashPieces p.text, hpieces, hu]⟩
    · exact ⟨p.text, by simp⟩

/-- A path's text is its head followed by its body pieces joined by slashes. -/
theorem text_eq_head_append_body (p : Path) : p.text = p.head ++ "/".intercalate p.bodyPieces := by
  obtain ⟨u, hu⟩ := exists_text_eq_head_append p
  have hbody : String.ofList (p.text.toList.drop p.head.length) = u := by
    rw [hu]
    apply String.toList_injective
    simp [String.toList_append, ← String.length_toList]
  rw [bodyPieces, hbody, intercalate_slashPieces, ← hu]

/-- The three ways a path starts: at the root, at a leading `.`, or at a name. -/
theorem head_cases (p : Path) :
    (p.isAbsolute = true ∧ p.head = "/") ∨
    (p.isAbsolute = false ∧ p.head = "." ∧ ∃ rest, slashPieces p.text = "." :: rest) ∨
    (p.isAbsolute = false ∧ p.head = "" ∧ ∀ rest, slashPieces p.text ≠ "." :: rest) := by
  rw [head]
  by_cases habs : p.isAbsolute = true
  · simp [habs]
  · rw [if_neg habs]
    cases hpieces : slashPieces p.text with
    | nil => exact absurd hpieces (slashPieces_ne_nil _)
    | cons first rest =>
      by_cases hdot : first = "."
      · subst hdot
        simp_all
      · right; right
        refine ⟨by simpa using habs, ?_, fun r h => hdot (List.cons.inj h).1⟩
        split
        · next h => exact absurd (List.cons.inj h).1 hdot
        · rfl

theorem components_root_append {s : String} {first : String} {rest : List String}
    (hpieces : slashPieces s = first :: rest) :
    (⟨"/" ++ s⟩ : Path).components = .root :: (first :: rest).filterMap bodyComponent := by
  have habs : isAbsolute ⟨"/" ++ s⟩ = true := (isAbsolute_iff _).2 ⟨s.toList, by simp⟩
  simp [components, slashPieces_slash_append, hpieces, habs]

/-- A path built from its head and a first stretch of its body pieces has the head's
components followed by those the pieces mean. -/
theorem components_head_append (p : Path) {L : List String} (hL : L <+: p.bodyPieces) :
    (⟨p.head ++ "/".intercalate L⟩ : Path).components =
      (⟨p.head⟩ : Path).components ++ L.filterMap bodyComponent := by
  cases L with
  | nil => simp
  | cons first rest =>
  have hslash : ∀ s ∈ first :: rest, '/' ∉ s.toList :=
    fun s hs => not_mem_of_mem_slashPieces (hL.subset hs)
  have hpieces : slashPieces ("/".intercalate (first :: rest)) = first :: rest :=
    slashPieces_intercalate hslash (List.cons_ne_nil _ _)
  have hbody : slashPieces ("/".intercalate p.bodyPieces) = p.bodyPieces :=
    slashPieces_intercalate (fun s hs => not_mem_of_mem_slashPieces hs) (slashPieces_ne_nil _)
  obtain ⟨more, hmore⟩ := hL
  rcases head_cases p with ⟨-, hhead⟩ | ⟨habs, hhead, dotRest, hdot⟩ | ⟨habs, hhead, hnot⟩
  · -- below the root
    rw [hhead, components_root_append hpieces, components_root]
    rfl
  · -- after a leading `.`, the body starts with an empty piece
    have hfirst : first = "" := by
      have htext := text_eq_head_append_body p
      rw [hhead] at htext
      rw [htext, slashPieces_append_of_no_slash (by decide), hbody, ← hmore] at hdot
      simpa using (List.cons.inj hdot).1
    subst hfirst
    rw [hhead, components_curDir]
    cases rest with
    | nil => simp [List.filterMap_cons, components_curDir]
    | cons r rs =>
      have hslash' : ∀ s ∈ r :: rs, '/' ∉ s.toList :=
        fun s hs => hslash s (List.mem_cons_of_mem _ hs)
      have hjoin : "." ++ "/".intercalate ("" :: r :: rs) = "." ++ "/" ++ "/".intercalate (r :: rs) := by
        rw [String.intercalate_cons_cons, String.empty_append, String.append_assoc]
      have hrel : isAbsolute ⟨"." ++ "/" ++ "/".intercalate (r :: rs)⟩ = false := by
        rw [String.append_assoc, isAbsolute_append _ (by decide)]
        exact isAbsolute_of_no_slash (by decide)
      have hp : slashPieces ("." ++ "/" ++ "/".intercalate (r :: rs)) = "." :: r :: rs := by
        rw [slashPieces_append_slash, slashPieces_of_no_slash (by decide),
          slashPieces_intercalate hslash' (List.cons_ne_nil _ _)]
        rfl
      simp only [hjoin, components, hp, hrel, Bool.false_eq_true, if_false, if_true]
      simp [List.filterMap_cons]
  · -- at a name: the body is all the pieces of the text
    have htext := text_eq_head_append_body p
    rw [hhead, String.empty_append] at htext
    have hall : slashPieces p.text = first :: (rest ++ more) := by
      rw [htext, hbody, ← hmore]
      rfl
    rw [hhead, String.empty_append, components_empty, List.nil_append]
    by_cases hempty : first = ""
    · -- only the empty path starts with an empty piece without being absolute
      subst hempty
      have ht : p.text = "" := text_eq_empty_of_slashPieces hall habs
      have hrest : rest = [] := by
        rw [ht] at hall
        rw [slashPieces_empty] at hall
        exact (List.append_eq_nil_iff.1 (List.cons.inj hall).2.symm).1
      subst hrest
      simp [List.filterMap_cons]
    · obtain ⟨u, hu⟩ := exists_intercalate_cons first rest
      have hrel : isAbsolute ⟨"/".intercalate (first :: rest)⟩ = false := by
        rw [hu, isAbsolute_append _ hempty]
        exact isAbsolute_of_no_slash (hslash first (List.mem_cons_self ..))
      have hdot : first ≠ "." := fun h => hnot (rest ++ more) (h ▸ hall)
      simp only [components, hpieces, hrel, hdot, Bool.false_eq_true, if_false]

/-- A path's components: those of its head, then those its body pieces mean. -/
theorem components_eq_head_body (p : Path) :
    p.components = (⟨p.head⟩ : Path).components ++ p.bodyPieces.filterMap bodyComponent := by
  have h := components_head_append p (List.prefix_refl p.bodyPieces)
  rwa [← text_eq_head_append_body] at h

/-! ## Trailing pieces that name nothing -/

/-- Exactly the pieces that name something mean a component. -/
theorem bodyComponent_eq_none_iff (s : String) : bodyComponent s = none ↔ isNamePiece s = false := by
  unfold bodyComponent
  split <;> simp_all [isNamePiece]

/-- A piece never means the root. -/
theorem bodyComponent_ne_root (s : String) : bodyComponent s ≠ some .root := by
  unfold bodyComponent
  split <;> simp

theorem trimTail_eq_rdropWhile (pieces : List String) :
    trimTail pieces = pieces.rdropWhile (fun s => !isNamePiece s) := rfl

/-- Trimming trailing pieces that name nothing keeps the components. -/
theorem filterMap_trimTail (pieces : List String) :
    (trimTail pieces).filterMap bodyComponent = pieces.filterMap bodyComponent := by
  conv_rhs => rw [← List.rdropWhile_append_rtakeWhile (p := fun s => !isNamePiece s) (l := pieces)]
  have hnone : (pieces.rtakeWhile (fun s => !isNamePiece s)).filterMap bodyComponent = [] := by
    refine List.filterMap_eq_nil_iff.2 fun s hs => ?_
    simpa [bodyComponent_eq_none_iff] using List.mem_rtakeWhile_imp hs
  rw [List.filterMap_append, hnone, List.append_nil, trimTail_eq_rdropWhile]

/-- The last piece left by trimming names something. -/
theorem isNamePiece_getLast_trimTail {pieces : List String} (hT : trimTail pieces ≠ []) :
    isNamePiece ((trimTail pieces).getLast hT) = true := by
  have h := List.rdropWhile_last_not (fun s => !isNamePiece s) pieces hT
  simp only [Bool.not_eq_true', Bool.not_eq_false] at h
  exact h

/-- Dropping the last piece left by trimming drops the last component. -/
theorem filterMap_dropLast_trimTail (pieces : List String) :
    (trimTail pieces).dropLast.filterMap bodyComponent =
      (pieces.filterMap bodyComponent).dropLast := by
  rw [← filterMap_trimTail pieces]
  by_cases hT : trimTail pieces = []
  · simp [hT]
  · have hlast := isNamePiece_getLast_trimTail hT
    obtain ⟨c, hc⟩ := Option.ne_none_iff_exists'.1
      (mt (bodyComponent_eq_none_iff ((trimTail pieces).getLast hT)).1 (by simp [hlast]))
    conv_rhs => rw [← List.dropLast_append_getLast hT]
    rw [List.filterMap_append, List.filterMap_cons, hc]
    simp

/-- Trimming leaves nothing exactly when no piece names anything. -/
theorem trimTail_eq_nil_iff (pieces : List String) :
    trimTail pieces = [] ↔ pieces.filterMap bodyComponent = [] := by
  rw [trimTail_eq_rdropWhile, List.rdropWhile_eq_nil_iff, List.filterMap_eq_nil_iff]
  simp [bodyComponent_eq_none_iff]

/-! ## The parent -/

/-- **The parent drops the last component.** -/
theorem components_parent? {p q : Path} (h : p.parent? = some q) :
    q.components = p.components.dropLast := by
  rw [components_eq_head_body p]
  unfold parent? at h
  split at h
  · next hT =>
    split at h
    · next hdot =>
      cases h
      rw [hdot, components_curDir, (trimTail_eq_nil_iff _).1 hT]
      rfl
    · cases h
  · next hT =>
    cases h
    have hL : trimTail (trimTail p.bodyPieces).dropLast <+: p.bodyPieces :=
      (List.rdropWhile_prefix _ _).trans
        ((List.dropLast_prefix _).trans (List.rdropWhile_prefix _ _))
    have hne : p.bodyPieces.filterMap bodyComponent ≠ [] := mt (trimTail_eq_nil_iff _).2 hT
    rw [components_head_append p hL, filterMap_trimTail, filterMap_dropLast_trimTail,
      List.dropLast_append_of_ne_nil hne]

/-- **Which paths have no parent**: exactly those with no component but the root. -/
theorem parent?_eq_none_iff (p : Path) :
    p.parent? = none ↔ p.components = [] ∨ p.components = [.root] := by
  have hroot : ∀ cs : List Component, (∀ c ∈ cs, c ≠ .root) → cs ≠ [.root] :=
    fun cs h he => h .root (by simp [he]) rfl
  have hbody : ∀ c ∈ p.bodyPieces.filterMap bodyComponent, c ≠ .root := by
    intro c hc he
    obtain ⟨s, -, hs⟩ := List.mem_filterMap.1 hc
    exact bodyComponent_ne_root s (he ▸ hs)
  rw [components_eq_head_body p]
  unfold parent?
  rcases head_cases p with ⟨-, hhead⟩ | ⟨-, hhead, -⟩ | ⟨-, hhead, -⟩
  · rw [hhead, components_root]
    split
    · next hT => simp [(trimTail_eq_nil_iff _).1 hT]
    · next hT => simp [mt (trimTail_eq_nil_iff _).2 hT]
  · rw [hhead, components_curDir]
    split <;> simp
  · rw [hhead, components_empty, List.nil_append]
    split
    · next hT => simp [(trimTail_eq_nil_iff _).1 hT]
    · next hT =>
      simp [mt (trimTail_eq_nil_iff _).2 hT, hroot _ hbody]

/-- A path with a parent has a component to drop. -/
theorem components_ne_nil_of_parent? {p q : Path} (h : p.parent? = some q) : p.components ≠ [] :=
  fun he => by simp [(parent?_eq_none_iff p).2 (.inl he)] at h

/-- A path never has itself, or any path with its components, as parent. -/
theorem sameComponents_parent? {p q : Path} (h : p.parent? = some q) : q.sameComponents p = false := by
  have hne := components_ne_nil_of_parent? h
  simp only [sameComponents, components_parent? h, beq_eq_false_iff_ne]
  intro he
  have := congrArg List.length he
  simp only [List.length_dropLast] at this
  have hpos := List.length_pos_iff.2 hne
  omega

theorem length_intercalate_le_of_prefix {L M : List String} (h : L <+: M) :
    ("/".intercalate L).length ≤ ("/".intercalate M).length := by
  obtain ⟨R, rfl⟩ := h
  by_cases hL : L = []
  · simp [hL]
  by_cases hR : R = []
  · simp [hR]
  rw [String.intercalate_append_of_ne_nil hL hR]
  simp only [String.length_append]
  omega

/-- Dropping a last piece that is not empty shortens the joined text. -/
theorem length_intercalate_dropLast_lt {T : List String} (hT : T ≠ []) (hlast : T.getLast hT ≠ "") :
    ("/".intercalate T.dropLast).length < ("/".intercalate T).length := by
  have hpos : 0 < (T.getLast hT).length := by
    rw [← String.length_toList]
    exact List.length_pos_iff.2 (mt String.toList_eq_nil_iff.1 hlast)
  conv_rhs => rw [← List.dropLast_append_getLast hT]
  by_cases hD : T.dropLast = []
  · simpa [hD] using hpos
  · rw [String.intercalate_append_of_ne_nil hD (List.cons_ne_nil _ _)]
    simp only [String.length_append, String.intercalate_singleton]
    omega

/-- **The parent is shorter.** -/
theorem text_length_lt_of_parent? {p q : Path} (h : p.parent? = some q) :
    q.text.length < p.text.length := by
  have htext := text_eq_head_append_body p
  unfold parent? at h
  split at h
  · split at h
    · next hdot =>
      cases h
      have hdotlen : ".".length = 1 := rfl
      rw [htext, hdot, String.length_append, hdotlen]
      exact Nat.lt_of_lt_of_le Nat.zero_lt_one (Nat.le_add_right _ _)
    · cases h
  · next hT =>
    cases h
    have hlast : (trimTail p.bodyPieces).getLast hT ≠ "" := by
      intro he
      have hname := isNamePiece_getLast_trimTail hT
      rw [he] at hname
      exact absurd hname (by decide)
    have hlt := length_intercalate_dropLast_lt hT hlast
    have hle₁ := length_intercalate_le_of_prefix
      (List.rdropWhile_prefix (fun s => !isNamePiece s) (trimTail p.bodyPieces).dropLast)
    have hle₂ := length_intercalate_le_of_prefix
      (List.rdropWhile_prefix (fun s => !isNamePiece s) p.bodyPieces)
    rw [htext]
    simp only [String.length_append]
    simp only [trimTail_eq_rdropWhile] at hlt hle₁ hle₂ ⊢
    omega

/-! ## The chain of ancestors -/

def ancestors (p : Path) : List Path :=
  p :: (p.parent?.attach.map fun q => q.1.ancestors).getD []
termination_by p.text.length
decreasing_by exact text_length_lt_of_parent? q.2

/-- The chain of a path is the path, then the chain of its parent, if it has one. -/
theorem ancestors_eq (p : Path) : p.ancestors = p :: (p.parent?.map ancestors).getD [] := by
  rw [ancestors]
  simp

theorem ancestors_of_parent? {p q : Path} (h : p.parent? = some q) :
    p.ancestors = p :: q.ancestors := by
  simp [ancestors_eq p, h]

theorem ancestors_of_parent?_eq_none {p : Path} (h : p.parent? = none) : p.ancestors = [p] := by
  simp [ancestors_eq p, h]

/-- Every path of the chain is shorter than the one before, so the chain has at most one
path more than the text has characters. -/
theorem length_ancestors_le (p : Path) : p.ancestors.length ≤ p.text.length + 1 := by
  induction hn : p.text.length using Nat.strong_induction_on generalizing p with
  | _ n ih =>
    cases hp : p.parent? with
    | none => simp [ancestors_of_parent?_eq_none hp]
    | some q =>
      have hlt := text_length_lt_of_parent? hp
      have hq := ih q.text.length (hn ▸ hlt) q rfl
      rw [ancestors_of_parent? hp, List.length_cons]
      omega

end Path

end FormatConfig
