import FormatConfig.Proofs.RunEffects
import FormatConfig.Proofs.ConfigLookup

/-!
# Collecting each file once

The files of a command line are the manifest's, then those found by walking the paths,
each added unless a path with the same components is there already (`collectedFiles_eq`,
`foldl_addNew_toList`). Components are compared as spelled: the manifest gives absolute
normal paths while a walk spells a file after its argument, so `/r/a.ts` from the manifest
and `a.ts` from the command line are both kept though they name one file
(`collectedFiles_repeats_manifest_file`). Where every two collected paths to one place are
spelled with the same components, and the manifest names each place once, no place is
collected twice (`collectedFiles_pairwise_of_spelled_alike`).
-/

namespace FormatConfig

/-- Two paths name the same place once each is made absolute against the current directory
and normalised: their absolute normal forms have the same components. -/
def FileSystem.SameAbsolute (fs : FileSystem) (p q : Path) : Prop :=
  ∃ a b, fs.absolutePath p = .ok a ∧ fs.absolutePath q = .ok b ∧ a.components = b.components

theorem FileSystem.SameAbsolute.symm {fs : FileSystem} {p q : Path} (h : fs.SameAbsolute p q) :
    fs.SameAbsolute q p := by
  obtain ⟨a, b, ha, hb, hab⟩ := h
  exact ⟨b, a, hb, ha, hab.symm⟩

namespace Cli

/-- The files the manifest of a command line selects; none without a manifest. -/
def manifestFiles (inv : Invocation) (fs : FileSystem) : Except Error (List Path) :=
  match inv.project with
  | none => .ok []
  | some project =>
    match fs.readManifest ⟨project⟩ with
    | .ok _ => fs.resolveManifest ⟨project⟩ true
    | .error e => .error e

/-- The files found by walking the paths of a command line, as each path spells them. -/
def walkedFiles (inv : Invocation) (fs : FileSystem) : List Path :=
  (fs.walkSources (inv.paths.map fun p => ⟨p⟩)).filterMap Except.toOption

/-- Collecting the files keeps the manifest's and adds the walked ones that are new. -/
theorem collectedFiles_eq (inv : Invocation) (fs : FileSystem) :
    collectedFiles inv fs =
      (manifestFiles inv fs).map fun manifest =>
        ((walkedFiles inv fs).foldl addNew manifest.toArray).toList := by
  unfold collectedFiles manifestFiles walkedFiles
  cases inv.project with
  | none => rfl
  | some project =>
    dsimp only
    cases fs.readManifest ⟨project⟩ with
    | error e => rfl
    | ok r => cases fs.resolveManifest ⟨project⟩ true <;> rfl

/-- **Adding only new files.** Folding `addNew` keeps the files it starts with and adds
files whose components differ from those of every file before them. -/
theorem foldl_addNew_toList (found : List Path) (init : Array Path) :
    ∃ rest, (found.foldl addNew init).toList = init.toList ++ rest ∧
      (∀ x ∈ init.toList, ∀ y ∈ rest, x.sameComponents y = false) ∧
      rest.Pairwise fun x y => x.sameComponents y = false := by
  induction found generalizing init with
  | nil => exact ⟨[], by simp, by simp, .nil⟩
  | cons p found ih =>
    rw [List.foldl_cons]
    by_cases hnew : (init.any fun x => x.sameComponents p) = true
    · rw [addNew, if_pos hnew]
      exact ih init
    · rw [addNew, if_neg hnew]
      -- `p` is new: no file before it has its components
      have hp : ∀ x ∈ init.toList, x.sameComponents p = false := by
        intro x hx
        have hnone := Array.any_eq_false'.1 (Bool.eq_false_iff.2 hnew) x (Array.mem_toList_iff.1 hx)
        exact Bool.eq_false_iff.2 hnone
      obtain ⟨rest, hfold, hcross, hpair⟩ := ih (init.push p)
      refine ⟨p :: rest, by simp [hfold], ?_, ?_⟩
      · intro x hx y hy
        rcases List.mem_cons.1 hy with rfl | hy
        · exact hp x hx
        · exact hcross x (by simp [hx]) y hy
      · exact List.Pairwise.cons (fun y hy => hcross p (by simp) y hy) hpair

/-- Paths with different components that are spelled alike name different places. -/
theorem not_sameAbsolute_of_sameComponents {fs : FileSystem} {p q : Path}
    (hspelled : fs.SameAbsolute p q → p.components = q.components)
    (h : p.sameComponents q = false) : ¬ fs.SameAbsolute p q := by
  intro hsame
  have heq := hspelled hsame
  simp [Path.sameComponents, heq] at h

/-- **Where each file is collected once.** When the manifest names each place once and any
two collected paths to one place are spelled with the same components, no two collected
paths name the same place. -/
theorem collectedFiles_pairwise_of_spelled_alike {inv : Invocation} {fs : FileSystem}
    {manifest files : List Path} (hm : manifestFiles inv fs = .ok manifest)
    (h : collectedFiles inv fs = .ok files)
    (hmanifest : manifest.Pairwise fun p q => ¬ fs.SameAbsolute p q)
    (hspelled : ∀ p ∈ files, ∀ q ∈ files, fs.SameAbsolute p q → p.components = q.components) :
    files.Pairwise fun p q => ¬ fs.SameAbsolute p q := by
  rw [collectedFiles_eq, hm] at h
  obtain ⟨rest, hfold, hcross, hpair⟩ := foldl_addNew_toList (walkedFiles inv fs) manifest.toArray
  have hfiles : files = manifest ++ rest := by
    have hmap := (Except.ok.inj h).symm
    simp only at hmap
    rw [hmap, hfold, List.toList_toArray]
  have hmem_rest : ∀ y ∈ rest, y ∈ files := fun y hy => by simp [hfiles, hy]
  subst hfiles
  refine List.pairwise_append.2 ⟨hmanifest, ?_, ?_⟩
  · -- walked files are new against each other
    refine hpair.imp_of_mem fun hx hy hxy => ?_
    exact not_sameAbsolute_of_sameComponents (hspelled _ (hmem_rest _ hx) _ (hmem_rest _ hy)) hxy
  · -- and against the manifest's
    intro x hx y hy
    exact not_sameAbsolute_of_sameComponents (hspelled _ (by simp [hx]) _ (hmem_rest _ hy))
      (hcross x (by simpa using hx) y hy)

/-- A project directory `/r`, the current directory, holding `a.ts` and a manifest
`tsconfig.json` that lists `a.ts`. -/
def sampleProject : FileSystem :=
  { nodes := [(["r"], .dir), (["r", "tsconfig.json"], .file "\x7b\"files\": [\"a.ts\"]\x7d".toUTF8),
    (["r", "a.ts"], .file "x\n".toUTF8)],
    cwd := ["r"] }

/-- A project directory `/r`, the current directory, holding `a.ts`, `b.ts` and a manifest
`tsconfig.json` that lists both. -/
def twoFileProject : FileSystem :=
  { nodes := [(["r"], .dir),
      (["r", "tsconfig.json"], .file "\x7b\"files\": [\"a.ts\", \"b.ts\"]\x7d".toUTF8),
      (["r", "a.ts"], .file "x\n".toUTF8), (["r", "b.ts"], .file "y\n".toUTF8)],
    cwd := ["r"] }

/-- The manifest names `/r/a.ts` and `/r/b.ts`, and the path `/r/a.ts`, spelled as the
manifest spells it, is not collected again: the two files are collected once each. -/
theorem collectedFiles_pairwise_of_spelled_alike_overlap :
    manifestFiles { paths := ["/r/a.ts"], project := some "tsconfig.json" } twoFileProject =
        .ok [⟨"/r/a.ts"⟩, ⟨"/r/b.ts"⟩] ∧
      walkedFiles { paths := ["/r/a.ts"], project := some "tsconfig.json" } twoFileProject =
        [⟨"/r/a.ts"⟩] ∧
      collectedFiles { paths := ["/r/a.ts"], project := some "tsconfig.json" } twoFileProject =
        .ok [⟨"/r/a.ts"⟩, ⟨"/r/b.ts"⟩] ∧
      [(⟨"/r/a.ts"⟩ : Path), ⟨"/r/b.ts"⟩].Pairwise
        fun p q => ¬ twoFileProject.SameAbsolute p q := by
  have hrun : (manifestFiles { paths := ["/r/a.ts"], project := some "tsconfig.json" }
        twoFileProject).toOption = some [⟨"/r/a.ts"⟩, ⟨"/r/b.ts"⟩] ∧
      walkedFiles { paths := ["/r/a.ts"], project := some "tsconfig.json" } twoFileProject =
        [⟨"/r/a.ts"⟩] ∧
      (collectedFiles { paths := ["/r/a.ts"], project := some "tsconfig.json" }
        twoFileProject).toOption = some [⟨"/r/a.ts"⟩, ⟨"/r/b.ts"⟩] ∧
      (twoFileProject.absolutePath ⟨"/r/a.ts"⟩).toOption = some ⟨"/r/a.ts"⟩ ∧
      (twoFileProject.absolutePath ⟨"/r/b.ts"⟩).toOption = some ⟨"/r/b.ts"⟩ ∧
      (Path.components ⟨"/r/a.ts"⟩ == Path.components ⟨"/r/b.ts"⟩) = false := by
    decide +kernel
  obtain ⟨hm, hwalked, hc, ha, hb, hdiff⟩ := hrun
  have hm := eq_ok_of_toOption_eq_some hm
  have hc := eq_ok_of_toOption_eq_some hc
  -- the two files lie apart once made absolute
  have hapart : ¬ twoFileProject.SameAbsolute ⟨"/r/a.ts"⟩ ⟨"/r/b.ts"⟩ := by
    rintro ⟨a, b, ha', hb', hab⟩
    rw [eq_ok_of_toOption_eq_some ha, Except.ok.injEq] at ha'
    rw [eq_ok_of_toOption_eq_some hb, Except.ok.injEq] at hb'
    subst ha' hb'
    simp [hab] at hdiff
  have hmanifest : [(⟨"/r/a.ts"⟩ : Path), ⟨"/r/b.ts"⟩].Pairwise
      fun p q => ¬ twoFileProject.SameAbsolute p q := by
    simpa using hapart
  have hspelled : ∀ p ∈ [(⟨"/r/a.ts"⟩ : Path), ⟨"/r/b.ts"⟩],
      ∀ q ∈ [(⟨"/r/a.ts"⟩ : Path), ⟨"/r/b.ts"⟩],
        twoFileProject.SameAbsolute p q → p.components = q.components := by
    intro p hp q hq hsame
    simp only [List.mem_cons, List.not_mem_nil, or_false] at hp hq
    rcases hp with rfl | rfl <;> rcases hq with rfl | rfl
    · rfl
    · exact absurd hsame hapart
    · exact absurd hsame.symm hapart
    · rfl
  exact ⟨hm, hwalked, hc, collectedFiles_pairwise_of_spelled_alike hm hc hmanifest hspelled⟩

/-- The manifest's `/r/a.ts` and the path `a.ts` name the same file, and both are
collected. -/
theorem collectedFiles_repeats_manifest_file :
    collectedFiles { paths := ["a.ts"], project := some "tsconfig.json" } sampleProject =
        .ok [⟨"/r/a.ts"⟩, ⟨"a.ts"⟩] ∧
      sampleProject.SameAbsolute ⟨"/r/a.ts"⟩ ⟨"a.ts"⟩ := by
  have h : (collectedFiles { paths := ["a.ts"], project := some "tsconfig.json" }
        sampleProject).toOption = some [⟨"/r/a.ts"⟩, ⟨"a.ts"⟩] ∧
      (sampleProject.absolutePath ⟨"/r/a.ts"⟩).toOption = some ⟨"/r/a.ts"⟩ ∧
      (sampleProject.absolutePath ⟨"a.ts"⟩).toOption = some ⟨"/r/a.ts"⟩ := by
    decide +kernel
  exact ⟨eq_ok_of_toOption_eq_some h.1,
    _, _, eq_ok_of_toOption_eq_some h.2.1, eq_ok_of_toOption_eq_some h.2.2, rfl⟩

end Cli

end FormatConfig
