import FormatConfig.Proofs.RunEffects
import FormatConfig.Proofs.CollapsedWalk
import FormatConfig.Proofs.CollapsedReads
import FormatConfig.Proofs.CheckFlag
import FormatConfig.Proofs.ConfigLookup

/-!
# One fix run reaches a fixed point

A fix run writes back only the collapse of a file's own text, so the file system after it is
the one before with some texts collapsed (`FileSystem.CollapsedTo`). Every file it processed
without a failure is left settled (`Cli.Settled`): its options resolve, and processing it
again changes nothing. Collapsing texts keeps settled files settled (`Settled.collapsedTo`)
and finds the same files to process (`CollapsedTo.collectedFiles`), so a second run meets
only settled files (`fix_run_settles`): it writes nothing, and a check run says the same
(`run_of_settled`).

One assumption carries this, besides every location being stored once, which a file system
carries itself. Collapsing the blank lines of a JSON5 text that parses does not change what it
parses to, which holds since a JSON5 string cannot hold a raw line break; it is assumed of the
texts stored, as `FileSystem.CollapseKeepsJson5`.
-/

namespace FormatConfig

open BlankLines

namespace FileSystem

variable {fs fs' : FileSystem} {path : Path} {po : ProviderOptions}

/-- Fixing a text either keeps it or collapses it. -/
theorem postProcessText_cases {text fixed : String}
    (h : fs.postProcessText path text po = .ok fixed) : fixed = text ∨ fixed = collapse text := by
  unfold postProcessText lintFixText at h
  split at h
  · cases hr : fs.lintRules path po.baseDir with
    | error e => simp [hr, bind, Except.bind] at h
    | ok rules? =>
      cases rules? with
      | none => simp [hr, bind, Except.bind, pure, Except.pure] at h; exact .inl h.symm
      | some rules =>
        simp only [hr, bind, Except.bind, pure, Except.pure, Except.ok.injEq] at h
        unfold Lint.fixText at h
        split at h
        · exact .inr h.symm
        · exact .inl h.symm
  · cases h
    exact .inl rfl

/-- Where options resolve, the fixups keep every collapsed text. -/
theorem postProcessText_collapse (hok : (fs.resolveOptions path po).isOk = true) (text : String) :
    fs.postProcessText path (collapse text) po = .ok (collapse text) := by
  rw [resolveOptions_isOk, Bool.and_eq_true] at hok
  unfold postProcessText lintFixText
  split
  · next hlint =>
    have hrules : (fs.lintPartial path po.baseDir).isOk = true := by simpa [hlint] using hok.2
    simp only [lintPartial, bind, Except.bind] at hrules
    cases hr : fs.lintRules path po.baseDir with
    | error e => rw [hr] at hrules; cases hrules
    | ok rules? =>
      cases rules? with
      | none => rfl
      | some rules =>
        simp only [bind, Except.bind, pure, Except.pure, Except.ok.injEq]
        unfold Lint.fixText
        split
        · exact collapse_collapse text
        · rfl
  · rfl

end FileSystem

namespace Cli

variable {fs fs' : FileSystem} {path : Path} {po : ProviderOptions}

/-- Whether a file is settled does not depend on the baseline, only on which sources take
part and where their search starts. -/
theorem Settled.of_providers {po' : ProviderOptions} (h : Settled fs po path)
    (hbase : po'.baseDir = po.baseDir) (hlint : po'.lint = po.lint)
    (hedit : po'.editorConfig = po.editorConfig) : Settled fs po' path := by
  obtain ⟨hok, bytes, hread, hkeep⟩ := h
  have hpost : ∀ text, fs.postProcessText path text po' = fs.postProcessText path text po := by
    intro text
    simp only [FileSystem.postProcessText, hbase, hlint]
  refine ⟨?_, bytes, hread, ?_⟩
  · rw [FileSystem.resolveOptions_isOk] at hok ⊢
    rw [hbase, hlint, hedit]
    exact hok
  · simpa only [hpost] using hkeep

/-- **Collapsing keeps files settled.** After texts are collapsed, a settled file is still
settled: it holds its old bytes, which its fixups keep, or a collapsed text, which they keep
too. -/
theorem Settled.collapsedTo (h : fs.CollapsedTo fs') (hj : fs.CollapseKeepsJson5)
    (hs : Settled fs po path) : Settled fs' po path := by
  obtain ⟨hok, bytes, hread, hkeep⟩ := hs
  have hok' : (fs'.resolveOptions path po).isOk = true := h.resolveOptions_isOk hj hok po.baseline
  obtain ⟨bytes', hread', hbytes⟩ := (h.readBytes path).of_ok hread
  refine ⟨hok', bytes', hread', ?_⟩
  cases hbytes with
  | same =>
    rcases hkeep with hempty | hbin | hfix
    · exact .inl hempty
    · exact .inr (.inl hbin)
    · exact .inr (.inr fun text hdec => h.postProcessText hj (hfix text hdec))
  | text ht =>
    -- the file holds a collapsed text, which the fixups keep
    refine .inr (.inr fun text hdec => ?_)
    rw [Node.fromUTF8?_toUTF8, Option.some.injEq] at hdec
    rw [← hdec]
    exact FileSystem.postProcessText_collapse hok' _

/-! ## A fix run -/

/-- What a stretch of a fix run keeps: the file system is the old one with texts collapsed,
and unless a failure was counted, the files processed are left settled. -/
structure FixedBy (po : ProviderOptions) (fs : FileSystem) (t : Tally) (files : List Path)
    (r : Tally × FileSystem) : Prop where
  collapsed : fs.CollapsedTo r.2
  errors_le : t.errors ≤ r.1.errors
  settled : r.1.errors = t.errors → ∀ path ∈ files, Settled r.2 po path

/-- Two stretches of a fix run make one. -/
theorem FixedBy.append {t : Tally} {files files' : List Path} {r r' : Tally × FileSystem}
    (h : FixedBy po fs t files r) (hj : r.2.CollapseKeepsJson5)
    (h' : FixedBy po r.2 r.1 files' r') : FixedBy po fs t (files ++ files') r' := by
  refine ⟨h.collapsed.trans h'.collapsed, Nat.le_trans h.errors_le h'.errors_le, ?_⟩
  intro herr path hpath
  -- no failure overall means none in either stretch
  have herr' : r'.1.errors = r.1.errors := Nat.le_antisymm (herr ▸ h.errors_le) h'.errors_le
  rcases List.mem_append.1 hpath with hmem | hmem
  · exact (h.settled (herr' ▸ herr) path hmem).collapsedTo h'.collapsed hj
  · exact h'.settled herr' path hmem

/-- **One file.** Fixing a file writes back the collapse of its own text, if anything, and
leaves it settled unless processing it failed. -/
theorem fileEffect_fixes {cfg : Settings} (hfix : cfg.checkOnly = false)
    (hprint : cfg.printOptions = false) (hj : fs.CollapseKeepsJson5) (t : Tally) (path : Path) :
    FixedBy cfg.providers fs t [path] (fileEffect cfg fs t path) := by
  -- a failure counts one error and changes nothing; a skip changes nothing
  have failed : FixedBy cfg.providers fs t [path] ({ t with errors := t.errors + 1 }, fs) :=
    ⟨.refl fs, Nat.le_succ _, fun h => absurd h (Nat.succ_ne_self _)⟩
  have kept : Settled fs cfg.providers path → FixedBy cfg.providers fs t [path] (t, fs) :=
    fun hs => ⟨.refl fs, Nat.le_refl _, fun _ q hq => List.mem_singleton.1 hq ▸ hs⟩
  unfold fileEffect
  cases hres : fs.resolveOptions path cfg.providers with
  | error e => exact failed
  | ok o =>
    have hok : (fs.resolveOptions path cfg.providers).isOk = true := by rw [hres]; rfl
    simp only [hprint, Bool.false_eq_true, if_false]
    cases hread : fs.readBytes path with
    | error e => exact failed
    | ok bytes =>
      by_cases hempty : bytes.isEmpty = true
      · simpa [hempty] using kept ⟨hok, bytes, hread, .inl hempty⟩
      by_cases hbin : isBinary bytes = true
      · simpa [hempty, hbin] using kept ⟨hok, bytes, hread, .inr (.inl hbin)⟩
      simp only [hempty, hbin, Bool.false_eq_true, if_false]
      cases hdec : String.fromUTF8? bytes with
      | none => exact kept ⟨hok, bytes, hread, .inr (.inr fun text h => by simp [hdec] at h)⟩
      | some content =>
        dsimp only
        cases hpost : fs.postProcessText path content cfg.providers with
        | error e => exact failed
        | ok fixed =>
          dsimp only
          by_cases hsame : (fixed == content) = true
          · have hfixed : fixed = content := by simpa using hsame
            rw [if_pos hsame]
            exact kept ⟨hok, bytes, hread, .inr (.inr fun text h => by
              rw [hdec, Option.some.injEq] at h
              rw [← h, hpost, hfixed])⟩
          -- the text changes: it is collapsed, and written back
          have hcollapse : fixed = collapse content :=
            (FileSystem.postProcessText_cases hpost).resolve_left (by simpa using hsame)
          subst hcollapse
          obtain ⟨fs', hwrite, hto, hread'⟩ := FileSystem.writeText_collapse hread hdec
          rw [if_neg hsame, hfix, if_neg Bool.false_ne_true, hwrite]
          refine ⟨hto, Nat.le_refl _, fun _ q hq => ?_⟩
          rw [List.mem_singleton.1 hq]
          have hok' := hto.resolveOptions_isOk hj hok cfg.providers.baseline
          refine ⟨hok', _, hread', .inr (.inr fun text h => ?_)⟩
          rw [Node.fromUTF8?_toUTF8, Option.some.injEq] at h
          rw [← h]
          exact FileSystem.postProcessText_collapse hok' _

/-- **A fix run.** Fixing files one after another leaves the file system with texts
collapsed, and, unless a failure was counted, every file processed settled. -/
theorem filesEffect_fixes {cfg : Settings} (hfix : cfg.checkOnly = false)
    (hprint : cfg.printOptions = false) (files : List Path) {fs : FileSystem}
    (hj : fs.CollapseKeepsJson5) (t : Tally) :
    FixedBy cfg.providers fs t files (filesEffect cfg fs t files) := by
  induction files generalizing fs t with
  | nil => exact ⟨.refl fs, Nat.le_refl _, fun _ path hpath => absurd hpath List.not_mem_nil⟩
  | cons path files ih =>
    -- the first file, then the rest from the file system it left
    have hstep := fileEffect_fixes hfix hprint hj t path
    have hj' := hstep.collapsed.collapseKeepsJson5 hj
    have hrest := ih hj' (fileEffect cfg fs t path).1
    exact hstep.append hj' hrest

end Cli

namespace FileSystem

/-- **The same files.** After texts are collapsed, a command line names the same files. -/
theorem CollapsedTo.collectedFiles {fs fs' : FileSystem} (h : fs.CollapsedTo fs')
    (hj : fs.CollapseKeepsJson5) {inv : Cli.Invocation} {files : List Path}
    (hc : Cli.collectedFiles inv fs = .ok files) : Cli.collectedFiles inv fs' = .ok files := by
  unfold Cli.collectedFiles at hc ⊢
  rw [h.walkSources]
  -- the manifest is read the same, so it names the same files
  cases hproject : inv.project with
  | none => simpa [hproject] using hc
  | some project =>
    simp only [hproject] at hc ⊢
    cases hread : fs.readManifest ⟨project⟩ with
    | error e => simp [hread] at hc
    | ok r =>
      rw [h.readManifest hj hread]
      rw [hread] at hc
      cases hres : fs.resolveManifest ⟨project⟩ true with
      | error e => simp [hres] at hc
      | ok manifestFiles =>
        rw [h.resolveManifest hj hres]
        rw [hres] at hc
        exact hc

end FileSystem

namespace Cli

/-! ## Running a command line again -/

section Again

variable {args : List String} {inv : Invocation}

theorem run_exit (h : parseArguments args = .ok (.run inv)) (fs : FileSystem) :
    (run fs args).exit = ((execute inv).run { fs, verbose := inv.verbose }).run.1 := by
  simp only [run, h]
  rfl

theorem run_fs (h : parseArguments args = .ok (.run inv)) (fs : FileSystem) :
    (run fs args).fs = ((execute inv).run { fs, verbose := inv.verbose }).run.2.fs := by
  simp only [run, h]
  rfl

/-- **A fix run settles its files.** A fix run that exits with 0 collected its files, only
collapsed texts, and left every file it processed settled, whatever the baseline. -/
theorem fix_run_settles {fs : FileSystem} (hj : fs.CollapseKeepsJson5) (hargs : parseArguments args = .ok (.run inv))
    (hcheck : inv.check = false) (hprint : inv.printOptions = false)
    (hlist : inv.listFiles = false) (hinit : inv.init = false) (hexit : (run fs args).exit = 0) :
    ∃ files, collectedFiles inv fs = .ok files ∧ fs.CollapsedTo (run fs args).fs ∧
      ∀ b, ∀ path ∈ files, Settled (run fs args).fs (inv.settings b).providers path := by
  rw [run_exit hargs] at hexit
  -- the run collected its files, or it would have exited with 1
  cases hc : collectedFiles inv fs with
  | error e =>
    rw [execute_run_of_error hinit (s := { fs, verbose := inv.verbose }) hc] at hexit
    cases hexit
  | ok files =>
  obtain ⟨b₁, hcode, hfs⟩ := execute_run hinit hlist (s := { fs, verbose := inv.verbose }) hc
  dsimp only at hcode hfs
  have hfix : FixedBy (inv.settings b₁).providers fs {} files
      (filesEffect (inv.settings b₁) fs {} files) :=
    filesEffect_fixes hcheck hprint files hj {}
  -- exit code 0 means no failure was counted
  have herr : (filesEffect (inv.settings b₁) fs {} files).1.errors = 0 := by
    rw [hcode] at hexit
    simp only [Tally.exitCode, hcheck, Bool.false_and, Bool.or_false] at hexit
    by_contra hne
    simp [Nat.pos_of_ne_zero hne] at hexit
  rw [run_fs hargs fs, hfs]
  exact ⟨files, rfl, hfix.collapsed,
    fun _ path hpath => (hfix.settled herr path hpath).of_providers rfl rfl rfl⟩

/-- **A run over settled files.** Where every file a command line names is settled, running
it writes nothing and behaves as a check run, which passes. -/
theorem run_of_settled {fs : FileSystem} (hargs : parseArguments args = .ok (.run inv))
    (hcheck : inv.check = false) (hprint : inv.printOptions = false)
    (hlist : inv.listFiles = false) (hinit : inv.init = false) {files : List Path}
    (hc : collectedFiles inv fs = .ok files)
    (hs : ∀ b, ∀ path ∈ files, Settled fs (inv.settings b).providers path) :
    (run fs args).fs = fs ∧ run fs ("--check" :: args) = run fs args ∧
      (run fs ("--check" :: args)).exit = 0 := by
  obtain ⟨b, hcode, hfs⟩ := execute_run hinit hlist (s := { fs, verbose := inv.verbose }) hc
  dsimp only at hcode hfs
  rw [filesEffect_settled hprint (hs b) {}] at hcode hfs
  have hsame : run fs ("--check" :: args) = run fs args := by
    unfold run
    rw [parseArguments_check_cons hargs hcheck, hargs]
    dsimp only
    rw [execute_check_eq hinit hlist hprint (s := { fs, verbose := inv.verbose }) hc hs true]
  refine ⟨?_, hsame, ?_⟩
  · rw [run_fs hargs fs, hfs]
  · rw [hsame, run_exit hargs fs, hcode]
    simp [Tally.exitCode]

/-- **One fix run reaches a fixed point.** A fix run that exits with 0 leaves a file system
on which running the same command line again writes nothing and behaves as a check run,
messages and exit code included, and the check run passes. -/
theorem fix_run_reaches_fixpoint {fs : FileSystem} (hj : fs.CollapseKeepsJson5) (hargs : parseArguments args = .ok (.run inv))
    (hcheck : inv.check = false) (hprint : inv.printOptions = false)
    (hlist : inv.listFiles = false) (hinit : inv.init = false) (hexit : (run fs args).exit = 0) :
    (run (run fs args).fs args).fs = (run fs args).fs ∧
      run (run fs args).fs ("--check" :: args) = run (run fs args).fs args ∧
      (run (run fs args).fs ("--check" :: args)).exit = 0 := by
  obtain ⟨files, hc, hto, hs⟩ := fix_run_settles hj hargs hcheck hprint hlist hinit hexit
  -- the second run finds the same files, and they are settled
  have hc' : collectedFiles inv (run fs args).fs = .ok files := hto.collectedFiles hj hc
  exact run_of_settled hargs hcheck hprint hlist hinit hc' hs

/-- A project whose rule file asks for consecutive blank lines to be removed, and a file with
three blank lines in a row. -/
def blankLinesProject : FileSystem :=
  { nodes := [(["r"], .dir),
    (["r", "tslint.json"],
      .file "\x7b\"rules\": \x7b\"no-consecutive-blank-lines\": true\x7d\x7d".toUTF8),
    (["r", "a.ts"], .file "a\n\n\n\nb\n".toUTF8)],
    cwd := ["r"] }

/-- The first run fixes `a.ts`, keeping one blank line of three, and the run after it writes
nothing. -/
theorem fix_run_reaches_fixpoint_blank_lines :
    blankLinesProject.CollapseKeepsJson5 ∧ (run blankLinesProject ["a.ts"]).exit = 0 ∧
      (run blankLinesProject ["a.ts"]).fs.readText ⟨"a.ts"⟩ = .ok "a\n\nb\n" ∧
      (run (run blankLinesProject ["a.ts"]).fs ["a.ts"]).fs = (run blankLinesProject ["a.ts"]).fs ∧
      run (run blankLinesProject ["a.ts"]).fs ["--check", "a.ts"] =
        run (run blankLinesProject ["a.ts"]).fs ["a.ts"] ∧
      (run (run blankLinesProject ["a.ts"]).fs ["--check", "a.ts"]).exit = 0 := by
  -- the rule file has no blank line, and `a.ts` is no JSON5 text
  have hj : blankLinesProject.CollapseKeepsJson5 := by
    intro loc bytes hmem t ht doc hdoc
    simp only [blankLinesProject, List.mem_cons, Prod.mk.injEq, List.not_mem_nil, or_false]
      at hmem
    rcases hmem with ⟨-, hn⟩ | ⟨-, hn⟩ | ⟨-, hn⟩
    · cases hn
    · rw [Node.file.inj hn, Node.fromUTF8?_toUTF8, Option.some.injEq] at ht
      subst ht
      have hsame : BlankLines.collapse
          "\x7b\"rules\": \x7b\"no-consecutive-blank-lines\": true\x7d\x7d" =
          "\x7b\"rules\": \x7b\"no-consecutive-blank-lines\": true\x7d\x7d" := by
        decide +kernel
      rw [hsame]
      exact hdoc
    · rw [Node.file.inj hn, Node.fromUTF8?_toUTF8, Option.some.injEq] at ht
      subst ht
      have hfail : (Json5.parse (FileSystem.dropByteOrderMark "a\n\n\n\nb\n")).toOption = none := by
        decide +kernel
      rw [hdoc] at hfail
      cases hfail
  have hargs : parseArguments ["a.ts"] = .ok (.run { paths := ["a.ts"] }) := by
    have hlen : "a.ts".length = 4 := rfl
    simp [parseArguments, readWords, hlen, Reader.word, Reader.addPath, Reader.settle, Reader.note,
      bind, Except.bind, pure, Except.pure]
  have hrun : (run blankLinesProject ["a.ts"]).exit = 0 ∧
      ((run blankLinesProject ["a.ts"]).fs.readText ⟨"a.ts"⟩).toOption = some "a\n\nb\n" := by
    decide +kernel
  exact ⟨hj, hrun.1, eq_ok_of_toOption_eq_some hrun.2,
    fix_run_reaches_fixpoint hj hargs rfl rfl rfl rfl hrun.1⟩

end Again

end Cli

end FormatConfig
