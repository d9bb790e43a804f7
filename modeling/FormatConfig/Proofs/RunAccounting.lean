import FormatConfig.Proofs.FixRun
import FormatConfig.Proofs.ConfigLookup

/-!
# What a run counts

A run processes its files one after another. Each file has a `Finding`: processing it fails
(its options do not resolve, it cannot be read, or its fixups fail), passes (it is empty,
binary or not UTF-8, or its fixups keep its text), or finds that it needs fixing.
`documentedStep` is one file as the documentation describes it, and processing is that step
folded over the files, against the file system the files before left. When checking, the
fold changes no file and the counts are the numbers of failures and of files needing fixing;
when fixing, a file is overwritten in place and no other location changes.

A file whose options do not resolve counts as a failure even when it is text that its
fixups would change: it is never counted as a problem, nor overwritten.
-/

namespace FormatConfig

/-- The text processing looks at in a file's bytes: none when they are empty, hold a NUL
byte among the first 8192, or are not UTF-8. -/
def processedText? (bytes : ByteArray) : Option String :=
  if bytes.isEmpty || isBinary bytes then none else String.fromUTF8? bytes

namespace FileSystem

/-- Overwrites the file a path names, where it is stored; a path to no file leaves the file
system as it is. -/
def overwrite (fs : FileSystem) (path : Path) (text : String) : FileSystem :=
  match fs.resolve path with
  | .ok (loc, .file _) => fs.setNode loc (.file text.toUTF8)
  | _ => fs

/-- Setting one location's node leaves every other location as it was. -/
theorem nodeAt?_setNode_of_ne (fs : FileSystem) {loc l : Location} (n : Node) (h : l ≠ loc) :
    (fs.setNode loc n).nodeAt? l = fs.nodeAt? l := by
  cases l with
  | nil => rfl
  | cons name rest =>
    unfold setNode
    split
    · -- the entries at `loc` are replaced, and none of them is at `name :: rest`
      have hfind : fs.nodes.find? ((·.1 == name :: rest) ∘ fun e =>
          if e.1 == loc then (loc, n) else e) = fs.nodes.find? (·.1 == name :: rest) := by
        congr 1
        funext e
        by_cases he : e.1 = loc <;> simp [he]
      simp only [nodeAt?, List.find?_map, hfind, Option.map_map]
      cases hf : fs.nodes.find? (·.1 == name :: rest) with
      | none => rfl
      | some e =>
        have he : e.1 = name :: rest := by simpa using List.find?_some hf
        simp [he, h]
    · simp [nodeAt?, List.find?_append, Ne.symm h]

/-- **Overwriting writes one file.** Overwriting the file a path resolves to stores the new
text at its location, and every other location holds what it held. -/
theorem nodeAt?_overwrite {fs : FileSystem} {path : Path} {loc : Location} {bytes : ByteArray}
    (h : fs.resolve path = .ok (loc, .file bytes)) (text : String) (l : Location) :
    (fs.overwrite path text).nodeAt? l =
      if l = loc then some (.file text.toUTF8) else fs.nodeAt? l := by
  simp only [overwrite, h]
  split_ifs with hl
  · subst hl
    exact nodeAt?_setNode_self (nodeAt?_of_resolve h rfl)
  · exact nodeAt?_setNode_of_ne fs _ hl

end FileSystem

namespace Cli

/-- What processing finds in a file. -/
inductive Finding where
  /-- The options do not resolve, the file cannot be read, or its fixups fail. -/
  | fails
  /-- The file is skipped, or its fixups keep its text. -/
  | passes
  /-- The fixups change the file's text to `fixed`. -/
  | needsFixing (fixed : String)
deriving DecidableEq, Repr

/-- Processing the file fails. -/
def Finding.isFailure : Finding → Bool
  | .fails => true
  | _ => false

/-- The file needs fixing. -/
def Finding.isFix : Finding → Bool
  | .needsFixing _ => true
  | _ => false

/-- What processing finds in a file, the way the documentation sorts files. -/
def finding (fs : FileSystem) (po : ProviderOptions) (path : Path) : Finding :=
  if (fs.resolveOptions path po).isOk then
    match fs.readBytes path with
    | .error _ => .fails
    | .ok bytes =>
      match processedText? bytes with
      | none => .passes
      | some text =>
        match fs.postProcessText path text po with
        | .error _ => .fails
        | .ok fixed => if fixed = text then .passes else .needsFixing fixed
  else .fails

/-- Processing a file fails: its options do not resolve, it cannot be read, or the fixups of
the text it holds fail. -/
def FailsProcessing (fs : FileSystem) (po : ProviderOptions) (path : Path) : Prop :=
  (fs.resolveOptions path po).isOk = false ∨ (∃ e, fs.readBytes path = .error e) ∨
    ∃ bytes text e, fs.readBytes path = .ok bytes ∧ processedText? bytes = some text ∧
      fs.postProcessText path text po = .error e

/-- A file needs fixing: its options resolve, it holds text, and its fixups change that
text. -/
def NeedsFixing (fs : FileSystem) (po : ProviderOptions) (path : Path) : Prop :=
  (fs.resolveOptions path po).isOk = true ∧
    ∃ bytes text fixed, fs.readBytes path = .ok bytes ∧ processedText? bytes = some text ∧
      fs.postProcessText path text po = .ok fixed ∧ fixed ≠ text

/-- A file counts as a failure exactly when processing it fails. -/
theorem finding_isFailure_iff {fs : FileSystem} {po : ProviderOptions} {path : Path} :
    (finding fs po path).isFailure = true ↔ FailsProcessing fs po path := by
  unfold finding FailsProcessing
  by_cases hok : (fs.resolveOptions path po).isOk = true
  · cases hread : fs.readBytes path with
    | error e => simp [Finding.isFailure, hok]
    | ok bytes =>
      cases htext : processedText? bytes with
      | none => simp [Finding.isFailure, hok, htext]
      | some text =>
        cases hpost : fs.postProcessText path text po with
        | error e => simp [Finding.isFailure, hok, htext, hpost]
        | ok fixed =>
          by_cases hsame : fixed = text <;> simp [Finding.isFailure, hok, htext, hpost, hsame]
  · simp [Finding.isFailure, hok]

/-- A file counts as needing fixing exactly when it does. -/
theorem finding_isFix_iff {fs : FileSystem} {po : ProviderOptions} {path : Path} :
    (finding fs po path).isFix = true ↔ NeedsFixing fs po path := by
  unfold finding NeedsFixing
  by_cases hok : (fs.resolveOptions path po).isOk = true
  · cases hread : fs.readBytes path with
    | error e => simp [Finding.isFix, hok]
    | ok bytes =>
      cases htext : processedText? bytes with
      | none => simp [Finding.isFix, hok, htext]
      | some text =>
        cases hpost : fs.postProcessText path text po with
        | error e => simp [Finding.isFix, hok, htext, hpost]
        | ok fixed =>
          by_cases hsame : fixed = text <;> simp [Finding.isFix, hok, htext, hpost, hsame]
  · simp [Finding.isFix, hok]

instance (fs : FileSystem) (po : ProviderOptions) : DecidablePred (FailsProcessing fs po) :=
  fun _ => decidable_of_iff _ finding_isFailure_iff

instance (fs : FileSystem) (po : ProviderOptions) : DecidablePred (NeedsFixing fs po) :=
  fun _ => decidable_of_iff _ finding_isFix_iff

theorem decide_failsProcessing (fs : FileSystem) (po : ProviderOptions) (path : Path) :
    decide (FailsProcessing fs po path) = (finding fs po path).isFailure := by
  rw [Bool.eq_iff_iff, decide_eq_true_iff, finding_isFailure_iff]

theorem decide_needsFixing (fs : FileSystem) (po : ProviderOptions) (path : Path) :
    decide (NeedsFixing fs po path) = (finding fs po path).isFix := by
  rw [Bool.eq_iff_iff, decide_eq_true_iff, finding_isFix_iff]

/-- One file of a run, as the documentation describes it: a failure is counted; a file
whose text needs fixing is counted as a problem when checking, and otherwise overwritten
with the fixed text and counted as fixed; any other file is left alone. -/
def documentedStep (checkOnly : Bool) (po : ProviderOptions) (acc : Tally × FileSystem)
    (path : Path) : Tally × FileSystem :=
  match finding acc.2 po path with
  | .fails => ({ acc.1 with errors := acc.1.errors + 1 }, acc.2)
  | .passes => acc
  | .needsFixing fixed =>
    if checkOnly then ({ acc.1 with problems := acc.1.problems + 1 }, acc.2)
    else ({ acc.1 with fixed := acc.1.fixed + 1 }, acc.2.overwrite path fixed)

/-- A file that was read is written in place: writing it sets the node it resolves to. -/
theorem writeText_of_readBytes {fs : FileSystem} {path : Path} {bytes : ByteArray}
    (h : fs.readBytes path = .ok bytes) (text : String) :
    fs.writeText path text = .ok (fs.overwrite path text) := by
  obtain ⟨loc, hres⟩ := FileSystem.resolve_of_readBytes h
  simp [FileSystem.writeText, FileSystem.writeBytes, FileSystem.overwrite, hres]

/-- **Processing one file does what the documentation says.** -/
theorem fileEffect_eq_documentedStep {cfg : Settings} (hprint : cfg.printOptions = false)
    (fs : FileSystem) (t : Tally) (path : Path) :
    fileEffect cfg fs t path = documentedStep cfg.checkOnly cfg.providers (t, fs) path := by
  unfold fileEffect documentedStep finding
  cases hres : fs.resolveOptions path cfg.providers with
  | error e => rfl
  | ok o =>
    simp only [hprint, Except.isOk, Except.toBool, if_true, Bool.false_eq_true, if_false]
    cases hread : fs.readBytes path with
    | error e => rfl
    | ok bytes =>
      simp only [processedText?]
      by_cases hempty : bytes.isEmpty = true
      · simp [hempty]
      by_cases hbin : isBinary bytes = true
      · simp [hempty, hbin]
      simp only [hempty, hbin, Bool.false_eq_true, if_false, Bool.or_false]
      cases String.fromUTF8? bytes with
      | none => rfl
      | some content =>
        dsimp only
        cases fs.postProcessText path content cfg.providers with
        | error e => rfl
        | ok fixed =>
          dsimp only
          by_cases hsame : fixed = content
          · simp [hsame]
          simp only [beq_iff_eq, hsame, if_false]
          cases cfg.checkOnly
          · simp [writeText_of_readBytes hread]
          · rfl

/-- Processing files one after another does what the documentation says, file by file,
each against the file system the files before it left. -/
theorem filesEffect_eq_foldl_documentedStep {cfg : Settings} (hprint : cfg.printOptions = false)
    (fs : FileSystem) (t : Tally) (files : List Path) :
    filesEffect cfg fs t files = files.foldl (documentedStep cfg.checkOnly cfg.providers) (t, fs) := by
  unfold filesEffect
  simp only [fileEffect_eq_documentedStep hprint]

/-- **Checking counts each file once.** A checking run leaves the file system as it is and
counts the files whose processing fails and the files that need fixing. -/
theorem foldl_documentedStep_check (po : ProviderOptions) (fs : FileSystem) (t : Tally)
    (files : List Path) :
    files.foldl (documentedStep true po) (t, fs) =
      ({ t with errors := t.errors + files.countP fun p => (finding fs po p).isFailure,
                problems := t.problems + files.countP fun p => (finding fs po p).isFix }, fs) := by
  induction files generalizing t with
  | nil => rfl
  | cons path files ih =>
    rw [List.foldl_cons, List.countP_cons, List.countP_cons]
    -- one file moves one count at most, and the file system stays
    cases hf : finding fs po path with
    | fails =>
      simp only [documentedStep, hf]
      rw [ih]
      simp [Finding.isFailure, Finding.isFix, Nat.add_assoc, Nat.add_comm]
    | passes =>
      simp only [documentedStep, hf]
      rw [ih]
      simp [Finding.isFailure, Finding.isFix]
    | needsFixing fixed =>
      simp only [documentedStep, hf, if_true]
      rw [ih]
      simp [Finding.isFailure, Finding.isFix, Nat.add_assoc, Nat.add_comm]

/-- The sources of options a command line asks for, over the default baseline. -/
def Invocation.sources (inv : Invocation) : ProviderOptions :=
  { baseDir := inv.baseDir.map fun d => ⟨d⟩, lint := !inv.noLint,
    editorConfig := !inv.noEditorConfig }

/-- What processing finds does not depend on the baseline: options resolve whatever the
baseline, and the fixups never read it. -/
theorem finding_withBaseline (fs : FileSystem) (po : ProviderOptions) (b : FormatOptions)
    (path : Path) : finding fs { po with baseline := b } path = finding fs po path := by
  unfold finding
  rw [FileSystem.resolveOptions_isOk, FileSystem.resolveOptions_isOk]
  rfl

/-- A command line's files are processed with its own sources of options, whatever the
baseline. -/
theorem documentedStep_settings (inv : Invocation) (b : FormatOptions) (c : Bool) :
    documentedStep c (inv.settings b).providers = documentedStep c inv.sources := by
  funext acc path
  have hsources : (inv.settings b).providers = { inv.sources with baseline := b } := rfl
  unfold documentedStep
  rw [hsources, finding_withBaseline]

/-- A command line whose files cannot be collected changes no file. -/
theorem execute_run_fs_of_error {inv : Invocation} (hinit : inv.init = false) {s : Session}
    {e : Error} (hfiles : collectedFiles inv s.fs = .error e) :
    ((execute inv).run s).run.2.fs = s.fs := by
  obtain ⟨hcollect, hcfs⟩ := collectFiles_run inv s
  simp only [execute, hinit, Bool.false_eq_true, if_false, StateT.run_bind, Id.run_bind,
    hcollect, hfiles]
  simp [complain, hcfs]

/-- **A run accounts for every file.** Processing runs over the files in order, each as the
documentation describes, against the file system the files before it left; a checking run
changes no file and counts the files that fail and those that need fixing; and a command
line exits with 1 when its files cannot be collected, and otherwise as the counts say. -/
theorem run_accounts_for_every_file :
    (∀ (cfg : Settings) (s : Session) (files : List Path), cfg.printOptions = false →
      (((files.foldlM (processFile cfg) {}).run s).run.1,
          ((files.foldlM (processFile cfg) {}).run s).run.2.fs) =
        files.foldl (documentedStep cfg.checkOnly cfg.providers) ({}, s.fs)) ∧
    (∀ (fs : FileSystem) (path : Path) (text : String) (loc : Location) (bytes : ByteArray),
      fs.resolve path = .ok (loc, .file bytes) → ∀ l,
        (fs.overwrite path text).nodeAt? l =
          if l = loc then some (.file text.toUTF8) else fs.nodeAt? l) ∧
    (∀ (po : ProviderOptions) (fs : FileSystem) (files : List Path),
      files.foldl (documentedStep true po) ({}, fs) =
        ({ errors := files.countP fun p => decide (FailsProcessing fs po p),
           problems := files.countP fun p => decide (NeedsFixing fs po p) }, fs)) ∧
    ∀ (fs : FileSystem) (args : List String) (inv : Invocation),
      parseArguments args = .ok (.run inv) → inv.init = false → inv.listFiles = false →
      inv.printOptions = false →
      (∀ e, collectedFiles inv fs = .error e → (run fs args).exit = 1 ∧ (run fs args).fs = fs) ∧
      ∀ files, collectedFiles inv fs = .ok files →
        (run fs args).exit =
            (files.foldl (documentedStep inv.check inv.sources) ({}, fs)).1.exitCode inv.check ∧
          (run fs args).fs = (files.foldl (documentedStep inv.check inv.sources) ({}, fs)).2 := by
  refine ⟨fun cfg s files hprint => ?_, fun fs path text loc bytes h l => ?_,
    fun po fs files => ?_, ?_⟩
  · rw [foldlM_processFile_run, filesEffect_eq_foldl_documentedStep hprint]
  · exact FileSystem.nodeAt?_overwrite h text l
  · rw [foldl_documentedStep_check]
    simp [decide_failsProcessing, decide_needsFixing]
  · intro fs args inv hargs hinit hlist hprint
    refine ⟨fun e he => ⟨?_, ?_⟩, fun files hfiles => ?_⟩
    · rw [run_exit hargs]
      exact execute_run_of_error hinit he
    · rw [run_fs hargs]
      exact execute_run_fs_of_error hinit he
    · -- the run processes its files over the baseline it reads, which changes nothing
      obtain ⟨b, hexit, hfs⟩ := execute_run hinit hlist (s := { fs, verbose := inv.verbose }) hfiles
      have hprint' : (inv.settings b).printOptions = false := hprint
      rw [filesEffect_eq_foldl_documentedStep hprint', documentedStep_settings] at hexit hfs
      exact ⟨by rw [run_exit hargs, hexit]; rfl, by rw [run_fs hargs, hfs]; rfl⟩

/-- A project whose `.editorconfig` is a directory, with a rule file that asks for
consecutive blank lines to be removed and a file that has two. -/
def editorConfigDirProject : FileSystem :=
  { nodes := [(["r"], .dir), (["r", ".editorconfig"], .dir),
    (["r", "tslint.json"],
      .file "\x7b\"rules\": \x7b\"no-consecutive-blank-lines\": true\x7d\x7d".toUTF8),
    (["r", "a.ts"], .file "a\n\n\nb\n".toUTF8)],
    cwd := ["r"] }

theorem run_accounts_for_every_file_check_one :
    (run editorConfigDirProject ["--check", "a.ts"]).exit =
        (([⟨"a.ts"⟩] : List Path).foldl
          (documentedStep true (Invocation.sources { paths := ["a.ts"], check := true }))
          ({}, editorConfigDirProject)).1.exitCode true ∧
      (run editorConfigDirProject ["--check", "a.ts"]).fs =
        (([⟨"a.ts"⟩] : List Path).foldl
          (documentedStep true (Invocation.sources { paths := ["a.ts"], check := true }))
          ({}, editorConfigDirProject)).2 := by
  have hone : parseArguments ["a.ts"] = .ok (.run { paths := ["a.ts"] }) := by
    have hlen : "a.ts".length = 4 := rfl
    simp [parseArguments, readWords, hlen, Reader.word, Reader.addPath, Reader.settle, Reader.note,
      bind, Except.bind, pure, Except.pure]
  have hargs := parseArguments_check_cons hone rfl
  have hfiles : collectedFiles { paths := ["a.ts"], check := true } editorConfigDirProject =
      .ok [⟨"a.ts"⟩] :=
    eq_ok_of_toOption_eq_some (by decide +kernel)
  exact (run_accounts_for_every_file.2.2.2 _ _ _ hargs rfl rfl rfl).2 _ hfiles

/-- The file's options do not resolve, since `.editorconfig` cannot be read, so checking it
counts one failure and no problem, although the file is processed text and its fixups
change it. -/
theorem check_counts_unresolved_file_only_as_failure :
    ((([⟨"a.ts"⟩] : List Path).foldlM
        (processFile { checkOnly := true, printOptions := false, mode := .normal,
                       verbose := false, providers := {} }) {}).run
        { fs := editorConfigDirProject }).run.1 = { errors := 1 } ∧
      (editorConfigDirProject.readBytes ⟨"a.ts"⟩).toOption.bind processedText? =
        some "a\n\n\nb\n" ∧
      (editorConfigDirProject.postProcessText ⟨"a.ts"⟩ "a\n\n\nb\n" {}).toOption =
        some "a\n\nb\n" := by
  decide +kernel

end Cli

end FormatConfig
