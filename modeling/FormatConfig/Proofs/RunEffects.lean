import FormatConfig.Cli.Run

/-!
# What a run does to the file system

A run writes messages to its two output streams, and changes the file system only when it
writes a fixed file back. This module takes the messages out of the picture: writing a
message never changes the file system (`debug_run_fs`, `note_run_fs`, ...), processing a
file changes the counts and the file system as `fileEffect` says (`processFile_run`), and
collecting the files of a command line gives `collectedFiles`, the files found, each kept
once (`collectFiles_run`).
-/

namespace FormatConfig

namespace Cli

/-! ## Messages leave the file system alone -/

section Messages

variable (s : Session)

@[simp] theorem say_run_fs (line : String) : ((say line).run s).run.2.fs = s.fs := rfl

@[simp] theorem complain_run_fs (line : String) : ((complain line).run s).run.2.fs = s.fs := rfl

@[simp] theorem debug_run_fs (line : String) : ((debug line).run s).run.2.fs = s.fs := by
  unfold debug
  by_cases h : s.verbose = true <;> simp [h, complain]

@[simp] theorem warn_run_fs (line : String) : ((warn line).run s).run.2.fs = s.fs := by
  simp [warn, complain]

@[simp] theorem note_run_fs (cfg : Settings) (line : String) :
    ((note cfg line).run s).run.2.fs = s.fs := by
  unfold note
  split <;> simp [say]

@[simp] theorem logReads_run_fs (file : Path) (reads : List Path) :
    ((logReads file reads).run s).run.2.fs = s.fs := by
  unfold logReads
  induction reads generalizing s with
  | nil => rfl
  | cons p ps ih =>
    simp only [List.forM, StateT.run_bind, Id.run_bind]
    rw [ih, debug_run_fs]

@[simp] theorem reportProblem_run_fs (mode : OutputMode) (path : Path) (before fixed : String) :
    ((reportProblem mode path before fixed).run s).run.2.fs = s.fs := by
  unfold reportProblem
  split <;> simp [say, sayRaw]

@[simp] theorem reportFixed_run_fs (mode : OutputMode) (path : Path) (before fixed : String) :
    ((reportFixed mode path before fixed).run s).run.2.fs = s.fs := by
  unfold reportFixed
  split <;> simp [say, sayRaw]

@[simp] theorem summarize_run_fs (cfg : Settings) (t : Tally) :
    ((summarize cfg t).run s).run.2.fs = s.fs := by
  unfold summarize
  by_cases hq : (cfg.mode == .quiet || cfg.printOptions) = true
  · simp [hq]
  · by_cases hc : cfg.checkOnly = true <;> by_cases hp : t.problems > 0 <;>
      by_cases hf : t.fixed > 0 <;> simp [hq, hc, hp, hf, say]

@[simp] theorem loadConfiguration_run_fs (inv : Invocation) :
    ((loadConfiguration inv).run s).run.2.fs = s.fs := by
  unfold loadConfiguration
  simp only [StateT.run_bind, StateT.run_get, Id.run_bind, Id.run_pure]
  split
  · rfl
  · split
    · split <;> simp [complain]
    · simp [complain]

end Messages

/-! ## Processing a file -/

/-- What processing a file does to the counts and to the file system, its messages apart. -/
def fileEffect (cfg : Settings) (fs : FileSystem) (t : Tally) (path : Path) :
    Tally × FileSystem :=
  match fs.resolveOptions path cfg.providers with
  | .error _ => ({ t with errors := t.errors + 1 }, fs)
  | .ok _ =>
    if cfg.printOptions then (t, fs)
    else
      match fs.readBytes path with
      | .error _ => ({ t with errors := t.errors + 1 }, fs)
      | .ok bytes =>
        if bytes.isEmpty then (t, fs)
        else if isBinary bytes then (t, fs)
        else
          match String.fromUTF8? bytes with
          | none => (t, fs)
          | some content =>
            match fs.postProcessText path content cfg.providers with
            | .error _ => ({ t with errors := t.errors + 1 }, fs)
            | .ok fixed =>
              if fixed == content then (t, fs)
              else if cfg.checkOnly then ({ t with problems := t.problems + 1 }, fs)
              else
                match fs.writeText path fixed with
                | .error _ => ({ t with errors := t.errors + 1 }, fs)
                | .ok fs' => ({ t with fixed := t.fixed + 1 }, fs')

theorem processFile_run (cfg : Settings) (t : Tally) (path : Path) (s : Session) :
    (((processFile cfg t path).run s).run.1, ((processFile cfg t path).run s).run.2.fs) =
      fileEffect cfg s.fs t path := by
  simp only [processFile, fileEffect, StateT.run_bind, StateT.run_get, Id.run_bind,
    Id.run_pure]
  -- the model and the run take the same branch at every test
  cases s.fs.resolveOptions path cfg.providers with
  | error e =>
    dsimp only
    by_cases hq : cfg.mode = OutputMode.quiet <;> simp [hq]
  | ok options =>
    dsimp only
    by_cases hprint : cfg.printOptions = true
    · simp [hprint, say]
    simp only [hprint, Bool.false_eq_true, if_false]
    cases s.fs.readBytes path with
    | error e =>
      dsimp only
      by_cases hq : cfg.mode = OutputMode.quiet <;> simp [hq]
    | ok bytes =>
      dsimp only
      by_cases hempty : bytes.isEmpty = true
      · simp [hempty]
      by_cases hbin : isBinary bytes = true
      · simp [hempty, hbin]
      simp only [hempty, hbin, Bool.false_eq_true, if_false]
      cases String.fromUTF8? bytes with
      | none => simp
      | some content =>
        simp only [StateT.run_bind, Id.run_bind]
        cases s.fs.postProcessText path content cfg.providers with
        | error e =>
          dsimp only
          by_cases hq : cfg.mode = OutputMode.quiet <;> simp [hq]
        | ok fixed =>
          dsimp only
          by_cases hsame : (fixed == content) = true
          · simp [hsame]
          by_cases hcheck : cfg.checkOnly = true
          · simp [hsame, hcheck]
          simp only [hsame, hcheck, Bool.false_eq_true, if_false]
          cases s.fs.writeText path fixed with
          | error e =>
            dsimp only
            by_cases hq : cfg.mode = OutputMode.quiet <;> simp [hq]
          | ok fs' => simp

/-- Processing files one after another, their messages apart. -/
def filesEffect (cfg : Settings) (fs : FileSystem) (t : Tally) (files : List Path) :
    Tally × FileSystem :=
  files.foldl (fun acc path => fileEffect cfg acc.2 acc.1 path) (t, fs)

theorem foldlM_processFile_run (cfg : Settings) (files : List Path) (t : Tally) (s : Session) :
    (((files.foldlM (processFile cfg) t).run s).run.1,
      ((files.foldlM (processFile cfg) t).run s).run.2.fs) = filesEffect cfg s.fs t files := by
  induction files generalizing t s with
  | nil => rfl
  | cons path files ih =>
    have hstep := processFile_run cfg t path s
    simp only [List.foldlM_cons, StateT.run_bind, Id.run_bind, filesEffect, List.foldl_cons]
    rw [ih, filesEffect, ← hstep]

/-! ## Collecting the files -/

/-- Adds a file unless a path to it with the same components is already there. -/
def addNew (files : Array Path) (p : Path) : Array Path :=
  if files.any (·.sameComponents p) then files else files.push p

/-- The files a command line names, its messages apart: the manifest's, then the files
found by walking the paths, each kept once. -/
def collectedFiles (inv : Invocation) (fs : FileSystem) : Except Error (List Path) :=
  let fromManifest : Except Error (List Path) := match inv.project with
    | none => .ok []
    | some project =>
      match fs.readManifest ⟨project⟩ with
      | .ok _ => fs.resolveManifest ⟨project⟩ true
      | .error e => .error e
  match fromManifest with
  | .error e => .error e
  | .ok files =>
    let found := (fs.walkSources (inv.paths.map fun p => ⟨p⟩)).filterMap Except.toOption
    .ok (found.foldl addNew files.toArray).toList

/-- A fold over walk results whose step adds the files found and only warns about the
errors keeps the files found. -/
theorem foldlM_found_run {g : Array Path → Except String Path → Run (Array Path)}
    (hok : ∀ files p s, (g files (.ok p)).run s = pure (addNew files p, s))
    (herr : ∀ files e s, ((g files (.error e)).run s).run.1 = files ∧
      ((g files (.error e)).run s).run.2.fs = s.fs)
    (found : List (Except String Path)) (files : Array Path) (s : Session) :
    ((found.foldlM g files).run s).run.1 = (found.filterMap Except.toOption).foldl addNew files ∧
      ((found.foldlM g files).run s).run.2.fs = s.fs := by
  induction found generalizing files s with
  | nil => exact ⟨rfl, rfl⟩
  | cons r found ih =>
    simp only [List.foldlM_cons, StateT.run_bind, Id.run_bind]
    cases r with
    | ok p =>
      rw [hok]
      exact ih _ _
    | error e =>
      obtain ⟨hfiles, hfs⟩ := herr files e s
      rw [hfiles, (ih _ _).1, (ih _ _).2, hfs]
      exact ⟨rfl, rfl⟩

/-- The walk that ends the collection, whatever was logged before it. -/
theorem foldlM_found_toList {g : Array Path → Except String Path → Run (Array Path)}
    (hok : ∀ files p s, (g files (.ok p)).run s = pure (addNew files p, s))
    (herr : ∀ files e s, ((g files (.error e)).run s).run.1 = files ∧
      ((g files (.error e)).run s).run.2.fs = s.fs)
    (found : List (Except String Path)) (files : List Path) {s s' : Session}
    (hs : s'.fs = s.fs) :
    (Except.ok ((found.foldlM g files.toArray).run s').run.1.toList : Except Error (List Path)) =
        .ok ((found.filterMap Except.toOption).foldl addNew files.toArray).toList ∧
      ((found.foldlM g files.toArray).run s').run.2.fs = s.fs := by
  obtain ⟨hfiles, hfs⟩ := foldlM_found_run hok herr found files.toArray s'
  rw [hfiles, hfs, hs]
  exact ⟨rfl, rfl⟩

theorem collectFiles_run (inv : Invocation) (s : Session) :
    ((collectFiles inv).run s).run.1 = collectedFiles inv s.fs ∧
      ((collectFiles inv).run s).run.2.fs = s.fs := by
  unfold collectFiles collectedFiles
  simp only [StateT.run_bind, StateT.run_get, Id.run_bind, Id.run_pure]
  -- the manifest's files, if a manifest is named, and then one walk
  cases inv.project with
  | none =>
    simp only [StateT.run_bind, Id.run_bind, StateT.run_pure, Id.run_pure]
    exact foldlM_found_toList (fun _ _ _ => rfl) (fun _ e s => ⟨rfl, warn_run_fs s e⟩) _ [] rfl
  | some project =>
    cases hread : s.fs.readManifest ⟨project⟩ with
    | error e => simp [hread]
    | ok r =>
      obtain ⟨manifest, selection⟩ := r
      cases hres : s.fs.resolveManifest ⟨project⟩ true with
      | error e =>
        simp only [hread, hres]
        split <;> simp
      | ok files =>
        simp only [hread, hres]
        -- the note about the selection is only logged
        split <;> simp only [StateT.run_bind, Id.run_bind, StateT.run_pure, Id.run_pure] <;>
          exact foldlM_found_toList (fun _ _ _ => rfl) (fun _ e s => ⟨rfl, warn_run_fs s e⟩) _
            files (by simp)


/-! ## A run of the files -/

/-- The settings a command line runs its files with, over a baseline. -/
def Invocation.settings (inv : Invocation) (baseline : FormatOptions) : Settings :=
  { checkOnly := inv.check, printOptions := inv.printOptions,
    mode := if inv.quiet then .quiet else if inv.diff then .diff else .normal,
    verbose := inv.verbose,
    providers := { baseDir := inv.baseDir.map fun d => ⟨d⟩, lint := !inv.noLint,
                   editorConfig := !inv.noEditorConfig, baseline } }

/-- The exit code after the files were processed: 1 after a failure, or when checking and a
file needs fixing. -/
def Tally.exitCode (checkOnly : Bool) (t : Tally) : Nat :=
  if t.errors > 0 || (checkOnly && t.problems > 0) then 1 else 0

/-- A command line whose files were collected processes them one by one over some baseline:
its exit code and file system are those of `filesEffect`. -/
theorem execute_run {inv : Invocation} (hinit : inv.init = false)
    (hlist : inv.listFiles = false) {s : Session} {files : List Path}
    (hfiles : collectedFiles inv s.fs = .ok files) :
    ∃ baseline,
      ((execute inv).run s).run.1 =
          (filesEffect (inv.settings baseline) s.fs {} files).1.exitCode inv.check ∧
        ((execute inv).run s).run.2.fs = (filesEffect (inv.settings baseline) s.fs {} files).2 := by
  obtain ⟨hcollect, hcfs⟩ := collectFiles_run inv s
  simp only [execute, hinit, hlist, Bool.false_eq_true, if_false, StateT.run_bind, Id.run_bind,
    hcollect, hfiles, StateT.run_pure, Id.run_pure, summarize_run_fs]
  -- the baseline is what the baseline file, read after collecting, gives
  have hfs : (((loadConfiguration inv).run ((collectFiles inv).run s).run.2).run.2).fs = s.fs := by
    rw [loadConfiguration_run_fs, hcfs]
  have hfold := foldlM_processFile_run (inv.settings (mergeBaseline
    { indentSize := inv.indentSize, tabSize := inv.tabSize, newLine := inv.newLine }
    ((loadConfiguration inv).run ((collectFiles inv).run s).run.2).run.1)) files {}
    ((loadConfiguration inv).run ((collectFiles inv).run s).run.2).run.2
  rw [Prod.ext_iff, hfs] at hfold
  simp only [Invocation.settings] at hfold
  refine ⟨_, ?_, hfold.2⟩
  rw [hfold.1]
  rfl

/-- A command line whose files cannot be collected fails. -/
theorem execute_run_of_error {inv : Invocation} (hinit : inv.init = false) {s : Session}
    {e : Error} (hfiles : collectedFiles inv s.fs = .error e) :
    ((execute inv).run s).run.1 = 1 := by
  obtain ⟨hcollect, -⟩ := collectFiles_run inv s
  simp [execute, hinit, hcollect, hfiles]

/-! ## Files that processing leaves alone -/

/-- A file that processing leaves as it is: its options resolve, and its bytes are empty,
binary, not UTF-8, or a text that its fixups keep. -/
def Settled (fs : FileSystem) (po : ProviderOptions) (path : Path) : Prop :=
  (fs.resolveOptions path po).isOk = true ∧ ∃ bytes, fs.readBytes path = .ok bytes ∧
    (bytes.isEmpty = true ∨ isBinary bytes = true ∨
      ∀ text, String.fromUTF8? bytes = some text → fs.postProcessText path text po = .ok text)

theorem Settled.resolveOptions {fs : FileSystem} {po : ProviderOptions} {path : Path}
    (h : Settled fs po path) : ∃ o, fs.resolveOptions path po = .ok o := by
  obtain ⟨hok, -⟩ := h
  revert hok
  cases fs.resolveOptions path po with
  | error e => intro h; cases h
  | ok o => intro _; exact ⟨o, rfl⟩

/-- Processing a settled file changes nothing. -/
theorem fileEffect_settled {cfg : Settings} (hprint : cfg.printOptions = false)
    {fs : FileSystem} {path : Path} (hs : Settled fs cfg.providers path) (t : Tally) :
    fileEffect cfg fs t path = (t, fs) := by
  obtain ⟨o, ho⟩ := hs.resolveOptions
  obtain ⟨-, bytes, hread, hkeep⟩ := hs
  simp only [fileEffect, ho, hprint, hread, Bool.false_eq_true, if_false]
  by_cases hempty : bytes.isEmpty = true
  · simp [hempty]
  by_cases hbin : isBinary bytes = true
  · simp [hempty, hbin]
  have hfix := (hkeep.resolve_left hempty).resolve_left hbin
  cases hdec : String.fromUTF8? bytes with
  | none => simp [hempty, hbin]
  | some content => simp [hempty, hbin, hfix content hdec]

theorem filesEffect_settled {cfg : Settings} (hprint : cfg.printOptions = false)
    {fs : FileSystem} {files : List Path} (hs : ∀ path ∈ files, Settled fs cfg.providers path)
    (t : Tally) : filesEffect cfg fs t files = (t, fs) := by
  induction files with
  | nil => rfl
  | cons path files ih =>
    simp only [filesEffect, List.foldl_cons] at ih ⊢
    rw [fileEffect_settled hprint (hs path (List.mem_cons_self ..)),
      ih fun q hq => hs q (List.mem_cons_of_mem _ hq)]

/-- A settled file is processed alike, checking or fixing. -/
theorem processFile_settled {cfg : Settings} (hprint : cfg.printOptions = false) {t : Tally}
    {path : Path} {s : Session} (hs : Settled s.fs cfg.providers path) (c : Bool) :
    (processFile { cfg with checkOnly := c } t path).run s = (processFile cfg t path).run s := by
  obtain ⟨o, ho⟩ := hs.resolveOptions
  obtain ⟨-, bytes, hread, hkeep⟩ := hs
  simp only [processFile, note, StateT.run_bind, StateT.run_get, hprint]
  by_cases hempty : bytes.isEmpty = true
  · simp [hempty, ho, hread]
  by_cases hbin : isBinary bytes = true
  · simp [hempty, hbin, ho, hread]
  have hfix := (hkeep.resolve_left hempty).resolve_left hbin
  cases hdec : String.fromUTF8? bytes with
  | none => simp [hempty, hbin, hdec, ho, hread]
  | some content => simp [hempty, hbin, hdec, hfix content hdec, ho, hread]

theorem foldlM_processFile_settled {cfg : Settings} (hprint : cfg.printOptions = false)
    {files : List Path} {s : Session} (hs : ∀ path ∈ files, Settled s.fs cfg.providers path)
    (c : Bool) (t : Tally) :
    ((files.foldlM (processFile { cfg with checkOnly := c }) t).run s).run =
      ((files.foldlM (processFile cfg) t).run s).run := by
  induction files generalizing s with
  | nil => rfl
  | cons path files ih =>
    have hpath := hs path (List.mem_cons_self ..)
    -- the file changes nothing, so the next files are still settled
    have hstep := processFile_run cfg t path s
    rw [fileEffect_settled hprint hpath] at hstep
    obtain ⟨ht, hfs⟩ := Prod.mk.inj hstep
    simp only [List.foldlM_cons, StateT.run_bind, Id.run_bind, processFile_settled hprint hpath,
      ht]
    exact ih fun q hq => hfs ▸ hs q (List.mem_cons_of_mem _ hq)

/-- With nothing counted, the summary says nothing. -/
theorem summarize_empty (cfg : Settings) (s : Session) : ((summarize cfg {}).run s).run = ((), s) := by
  unfold summarize
  split <;> simp

/-- Over settled files, checking and fixing run alike. -/
theorem execute_check_eq {inv : Invocation} (hinit : inv.init = false)
    (hlist : inv.listFiles = false) (hprint : inv.printOptions = false) {s : Session}
    {files : List Path} (hfiles : collectedFiles inv s.fs = .ok files)
    (hs : ∀ baseline, ∀ path ∈ files, Settled s.fs (inv.settings baseline).providers path)
    (c : Bool) :
    (execute { inv with check := c }).run s = (execute inv).run s := by
  obtain ⟨hcollect, hcfs⟩ := collectFiles_run inv s
  have hcollect' : collectFiles { inv with check := c } = collectFiles inv := rfl
  have hload : loadConfiguration { inv with check := c } = loadConfiguration inv := rfl
  apply Id.ext
  rw [execute, execute, hcollect', hload]
  simp only [hinit, hlist, Bool.false_eq_true, if_false, StateT.run_bind, Id.run_bind, hcollect,
    hfiles]
  -- the files run over the baseline read after collecting them, in the state left then
  have hfs : (((loadConfiguration inv).run ((collectFiles inv).run s).run.2).run.2).fs = s.fs := by
    rw [loadConfiguration_run_fs, hcfs]
  revert hfs
  generalize ((loadConfiguration inv).run ((collectFiles inv).run s).run.2).run = r
  intro hfs
  have hsettled : ∀ path ∈ files, Settled r.2.fs (inv.settings (mergeBaseline
      { indentSize := inv.indentSize, tabSize := inv.tabSize, newLine := inv.newLine } r.1)).providers
      path := by
    rw [hfs]
    exact hs _
  have hcheck := foldlM_processFile_settled hprint hsettled c {}
  have hfix := foldlM_processFile_run (inv.settings (mergeBaseline
    { indentSize := inv.indentSize, tabSize := inv.tabSize, newLine := inv.newLine } r.1)) files {}
    r.2
  rw [filesEffect_settled hprint hsettled, Prod.ext_iff] at hfix
  simp only [Invocation.settings] at hcheck hfix
  rw [hcheck]
  simp [hfix.1, summarize_empty]

end Cli

end FormatConfig
