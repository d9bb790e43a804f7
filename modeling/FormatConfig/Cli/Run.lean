import FormatConfig.Cli.Arguments
import FormatConfig.Pipeline
import FormatConfig.Baseline
import FormatConfig.InitFile
import FormatConfig.Manifest.Resolve
import FormatConfig.Ignore.Walk
import FormatConfig.Text.LineDiff

/-!
# Running the command line

`Cli.run` carries out a command line over a file system and returns the exit code, what
was written to the two output streams, and the file system afterwards.

The files come from the manifest given with `--project` and then from the paths, each
kept once; paths that cannot be walked are reported as warnings. A baseline file (given
with `--config`, or found above the current directory) supplies the starting options,
under the options of the command line. Then every file is processed: its options are
resolved (and printed, with `--print-options`); empty, binary and non-UTF-8 files are
skipped; the fixups its rules ask for are applied, and the file is written back, or with
`--check` only reported. A failure on one file is reported and counted, and the other
files still run. The exit code is 1 after any failure, or with `--check` when a file
needs fixing; 2 for a command line that cannot be read; 0 otherwise.

With `--verbose`, every configuration file read is logged; warnings are always logged.
-/

namespace FormatConfig

namespace Cli

/-- What a run leaves behind. -/
structure Outcome where
  exit : Nat
  stdout : String
  stderr : String
  fs : FileSystem

/-- A run in progress: the file system, what has been written, and whether debug lines
are logged. -/
structure Session where
  fs : FileSystem
  out : String := ""
  err : String := ""
  verbose : Bool := false

/-- Computations of a run. -/
abbrev Run := StateM Session

/-- Writes a line to standard output. -/
def say (line : String) : Run Unit :=
  modify fun s => { s with out := s.out ++ line ++ "\n" }

/-- Writes text to standard output as it is. -/
def sayRaw (text : String) : Run Unit :=
  modify fun s => { s with out := s.out ++ text }

/-- Writes a line to standard error. -/
def complain (line : String) : Run Unit :=
  modify fun s => { s with err := s.err ++ line ++ "\n" }

/-- Logs a debug line, when debug lines are logged. -/
def debug (line : String) : Run Unit := do
  if (← get).verbose then complain ("DEBUG " ++ line)

/-- Logs a warning. -/
def warn (line : String) : Run Unit := complain ("WARN " ++ line)

/-- How results are shown. -/
inductive OutputMode where
  | normal
  | quiet
  | diff
deriving DecidableEq, Repr

/-- What a run of the files is asked to do. -/
structure Settings where
  checkOnly : Bool
  printOptions : Bool
  mode : OutputMode
  verbose : Bool
  providers : ProviderOptions

/-- The counts a run keeps. -/
structure Tally where
  fixed : Nat := 0
  problems : Nat := 0
  errors : Nat := 0
deriving DecidableEq, Repr

/-- The number of lines of a text, a last line without a line end included. -/
def lineCount (s : String) : Nat :=
  let breaks := (s.toList.filter (· = '\n')).length
  if s.isEmpty || s.endsWith "\n" then breaks else breaks + 1

/-- A string as a JSON literal. -/
def jsonString (s : String) : String :=
  "\"" ++ String.join (s.toList.map fun c =>
    match c with
    | '"' => "\\\""
    | '\\' => "\\\\"
    | '\n' => "\\n"
    | '\r' => "\\r"
    | '\t' => "\\t"
    | c =>
      if c.toNat = 8 then "\\b"
      else if c.toNat = 12 then "\\f"
      else if c.toNat < 32 then
        let h := Nat.toDigits 16 c.toNat
        "\\u" ++ String.ofList (List.replicate (4 - h.length) '0' ++ h)
      else c.toString) ++ "\""

/-- Options as an indented JSON object, one field a line. -/
def prettyOptions (o : FormatOptions) : String :=
  let field : String × FieldValue → String
    | (k, .number n) => "  " ++ jsonString k ++ ": " ++ toString n
    | (k, .text t) => "  " ++ jsonString k ++ ": " ++ jsonString t
    | (k, .flag b) => "  " ++ jsonString k ++ ": " ++ (if b then "true" else "false")
  "\x7b\n" ++ ",\n".intercalate (o.fields.map field) ++ "\n\x7d"

/-- The configuration files that resolving a file's options reads: the editor
settings file, and then, unless that failed, the rule file. -/
def optionReads (fs : FileSystem) (file : Path) (po : ProviderOptions) : List Path :=
  let settings := if po.editorConfig then
      ((fs.editorConfigFor file po.baseDir).toOption).join.toList
    else []
  let settingsOk := !po.editorConfig ||
    (fs.editorOptions file po.baseDir po.baseline).toOption.isSome
  let rules := if settingsOk && po.lint then
      ((fs.ruleFileFor file po.baseDir).toOption).join.toList
    else []
  settings ++ rules

/-- The rule file that post-processing a file reads, if any. -/
def fixupReads (fs : FileSystem) (file : Path) (po : ProviderOptions) : List Path :=
  if po.lint then ((fs.ruleFileFor file po.baseDir).toOption).join.toList else []

/-- Logs the configuration files read for a file. -/
def logReads (file : Path) (reads : List Path) : Run Unit :=
  reads.forM fun p => debug ("read " ++ p.text ++ " for " ++ file.text)

/-- Reports a file that needs fixing, under `--check`. -/
def reportProblem (mode : OutputMode) (path : Path) (before fixed : String) : Run Unit :=
  match mode with
  | .quiet => say path.text
  | .diff => sayRaw (LineDiff.unified path.text before fixed)
  | .normal => do
    say ("Error: " ++ path.text)
    say ("  - " ++ toString (lineCount before - lineCount fixed) ++
      " consecutive blank line(s) to remove")

/-- Reports a file that was fixed. -/
def reportFixed (mode : OutputMode) (path : Path) (before fixed : String) : Run Unit :=
  match mode with
  | .quiet => say path.text
  | .diff => sayRaw (LineDiff.unified path.text before fixed)
  | .normal => say ("Fixed: " ++ path.text)

/-- Reports a note about a file, under `--verbose` and unless quiet. -/
def note (cfg : Settings) (line : String) : Run Unit := do
  if cfg.verbose && cfg.mode != .quiet then say line

/-- Processes one file. -/
def processFile (cfg : Settings) (t : Tally) (path : Path) : Run Tally := do
  let failed (e : Error) : Run Tally := do
    if cfg.mode != .quiet then
      complain ("Error processing " ++ path.text ++ ": " ++ e.message)
    return { t with errors := t.errors + 1 }
  let fs := (← get).fs
  logReads path (optionReads fs path cfg.providers)
  match fs.resolveOptions path cfg.providers with
  | .error e => failed e
  | .ok options =>
    if cfg.printOptions then
      say (path.text ++ ": " ++ prettyOptions options)
      return t
    match fs.readBytes path with
    | .error e => failed (.io path e)
    | .ok bytes =>
      if bytes.isEmpty then
        note cfg ("Skipping empty: " ++ path.text)
        return t
      if isBinary bytes then
        note cfg ("Skipping binary: " ++ path.text)
        return t
      match String.fromUTF8? bytes with
      | none =>
        note cfg ("Skipping non-UTF-8: " ++ path.text)
        return t
      | some content =>
        logReads path (fixupReads fs path cfg.providers)
        match fs.postProcessText path content cfg.providers with
        | .error e => failed e
        | .ok fixed =>
          if fixed == content then
            note cfg ("Checked: " ++ path.text)
            return t
          if cfg.checkOnly then
            reportProblem cfg.mode path content fixed
            return { t with problems := t.problems + 1 }
          match fs.writeText path fixed with
          | .error e => failed (.io path e)
          | .ok fs' =>
            modify fun s => { s with fs := fs' }
            reportFixed cfg.mode path content fixed
            return { t with fixed := t.fixed + 1 }

/-- The closing summary. -/
def summarize (cfg : Settings) (t : Tally) : Run Unit := do
  if cfg.mode == .quiet || cfg.printOptions then return
  if cfg.checkOnly then
    if t.problems > 0 then
      say ""
      say (toString t.problems ++ " files with problems")
  else if t.fixed > 0 then
    say ""
    say (toString t.fixed ++ " files fixed")

/-- The files a command line names: the manifest's, then the walked paths not already
present. -/
def collectFiles (inv : Invocation) : Run (Except Error (List Path)) := do
  let fs := (← get).fs
  let fromManifest ← match inv.project with
    | none => pure (.ok [])
    | some project =>
      match fs.readManifest ⟨project⟩ with
      | .ok (manifest, selection) => do
        if let some line := selection.note manifest then debug line
        pure (fs.resolveManifest ⟨project⟩ true)
      | .error e => pure (.error e)
  match fromManifest with
  | .error e => return .error e
  | .ok files =>
    let found := fs.walkSources (inv.paths.map fun p => ⟨p⟩)
    let files ← found.foldlM (fun (files : Array Path) r => do
      match r with
      | .ok p => return if files.any (·.sameComponents p) then files else files.push p
      | .error e =>
        warn e
        return files) files.toArray
    return .ok files.toList

/-- The baseline file's options: from `--config`, or from the nearest baseline file
above the current directory; a file that cannot be read is a warning. -/
def loadConfiguration (inv : Invocation) : Run (Option FormatSection) := do
  let fs := (← get).fs
  let path := match inv.config with
    | some p => some ⟨p⟩
    | none => fs.findBaselineFile fs.cwdPath
  match path with
  | none => return none
  | some p =>
    match fs.loadBaseline p with
    | .ok s =>
      if !inv.quiet then complain ("Using config: " ++ p.text)
      return some s
    | .error e =>
      complain ("Warning: " ++ e.message)
      return none

/-- Carries out a command line that was read; returns the exit code. -/
def execute (inv : Invocation) : Run Nat := do
  if inv.init then
    match (← get).fs.writeBaselineTemplate none with
    | .ok (path, fs') =>
      modify fun s => { s with fs := fs' }
      say ("Created " ++ path.text)
      return 0
    | .error e =>
      complain ("Error: " ++ e.message)
      return 1
  match ← collectFiles inv with
  | .error e =>
    complain ("Error: " ++ e.message)
    return 1
  | .ok files =>
    if inv.listFiles then
      files.forM fun f => say f.text
      return 0
    let fileSection ← loadConfiguration inv
    let baseline := mergeBaseline
      { indentSize := inv.indentSize, tabSize := inv.tabSize, newLine := inv.newLine } fileSection
    let mode : OutputMode := if inv.quiet then .quiet else if inv.diff then .diff else .normal
    let cfg : Settings :=
      { checkOnly := inv.check, printOptions := inv.printOptions, mode, verbose := inv.verbose,
        providers := { baseDir := inv.baseDir.map fun d => ⟨d⟩, lint := !inv.noLint,
                       editorConfig := !inv.noEditorConfig, baseline } }
    let t ← files.foldlM (processFile cfg) {}
    summarize cfg t
    return if t.errors > 0 || (cfg.checkOnly && t.problems > 0) then 1 else 0

/-- Runs a command line over a file system. -/
def run (fs : FileSystem) (args : List String) : Outcome :=
  match parseArguments args with
  | .error e => { exit := 2, stdout := "", stderr := e.render, fs }
  | .ok .help => { exit := 0, stdout := helpText, stderr := "", fs }
  | .ok .version => { exit := 0, stdout := versionText, stderr := "", fs }
  | .ok (.run inv) =>
    let (code, s) := (execute inv).run { fs, verbose := inv.verbose }
    { exit := code, stdout := s.out, stderr := s.err, fs := s.fs }

end Cli

end FormatConfig
