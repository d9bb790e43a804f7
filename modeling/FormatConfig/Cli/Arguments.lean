import FormatConfig.Options

/-!
# Command-line arguments

The command line of `lintfmt`: target paths, and the options below. Arguments are read
left to right, the way common argument parsers read them:

* `--name` or `--name=value` for a long option, `-x` for a short one; short flags
  combine (`-cq`) and a short option takes the rest of its word as its value (`-pfile`);
* an option that needs a value takes the next word, unless that word is itself an
  option; `--` makes every later word a path;
* a flag may not be repeated, an unknown option is an error (suggesting a similar name
  when there is one), and paths are required unless `--init` or `--project` is given;
* paths wait until an option comes (or the line ends), and an option's value given as
  the next word waits until the next argument, before they are checked and stored;
* `--help` and `--version` answer at once.

Errors are reported the way such parsers word them, ending with a hint to `--help`. An
error's usage line names what was stored by then, so what still waits can change it.
-/

namespace FormatConfig

namespace Cli

/-- The options of the command line. -/
inductive Flag where
  | project
  | check
  | diff
  | quiet
  | printOptions
  | listFiles
  | baseDir
  | noLint
  | noEditorConfig
  | indentSize
  | tabSize
  | newLine
  | init
  | config
  | verbose
  | help
  | version
deriving DecidableEq, Repr, Inhabited

/-- How an option is written and described. -/
structure FlagSpec where
  flag : Flag
  long : String
  short : Option Char
  /-- The name of the value an option takes; flags take none. -/
  valueName : Option String
  about : String

/-- The options, in the order help lists them. -/
def flagSpecs : List FlagSpec :=
  [ ⟨.project, "project", some 'p', some "TSCONFIG", "Take files from this tsconfig.json"⟩,
    ⟨.check, "check", some 'c', none, "Check only (no modifications), exit 1 if fixups are needed"⟩,
    ⟨.diff, "diff", some 'd', none, "Show changes in diff format"⟩,
    ⟨.quiet, "quiet", some 'q', none, "Output only modified file names"⟩,
    ⟨.printOptions, "print-options", none, none,
      "Print the resolved formatter options of each file as JSON"⟩,
    ⟨.listFiles, "list-files", none, none, "Print the resolved file list and exit"⟩,
    ⟨.baseDir, "base-dir", none, some "DIR",
      "Look up tslint.json and .editorconfig from this directory"⟩,
    ⟨.noLint, "no-tslint", none, none, "Ignore tslint.json"⟩,
    ⟨.noEditorConfig, "no-editorconfig", none, none, "Ignore .editorconfig"⟩,
    ⟨.indentSize, "indent-size", none, some "N", "Baseline indent size"⟩,
    ⟨.tabSize, "tab-size", none, some "N", "Baseline tab size"⟩,
    ⟨.newLine, "new-line", none, some "EOL", "Baseline line ending (lf, crlf, cr)"⟩,
    ⟨.init, "init", none, none, "Generate a template lintfmt.toml configuration file"⟩,
    ⟨.config, "config", none, some "PATH", "Specify config file path (overrides auto-discovery)"⟩,
    ⟨.verbose, "verbose", some 'v', none, "Log config file lookups"⟩,
    ⟨.help, "help", some 'h', none, "Print help"⟩,
    ⟨.version, "version", some 'V', none, "Print version"⟩ ]

/-- The program's name. -/
def programName : String := "lintfmt"

/-- The program's version. -/
def programVersion : String := "0.1.0"

/-- What the program is for. -/
def programAbout : String :=
  "Derive TypeScript formatter options from tslint.json and .editorconfig"

namespace FlagSpec

/-- The option as errors name it: `--long`, with `<VALUE>` when it takes one. -/
def display (s : FlagSpec) : String :=
  "--" ++ s.long ++ (match s.valueName with
    | some v => " <" ++ v ++ ">"
    | none => "")

/-- Whether the option takes a value. -/
def takesValue (s : FlagSpec) : Bool := s.valueName.isSome

end FlagSpec

/-- The description of an option. -/
def specOf (f : Flag) : FlagSpec :=
  (flagSpecs.find? (·.flag == f)).getD ⟨f, "", none, none, ""⟩

/-- The option with a long name. -/
def byLong? (name : String) : Option FlagSpec := flagSpecs.find? (·.long == name)

/-- The option with a short name. -/
def byShort? (c : Char) : Option FlagSpec := flagSpecs.find? (·.short == some c)

/-- The target paths as a usage line names them while none were given. -/
def pathsDisplay : String := "[PATHS]..."

/-- The target paths as a usage line names them once given, or when they are missing. -/
def pathsRequired : String := "<PATHS>..."

/-- Something stored from the command line, in the order first stored. -/
inductive Given where
  | flag (f : Flag)
  | paths
deriving DecidableEq, Repr

/-- The usage line that names no argument. -/
def genericUsage : String := "Usage: " ++ programName ++ " [OPTIONS] " ++ pathsDisplay

/-- The usage line naming what was given: the options in the order given, then the paths,
written as required when they were given and as optional when not. With nothing given it
is the generic line. -/
def usageLine (given : List Given) : String :=
  if given.isEmpty then genericUsage
  else
    let opts := (given.filterMap fun
      | .flag f => some (specOf f).display
      | .paths => none).eraseDups
    let paths := if given.contains .paths then pathsRequired else pathsDisplay
    "Usage: " ++ programName ++ String.join (opts.map (" " ++ ·)) ++ " " ++ paths

/-- The usage line naming every argument of the command as one group: the paths and
each option but help and version, in the order help lists them. -/
def groupUsage : String :=
  let options := flagSpecs.filter fun s => s.flag != .help && s.flag != .version
  "Usage: " ++ programName ++ " <" ++ "|".intercalate ("PATHS" :: options.map FlagSpec.display) ++
    ">"

/-- Why a command line is refused. -/
inductive ArgError where
  | unknown (arg : String) (similar : Option String) (usage : String)
  | missingValue (arg : String)
  | invalidValue (value arg reason : String)
  | repeated (arg : String)
  | unexpectedValue (value arg usage : String)
  | missingPaths (usage : String)
deriving DecidableEq, Repr

/-- The closing hint of every error. -/
def helpHint : String := "\n\nFor more information, try '--help'.\n"

/-- The text of an error. -/
def ArgError.render : ArgError → String
  | .unknown arg similar usage =>
    let tip := match similar with
      | some s => "\n\n  tip: a similar argument exists: '" ++ s ++ "'"
      | none => "\n\n  tip: to pass '" ++ arg ++ "' as a value, use '-- " ++ arg ++ "'"
    "error: unexpected argument '" ++ arg ++ "' found" ++ tip ++ "\n\n" ++ usage ++ helpHint
  | .missingValue arg =>
    "error: a value is required for '" ++ arg ++ "' but none was supplied" ++ helpHint
  | .invalidValue value arg reason =>
    "error: invalid value '" ++ value ++ "' for '" ++ arg ++ "': " ++ reason ++ helpHint
  | .repeated arg =>
    "error: the argument '" ++ arg ++ "' cannot be used multiple times\n\n" ++
      genericUsage ++ helpHint
  | .unexpectedValue value arg usage =>
    "error: unexpected value '" ++ value ++ "' for '" ++ arg ++
      "' found; no more were expected\n\n" ++ usage ++ helpHint
  | .missingPaths usage =>
    "error: the following required arguments were not provided:\n  <PATHS>...\n\n" ++ usage ++
      helpHint

/-- Reads an unsigned count the way the standard number parser does: digits with an
optional `+`. -/
def parseCount (s : String) : Except String Nat :=
  let digits := match s.toList with
    | '+' :: rest => rest
    | cs => cs
  if s.isEmpty then .error "cannot parse integer from empty string"
  else if digits.isEmpty then .error "invalid digit found in string"
  else go digits 0
where
  go : List Char → Nat → Except String Nat
    | [], n => .ok n
    | c :: rest, n =>
      if !c.isDigit then .error "invalid digit found in string"
      else
        let n := n * 10 + (c.toNat - '0'.toNat)
        if n ≥ Nat.pow 2 64 then .error "number too large to fit in target type" else go rest n

/-- How similar two names are, by the Jaro measure. -/
def jaro (a b : String) : Float :=
  let a := a.toList.toArray
  let b := b.toList.toArray
  if a.isEmpty && b.isEmpty then 1.0
  else if a.isEmpty || b.isEmpty then 0.0
  else
    let range := max a.size b.size / 2 - 1
    let (aFlags, bFlags, matched) := (List.range a.size).foldl
      (fun (acc : Array Bool × Array Bool × Nat) i =>
        let lo := i - range
        let hi := min b.size (i + range + 1)
        match (List.range hi).find? fun j =>
            lo ≤ j && a[i]? == b[j]? && !(acc.2.1.getD j false) with
        | some j => (acc.1.set! i true, acc.2.1.set! j true, acc.2.2 + 1)
        | none => acc)
      (Array.replicate a.size false, Array.replicate b.size false, 0)
    if matched = 0 then 0.0
    else
      let aMatched := ((List.range a.size).filter fun i => aFlags.getD i false).map fun i => a[i]?
      let bMatched := ((List.range b.size).filter fun j => bFlags.getD j false).map fun j => b[j]?
      let transpositions := ((aMatched.zip bMatched).filter fun (x, y) => x != y).length / 2
      let m := matched.toFloat
      ((m / a.size.toFloat) + (m / b.size.toFloat) +
        ((matched - transpositions).toFloat / m)) / 3.0

/-- The long option most similar to a mistyped name, if any is similar enough; among
equally similar ones the last listed. -/
def similarLong? (name : String) : Option String :=
  let scored := flagSpecs.map fun s => (jaro name s.long, s.long)
  let best := scored.foldl (fun (acc : Option (Float × String)) (score, long) =>
    if score > 0.7 then
      match acc with
      | some (bestScore, _) => if score ≥ bestScore then some (score, long) else acc
      | none => some (score, long)
    else acc) none
  best.map fun (_, long) => "--" ++ long

/-- A command line as read. -/
structure Invocation where
  paths : List String := []
  project : Option String := none
  check : Bool := false
  diff : Bool := false
  quiet : Bool := false
  printOptions : Bool := false
  listFiles : Bool := false
  baseDir : Option String := none
  noLint : Bool := false
  noEditorConfig : Bool := false
  indentSize : Option Nat := none
  tabSize : Option Nat := none
  newLine : Option NewLine := none
  init : Bool := false
  config : Option String := none
  verbose : Bool := false
deriving Repr, Inhabited

/-- What a command line asks for. -/
inductive Request where
  | run (inv : Invocation)
  | help
  | version
deriving Repr

/-- The value of an option stored into the invocation. -/
def Invocation.withValue (inv : Invocation) (s : FlagSpec) (value : String) :
    Except ArgError Invocation :=
  let path : Except ArgError String :=
    if value.isEmpty then .error (.missingValue s.display) else .ok value
  let count : Except ArgError Nat :=
    (parseCount value).mapError fun e => .invalidValue value s.display e
  match s.flag with
  | .project => path.map fun p => { inv with project := some p }
  | .baseDir => path.map fun p => { inv with baseDir := some p }
  | .config => path.map fun p => { inv with config := some p }
  | .indentSize => count.map fun n => { inv with indentSize := some n }
  | .tabSize => count.map fun n => { inv with tabSize := some n }
  | .newLine =>
    match NewLine.ofName? value with
    | some nl => .ok { inv with newLine := some nl }
    | none => .error (.invalidValue value s.display
        ("expected lf, crlf or cr, got '" ++ value ++ "'"))
  | _ => .ok inv

/-- A flag set in the invocation. -/
def Invocation.withFlag (inv : Invocation) : Flag → Invocation
  | .check => { inv with check := true }
  | .diff => { inv with diff := true }
  | .quiet => { inv with quiet := true }
  | .printOptions => { inv with printOptions := true }
  | .listFiles => { inv with listFiles := true }
  | .noLint => { inv with noLint := true }
  | .noEditorConfig => { inv with noEditorConfig := true }
  | .init => { inv with init := true }
  | .verbose => { inv with verbose := true }
  | _ => inv

/-- What waits to be stored: the paths read since the last option, or an option with its
value once the value is read. Nothing is checked until it is stored, which happens when
an option or the end of the command line comes, or, for an option, the next word. -/
inductive Pending where
  | paths (values : List String)
  | option (spec : FlagSpec) (value : Option String)

/-- The state of reading: what was stored so far, what was stored in order, and what
waits to be stored. -/
structure Reader where
  inv : Invocation := {}
  given : Array Given := #[]
  pending : Option Pending := none

namespace Reader

/-- Records that something was stored. -/
def note (r : Reader) (g : Given) : Reader :=
  if r.given.contains g then r else { r with given := r.given.push g }

/-- Whether an option was already stored. -/
def gave (r : Reader) (f : Flag) : Bool := r.given.contains (.flag f)

/-- Stores an option's value; an option may be given once. -/
def store (r : Reader) (s : FlagSpec) (value : String) : Except ArgError Reader := do
  if r.gave s.flag then .error (.repeated s.display)
  let inv ← r.inv.withValue s value
  return { r.note (.flag s.flag) with inv }

/-- Stores what waits: an empty path or an option without its value is refused. -/
def settle (r : Reader) : Except ArgError Reader :=
  let rest := { r with pending := none }
  match r.pending with
  | none => .ok r
  | some (.paths values) =>
    if values.contains "" then .error (.missingValue pathsDisplay)
    else .ok { rest.note .paths with inv := { r.inv with paths := r.inv.paths ++ values } }
  | some (.option s none) => .error (.missingValue s.display)
  | some (.option s (some value)) => rest.store s value

/-- What is stored once the waiting argument has been taken up, also when its check fails:
a path is stored before its value is checked, an option without a value is not stored,
and an option given a second time is dropped. -/
def givenAfterSettle (r : Reader) : Array Given :=
  match r.pending with
  | some (.paths _) => (r.note .paths).given
  | some (.option s (some _)) =>
    if r.gave s.flag then r.given.erase (.flag s.flag) else (r.note (.flag s.flag)).given
  | _ => r.given

/-- Acts on an option given with its value, or on a flag, first storing what waits: a flag
is set (or answers, for help and version), an option stores its value. -/
def act (r : Reader) (s : FlagSpec) (value : Option String) :
    Except ArgError (Reader ⊕ Request) := do
  let r ← r.settle
  if s.flag == .help then return .inr .help
  if s.flag == .version then return .inr .version
  match value with
  | none =>
    if s.takesValue then .error (.missingValue s.display)
    else if r.gave s.flag then .error (.repeated s.display)
    else return .inl { r.note (.flag s.flag) with inv := r.inv.withFlag s.flag }
  | some v => return .inl (← r.store s v)

/-- Waits for an option's value, first storing what waits. -/
def expect (r : Reader) (s : FlagSpec) : Except ArgError Reader := do
  let r ← r.settle
  return { r with pending := some (.option s none) }

/-- Takes a path, joining the paths that wait, or first storing the option that waits. -/
def addPath (r : Reader) (w : String) : Except ArgError Reader :=
  match r.pending with
  | some (.paths values) => .ok { r with pending := some (.paths (values ++ [w])) }
  | _ => do
    let r ← r.settle
    return { r with pending := some (.paths [w]) }

/-- Takes a word that is not an option: the value an option waits for, or else a path. -/
def word (r : Reader) (w : String) : Except ArgError Reader :=
  match r.pending with
  | some (.option s none) => .ok { r with pending := some (.option s (some w)) }
  | _ => r.addPath w

end Reader

/-- Reads a word of short options after its `-`. -/
def readShorts (r : Reader) : List Char → Except ArgError (Reader ⊕ Request)
  | [] => .ok (.inl r)
  | c :: rest =>
    match byShort? c with
    | none =>
      let arg := "-" ++ c.toString
      .error (.unknown arg none genericUsage)
    | some s =>
      if s.takesValue then
        match rest with
        | [] => (r.expect s).map .inl
        | '=' :: value => r.act s (some (String.ofList value))
        | value => r.act s (some (String.ofList value))
      else
        match r.act s none with
        | .ok (.inl r) => readShorts r rest
        | other => other

/-- Reads a long option (without its `--`), with the value written after `=`.

An unknown option's usage line names what is stored once the waiting argument is taken
up, and the similar option if there is one. A flag given a value names the flag after
what was stored before; once anything was stored, it names every argument as a group. -/
def readLong (r : Reader) (name : String) (value : Option String) :
    Except ArgError (Reader ⊕ Request) :=
  match byLong? name with
  | none =>
    let given := r.givenAfterSettle.toList
    let arg := "--" ++ name
    match similarLong? name with
    | some similar =>
      let extra := match byLong? (String.ofList (similar.toList.drop 2)) with
        | some s => [Given.flag s.flag]
        | none => []
      .error (.unknown arg (some similar) (usageLine (given ++ extra)))
    | none => .error (.unknown arg none (usageLine given))
  | some s =>
    match value with
    | some v =>
      if s.takesValue then r.act s (some v)
      else
        let usage := if r.given.isEmpty then usageLine [.flag s.flag] else groupUsage
        .error (.unexpectedValue v s.display usage)
    | none => if s.takesValue then (r.expect s).map .inl else r.act s none

/-- Splits `name=value` at the first `=`; a word without `=` is all name. -/
def splitLong (word : String) : String × Option String :=
  match word.toList.span (· != '=') with
  | (_, []) => (word, none)
  | (name, _ :: value) => (String.ofList name, some (String.ofList value))

/-- Reads the words; `rest` says whether `--` was seen. -/
def readWords (r : Reader) (rest : Bool) : List String → Except ArgError (Reader ⊕ Request)
  | [] => .ok (.inl r)
  | w :: ws =>
    if rest then
      match r.addPath w with
      | .ok r => readWords r true ws
      | .error e => .error e
    else if w == "--" then
      match r.settle with
      | .ok r => readWords r true ws
      | .error e => .error e
    else if w.startsWith "--" then
      let (name, value) := splitLong (String.ofList (w.toList.drop 2))
      match readLong r name value with
      | .ok (.inl r) => readWords r false ws
      | other => other
    else if w.startsWith "-" && w.length > 1 then
      match readShorts r (w.toList.drop 1) with
      | .ok (.inl r) => readWords r false ws
      | other => other
    else
      match r.word w with
      | .ok r => readWords r false ws
      | .error e => .error e

/-- Reads a command line. -/
def parseArguments (args : List String) : Except ArgError Request := do
  match ← readWords {} false args with
  | .inr request => return request
  | .inl r =>
    let r ← r.settle
    if r.inv.paths.isEmpty && !r.inv.init && r.inv.project.isNone then
      .error (.missingPaths (usageLine (r.given.toList ++ [.paths])))
    else return .run r.inv

/-- The help text. -/
def helpText : String :=
  let width := flagSpecs.foldl (fun w s => max w s.display.length) 2
  let optionLine (s : FlagSpec) : String :=
    let lead := match s.short with
      | some c => "-" ++ c.toString ++ ", "
      | none => "    "
    "  " ++ lead ++ s.display ++ String.ofList (List.replicate (width + 2 - s.display.length) ' ') ++
      s.about
  programAbout ++ "\n\n" ++ genericUsage ++ "\n\nArguments:\n  " ++ pathsDisplay ++
    "  Target files or directories\n\nOptions:\n" ++
    String.join (flagSpecs.map fun s => optionLine s ++ "\n")

/-- The version text. -/
def versionText : String := programName ++ " " ++ programVersion ++ "\n"

end Cli

end FormatConfig
