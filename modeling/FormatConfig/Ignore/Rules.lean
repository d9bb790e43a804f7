import FormatConfig.Ignore.Glob
import FormatConfig.Text.Unicode

/-!
# Ignore files

An ignore file (`.gitignore`, `.ignore`, a repository's `info/exclude`) holds one glob
per line, for paths relative to the directory it governs, its *root*.

* Blank lines and lines starting with `#` say nothing; trailing whitespace is dropped
  unless escaped as `\ `; a byte order mark before the first line is dropped.
* `!` in front turns a rule into an exception, which re-includes what it matches;
  `\!` and `\#` stand for a literal first character.
* A leading `/` anchors the rule at the root; so does any other `/` in the rule,
  while a rule without one matches at any depth.
* A trailing `/` restricts the rule to directories.
* A rule ending in `/**` matches what is below a directory, not the directory itself.

The last rule that matches a path decides about it.
-/

namespace FormatConfig

namespace Ignore

/-- One line of an ignore file. -/
structure Rule where
  /-- The line as written, without trailing whitespace. -/
  written : String
  glob : Glob
  /-- An exception (`!`): what it matches is included again. -/
  whitelist : Bool
  /-- Only directories match. -/
  onlyDir : Bool
deriving Repr

/-- What the rules say about a path. -/
inductive Verdict where
  | none
  | ignore
  | whitelist
deriving DecidableEq, Repr, Inhabited

namespace Verdict

/-- The first verdict that says something. -/
def orElse : Verdict → Verdict → Verdict
  | .none, v => v
  | v, _ => v

end Verdict

/-- Drops trailing whitespace. -/
def trimEnd (s : String) : String :=
  String.ofList (s.toList.reverse.dropWhile Unicode.isWhiteSpace).reverse

/-- The glob text a rule body stands for. -/
def ruleGlobText (body : String) (anchored : Bool) : String :=
  let text := if !anchored && !body.contains '/' &&
      !(body.startsWith "**/" || body == "**") then "**/" ++ body else body
  if text.endsWith "/**" then text ++ "/*" else text

/-- Reads one line: nothing for a blank line or a comment, else the rule or the reason
its glob does not compile. -/
def parseRule (line : String) : Option (Except String Rule) :=
  if line.startsWith "#" then none
  else
    let line := if line.endsWith "\\ " then line else trimEnd line
    if line.isEmpty then none
    else
      let chars := line.toList
      let (whitelist, anchored, body) := match chars with
        | '\\' :: '!' :: rest => (false, false, '!' :: rest)
        | '\\' :: '#' :: rest => (false, false, '#' :: rest)
        | '!' :: '/' :: rest => (true, true, rest)
        | '!' :: rest => (true, false, rest)
        | '/' :: rest => (false, true, rest)
        | rest => (false, false, rest)
      let (onlyDir, body) := match body.reverse with
        | '/' :: '\\' :: rest => (true, rest.reverse)
        | '/' :: rest => (true, rest.reverse)
        | _ => (false, body)
      let text := ruleGlobText (String.ofList body) anchored
      some <| match Glob.compile text with
        | .ok glob => .ok { written := line, glob, whitelist, onlyDir }
        | .error e => .error ("error parsing glob '" ++ line ++ "': " ++ e.message)

/-- The rules of an ignore file, governing the directory `root`. -/
structure IgnoreFile where
  root : String
  rules : List Rule := []
deriving Repr

/-- An ignore file without rules; a root written with a leading `./` is kept without
it. -/
def IgnoreFile.empty (root : String) : IgnoreFile :=
  { root := if root.startsWith "./" then String.ofList (root.toList.drop 2) else root }

/-- Splits bytes into lines at `\n`, dropping a `\r` before it; a last line without
`\n` counts if it is not empty. -/
def byteLines (bytes : List UInt8) : List (List UInt8) :=
  let pieces := splitBytes bytes
  let pieces := if pieces.getLast? == some [] then pieces.dropLast else pieces
  pieces.map fun l => if l.getLast? == some 13 then l.dropLast else l
where
  splitBytes : List UInt8 → List (List UInt8)
    | [] => [[]]
    | b :: rest =>
      match splitBytes rest with
      | [] => [[b]]
      | first :: more => if b = 10 then [] :: first :: more else (b :: first) :: more

/-- Drops byte order marks from the front of a line. -/
def dropByteOrderMarks (line : String) : String :=
  String.ofList (line.toList.dropWhile (· = '\uFEFF'))

/-- Reads an ignore file's bytes, stored at `path`, for the directory `root`. Returns
the file and the errors worth reporting: a rule that does not compile is reported as
`path: line N: ...`. Reading stops at a line that is not UTF-8; that failure is
reported only along with others. -/
def IgnoreFile.read (root path : String) (bytes : ByteArray) : IgnoreFile × List String :=
  let rec go (n : Nat) (rules : Array Rule) (errors : Array String) :
      List (List UInt8) → Array Rule × Array String × Option String
    | [] => (rules, errors, none)
    | line :: rest =>
      match String.fromUTF8? ⟨line.toArray⟩ with
      | none => (rules, errors,
          some (path ++ ": line " ++ toString n ++ ": stream did not contain valid UTF-8"))
      | some text =>
        let text := if n = 1 then dropByteOrderMarks text else text
        match parseRule text with
        | none => go (n + 1) rules errors rest
        | some (.ok rule) => go (n + 1) (rules.push rule) errors rest
        | some (.error e) =>
          go (n + 1) rules (errors.push (path ++ ": line " ++ toString n ++ ": " ++ e)) rest
  let (rules, errors, broken) := go 1 #[] #[] (byteLines bytes.toList)
  let reported := if errors.isEmpty then [] else errors.toList ++ broken.toList
  ({ IgnoreFile.empty root with rules := rules.toList }, reported)

/-- The rest of the text after a prefix, compared byte for byte. -/
def dropTextPrefix? (pre s : String) : Option String :=
  if s.startsWith pre then some (String.ofList (s.toList.drop pre.length)) else none

/-- The path as the rules see it: without a leading `./`, and relative to the root
unless it is a bare name or the root is `.`. -/
def IgnoreFile.relative (f : IgnoreFile) (path : String) : String :=
  let path := (dropTextPrefix? "./" path).getD path
  if f.root != "." && path.contains '/' then
    match dropTextPrefix? f.root path with
    | some rest => (dropTextPrefix? "/" rest).getD rest
    | none => path
  else path

/-- What the file says about a path: the last matching rule that applies decides. -/
def IgnoreFile.verdict (f : IgnoreFile) (path : String) (isDir : Bool) : Verdict :=
  if f.rules.isEmpty then .none
  else
    let rel := f.relative path
    match (f.rules.reverse.find? fun r => (!r.onlyDir || isDir) && r.glob.matches rel) with
    | some r => if r.whitelist then .whitelist else .ignore
    | none => .none

end Ignore

end FormatConfig
