import FormatConfig.Toml.Syntax

/-!
# Assembling TOML tables

A document is read line by line, and each key-value pair or header changes the tables
built so far. The rules are those of TOML:

* a key may be defined once per table;
* a `[header]` may open a table once, unless the table so far only exists because
  something below it was defined (it is *implicit*);
* a dotted key may create and extend tables of its own, but not tables opened by a
  header, and it may not run through a value;
* `[[header]]` appends a table to an array of tables, and keys below it go to that
  last table.

The table being filled is kept apart from the document until the next header or the
end, when it is put in its place.
-/

namespace FormatConfig

namespace Toml

/-- The entries of a table, in the order they were defined. -/
abbrev Entries := List (Key × Node)

/-- The item stored under a key. -/
def lookup (es : Entries) (name : String) : Option Node :=
  (es.find? (·.1.name == name)).map (·.2)

/-- Replaces the item under a key where it stands, or appends the key. -/
def setEntry (es : Entries) (k : Key) (n : Node) : Entries :=
  if es.any (·.1.name == k.name) then
    es.map fun e => if e.1.name == k.name then (e.1, n) else e
  else es ++ [(k, n)]

/-- Removes a key, returning what it held. -/
def removeEntry (es : Entries) (name : String) : Entries × Option Node :=
  (es.filter (·.1.name != name), lookup es name)

namespace Node

/-- The entries of a table or inline table. -/
def entries : Node → Entries
  | .table es _ _ _ | .inlineTable es _ _ _ => es
  | _ => []

/-- The same table with other entries. -/
def withEntries (n : Node) (es : Entries) : Node :=
  match n with
  | .table _ i d s => .table es i d s
  | .inlineTable _ i d s => .inlineTable es i d s
  | other => other

/-- Whether a table exists only because of what was defined below it. -/
def isImplicit : Node → Bool
  | .table _ i _ _ | .inlineTable _ i _ _ => i
  | _ => false

/-- Whether a table was made by a dotted key. -/
def isDotted : Node → Bool
  | .table _ _ d _ | .inlineTable _ _ d _ => d
  | _ => false

/-- The span of a table. -/
def tableSpan : Node → Option Span
  | .table _ _ _ s | .inlineTable _ _ _ s => s
  | _ => none

/-- The same table with another span. -/
def withSpan (n : Node) (s : Option Span) : Node :=
  match n with
  | .table es i d _ => .table es i d s
  | .inlineTable es i d _ => .inlineTable es i d s
  | other => other

end Node

/-- A table with no entries. -/
def emptyTable : Node := .table [] false false none

/-- Applies `f` to the table reached along `keys`, creating implicit tables on the way;
through an array of tables the way goes into its last table. `path` is the full path,
of which `keys` starts at index `i`, for error messages. When `dotted`, the tables
created are dotted and a table opened by a header may not be entered. -/
def descend {α : Type} (dotted : Bool) (path : List Key)
    (f : Node → Except BuildError (Node × α)) : Nat → List Key → Node → Except BuildError (Node × α)
  | _, [], t => f t
  | i, k :: rest, t =>
    let es := t.entries
    let child := (lookup es k.name).getD (.table [] true dotted none)
    match child with
    | .arrayOfTables tables span =>
      match tables.getLast? with
      | some last => do
        let (last', a) ← descend dotted path f (i + 1) rest last
        pure (t.withEntries (setEntry es k (.arrayOfTables (tables.dropLast ++ [last']) span)), a)
      | none => .error (.duplicateAt path i)
    | .table _ implicit _ _ =>
      if dotted && !implicit then .error (.duplicateKey k.name none)
      else do
        let (c, a) ← descend dotted path f (i + 1) rest child
        pure (t.withEntries (setEntry es k c), a)
    | other => .error (.extendWrongType ((path.take (i + 1)).map (·.name)) other.typeName)

/-- Applies `f` to the inline table reached along `keys`, creating dotted inline tables
on the way; an inline table written out may not be entered. -/
def descendInline {α : Type} (path : List Key) (f : Node → Except BuildError (Node × α)) :
    Nat → List Key → Node → Except BuildError (Node × α)
  | _, [], t => f t
  | i, k :: rest, t =>
    let es := t.entries
    let child := (lookup es k.name).getD (.inlineTable [] true true none)
    match child with
    | .inlineTable _ implicit _ _ =>
      if !implicit then .error (.duplicateKey k.name none)
      else do
        let (c, a) ← descendInline path f (i + 1) rest child
        pure (t.withEntries (setEntry es k c), a)
    | other => .error (.extendWrongType ((path.take (i + 1)).map (·.name)) other.typeName)

/-- Puts one key-value pair of an inline table in place. -/
def addInlinePair (root : Node) (pair : List Key × Key × Node) : Except BuildError Node := do
  let (path, key, value) := pair
  let (root', _) ← descendInline path (fun t =>
      if t.isDotted == path.isEmpty then .error (.duplicateKey key.name none)
      else if (lookup t.entries key.name).isSome then .error (.duplicateKey key.name none)
      else .ok (t.withEntries (t.entries ++ [(key, value)]), ())) 0 path root
  return root'

/-- The inline table made of key-value pairs. -/
def tableFromPairs (pairs : List (List Key × Key × Node)) : Except BuildError Node :=
  pairs.foldlM addInlinePair (.inlineTable [] false false none)

/-- The tables of a document being read. -/
structure DocState where
  /-- The document, without the table being filled. -/
  root : Node := emptyTable
  /-- The table being filled. -/
  current : Node := emptyTable
  /-- The header path of the table being filled; empty before the first header. -/
  currentPath : List Key := []
  /-- Whether the table being filled goes into an array of tables. -/
  pendingArray : Bool := false
deriving Inhabited

namespace DocState

/-- Defines `path.key = value` in the table being filled. -/
def onKeyval (st : DocState) (path : List Key) (key : Key) (value : Node) :
    Except BuildError DocState := do
  let current := match st.current.tableSpan, value.span? with
    | some s, some v => st.current.withSpan (some ⟨s.start, v.stop⟩)
    | _, _ => st.current
  let tableNames := st.currentPath.map (·.name)
  let (current', _) ← descend true path (fun t =>
      if t.isDotted == path.isEmpty then .error (.duplicateKey key.name none)
      else if (lookup t.entries key.name).isSome then
        .error (.duplicateKey key.name (some tableNames))
      else .ok (t.withEntries (t.entries ++ [(key, value)]), ())) 0 path current
  return { st with current := current' }

/-- Puts the table being filled in its place in the document. -/
def finalize (st : DocState) : Except BuildError DocState := do
  let table := st.current
  let path := st.currentPath
  let st := { st with current := emptyTable, currentPath := [] }
  match path.getLast? with
  | none => return { st with root := table }
  | some last =>
    let parentPath := path.dropLast
    if st.pendingArray then
      let (root, _) ← descend false path (fun parent =>
          let es := parent.entries
          match (lookup es last.name).getD (.arrayOfTables [] none) with
          | .arrayOfTables tables _ =>
            let tables := tables ++ [table]
            let span := match tables.head?.bind Node.span?, tables.getLast?.bind Node.span? with
              | some a, some b => some ⟨a.start, b.stop⟩
              | _, _ => none
            .ok (parent.withEntries (setEntry es last (.arrayOfTables tables span)), ())
          | _ => .error (.duplicateAt path (path.length - 1))) 0 parentPath st.root
      return { st with root }
    else
      let (root, _) ← descend false path (fun parent =>
          let es := parent.entries
          match lookup es last.name with
          | some existing =>
            if existing.isImplicit && !existing.isValue then
              .ok (parent.withEntries (setEntry es last table), ())
            else .error (.duplicateAt path (path.length - 1))
          | none => .ok (parent.withEntries (es ++ [(last, table)]), ())) 0 parentPath st.root
      return { st with root }

/-- Opens the table of a `[header]`. -/
def onStdHeader (st : DocState) (path : List Key) (span : Span) : Except BuildError DocState := do
  let st ← st.finalize
  match path.getLast? with
  | none => return st
  | some last =>
    let (root, existing) ← descend false path (fun parent =>
        let (es, removed) := removeEntry parent.entries last.name
        .ok (parent.withEntries es, removed)) 0 path.dropLast st.root
    let current ← match existing with
      | none => pure emptyTable
      | some t@(.table _ true false _) => pure t
      | some _ => .error (.duplicateAt path (path.length - 1))
    let current := match current with
      | .table es _ _ _ => .table es false false (some span)
      | other => other
    return { st with root, current, pendingArray := false, currentPath := path }

/-- Opens a new table of an array of tables for a `[[header]]`. -/
def onArrayHeader (st : DocState) (path : List Key) (span : Span) :
    Except BuildError DocState := do
  let st ← st.finalize
  match path.getLast? with
  | none => return st
  | some last =>
    let (root, _) ← descend false path (fun parent =>
        let es := parent.entries
        match lookup es last.name with
        | none => .ok (parent.withEntries (es ++ [(last, .arrayOfTables [] none)]), ())
        | some (.arrayOfTables ..) => .ok (parent, ())
        | some _ => .error (.duplicateAt path (path.length - 1))) 0 path.dropLast st.root
    return { st with root, current := .table [] false false (some span), pendingArray := true,
                     currentPath := path }

end DocState

end Toml

end FormatConfig
