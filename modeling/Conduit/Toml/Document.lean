import Conduit.Toml.Number

/-!
# TOML documents

A document is a sequence of lines: headers, which open a table, and keys with values, which add to
the open table. No key may be given twice, and only a table that was named as a parent may be
opened later, once.
-/

namespace Conduit.Toml

/-! ### Adding to tables -/

/-- Changes the table at a path below a table, making the tables on the way that are missing. A
value that is not a table, a table in braces, and, for dotted keys, a table with a header of its own
stand in the way. The last table of an array stands for the array. -/
def descend {β : Type} (dotted : Bool) (change : TableKind → Entries → Option (Entries × β)) :
    List String → TableKind → Entries → Option (Entries × β)
  | [], kind, entries => change kind entries
  | key :: path, _, entries =>
    let kind := if dotted then TableKind.dotted else .implicit
    match entries.lookup key with
    | none => do
      let (child, b) ← descend dotted change path kind []
      return (entries ++ [(key, .table kind child)], b)
    | some (.table .inline _) => none
    | some (.table kind child) => do
      guard (!(dotted && kind == .header))
      let (child, b) ← descend dotted change path kind child
      return (entries.replace key (.table kind child), b)
    | some (.array true items) =>
      match items.getLast? with
      | some (.table kind child) => do
        let (child, b) ← descend dotted change path kind child
        return (entries.replace key (.array true (items.dropLast ++ [.table kind child])), b)
      | _ => none
    | some _ => none

/-- Adds a value under a key, which may be dotted. -/
def insert? (kind : TableKind) (entries : Entries) (key : List String) (value : Value) :
    Option Entries := do
  let last ← key.getLast?
  let path := key.dropLast
  let (entries, _) ← descend true (fun kind entries ↦ do
    guard ((kind == .dotted) != path.isEmpty)
    guard (entries.lookup last).isNone
    return (entries ++ [(last, value)], ())) path kind entries
  return entries

/-! ### Values -/

/-- The items of an array, after its opening bracket. -/
def items? (value? : Scanner Value) (input : List Char) : Option (List Value × List Char) :=
  iterate (fun items input ↦
    match skipLines input with
    | none => .fail
    | some (']' :: rest) => .done items.reverse rest
    | some rest =>
      match value? rest with
      | none => .fail
      | some (item, rest) =>
        match skipLines rest with
        | some (']' :: rest) => .done (item :: items).reverse rest
        | some (',' :: rest) => .next (item :: items) rest
        | _ => .fail) [] input

/-- The entries of a table in braces, after the opening brace. No line may end in it, and no comma
may stand after the last entry. -/
def inlineEntries? (value? : Scanner Value) (input : List Char) :
    Option (Entries × List Char) :=
  match skipBlanks input with
  | '}' :: rest => some ([], rest)
  | input =>
    iterate (fun entries input ↦
      let entry? : Option (Entries × List Char) := do
        let (key, rest) ← key? input
        let (value, rest) ← value? (skipBlanks (← expect? '=' rest))
        return (← insert? .inline entries key value, skipBlanks rest)
      match entry? with
      | some (entries, ',' :: rest) => .next entries rest
      | some (entries, '}' :: rest) => .done entries rest
      | _ => .fail) [] input

/-- A value with at most `depth` levels of brackets. -/
def value? (depth : Nat) : Scanner Value
  | '"' :: rest => (fun (text, rest) ↦ (.string text, rest)) <$> text? ('"' :: rest)
  | '\'' :: rest => (fun (text, rest) ↦ (.string text, rest)) <$> text? ('\'' :: rest)
  | '[' :: rest =>
    match depth with
    | 0 => none
    | depth + 1 => (fun (items, rest) ↦ (.array false items, rest)) <$> items? (value? depth) rest
  | '{' :: rest =>
    match depth with
    | 0 => none
    | depth + 1 =>
      (fun (entries, rest) ↦ (.table .inline entries, rest)) <$> inlineEntries? (value? depth) rest
  | input => word? input

/-! ### Lines -/

/-- The table that is being filled. It is kept apart from the document until the next header. -/
structure Open where
  /-- Where the table goes; the document itself has the empty path. -/
  path : List String
  /-- Whether it is one more table of an array. -/
  inArray : Bool
  /-- What it holds so far. -/
  entries : Entries

/-- A document that is being read: the tables already complete, and the open one. -/
structure Draft where
  /-- The complete tables. -/
  root : Entries
  /-- The open table. -/
  current : Open

namespace Draft

/-- The draft of an empty document. -/
def start : Draft :=
  ⟨[], ⟨[], false, []⟩⟩

/-- The document with the open table put in its place. -/
def finish? (draft : Draft) : Option Entries :=
  match draft.current.path.getLast? with
  | none => some draft.current.entries
  | some key => do
    let table := Value.table .header draft.current.entries
    let (root, _) ← descend false (fun _ entries ↦
      if draft.current.inArray then
        match entries.lookup key with
        | some (.array true items) => some (entries.replace key (.array true (items ++ [table])), ())
        | _ => none
      else some (entries ++ [(key, table)], ())) draft.current.path.dropLast .header draft.root
    return root

/-- Opens the table of a header. A table that was so far only named as a parent keeps its tables. -/
def openTable? (draft : Draft) (path : List String) : Option Draft := do
  let root ← draft.finish?
  let key ← path.getLast?
  let (root, entries) ← descend false (fun _ entries ↦
    match entries.lookup key with
    | none => some (entries, [])
    | some (.table .implicit child) => some (entries.without key, child)
    | some _ => none) path.dropLast .header root
  return ⟨root, ⟨path, false, entries⟩⟩

/-- Opens one more table of an array of tables. -/
def openItem? (draft : Draft) (path : List String) : Option Draft := do
  let root ← draft.finish?
  let key ← path.getLast?
  let (root, _) ← descend false (fun _ entries ↦
    match entries.lookup key with
    | none => some (entries ++ [(key, .array true [])], ())
    | some (.array true _) => some (entries, ())
    | some _ => none) path.dropLast .header root
  return ⟨root, ⟨path, true, []⟩⟩

/-- Adds a value to the open table. -/
def insert? (draft : Draft) (key : List String) (value : Value) : Option Draft := do
  let entries ← Toml.insert? .header draft.current.entries key value
  return { draft with current.entries := entries }

end Draft

/-- Takes one line that is neither blank nor a comment. -/
def line? (draft : Draft) (input : List Char) : Option (Draft × List Char) :=
  match input with
  | '[' :: '[' :: rest => do
    let (path, rest) ← key? rest
    let rest ← endLine? (← expect? ']' (← expect? ']' rest))
    return (← draft.openItem? path, rest)
  | '[' :: rest => do
    let (path, rest) ← key? rest
    let rest ← endLine? (← expect? ']' rest)
    return (← draft.openTable? path, rest)
  | input => do
    let (key, rest) ← key? input
    let (value, rest) ← value? (depthLimit - 1) (skipBlanks (← expect? '=' rest))
    let rest ← endLine? rest
    return (← draft.insert? key value, rest)

/-- The entries of a document. A byte order mark at its start is skipped. -/
def parse? (text : String) : Option Entries := do
  let input := match text.toList with
    | '\ufeff' :: rest => rest
    | input => input
  let (draft, _) ← iterate (fun draft input ↦
    match endLine? input with
    | some [] => .done draft []
    | some rest => .next draft rest
    | none =>
      match line? draft (skipBlanks input) with
      | some (draft, rest) => .next draft rest
      | none => .fail) Draft.start input
  draft.finish?

end Conduit.Toml
