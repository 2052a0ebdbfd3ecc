import Tablewright.Document.Decode
import Tablewright.Index
import Tablewright.Toml.Scalar

/-! The tables of a TOML document and how its lines add to them.
-/

namespace Tablewright.Toml

/-- What brought a table into being. Whether it may still grow, and by what, depends on that.
-/
inductive Origin
  /-- Its own header. -/
  | header
  /-- The header of a table inside it. -/
  | implied
  /-- A dotted key. -/
  | dotted
  /-- Braces; it is complete. -/
  | inline
  deriving DecidableEq, Repr

/-- A value: a scalar, an array written with brackets, the tables of one array header, or a table.
-/
inductive Node
  | scalar (value : Scalar)
  | array (items : List Node)
  | tables (items : List (List (String × Node)))
  | table (origin : Origin) (entries : List (String × Node))
  deriving Inhabited

/-- The entries of a table, in the order in which they were added.
-/
abbrev Entries := List (String × Node)

/-- Replaces the node of a key, or adds one at the end.
-/
def alter (key : String) (change : Option Node → Option Node) : Entries → Option Entries
  | [] => do return [(key, ← change none)]
  | (other, node) :: rest =>
    if other = key then do
      return (key, ← change (some node)) :: rest
    else do
      return (other, node) :: (← alter key change rest)

/-- Changes the table at the end of a path of a header. Missing tables on the way are implied, and
an array of tables stands for its last table.
-/
def atPath (change : Entries → Option Entries) : List String → Entries → Option Entries
  | [], entries => change entries
  | key :: path, entries =>
    alter key (fun
      | none => do return .table .implied (← atPath change path [])
      | some (.table origin inner) =>
        if origin = .inline then none else do return .table origin (← atPath change path inner)
      | some (.tables items) =>
        match items.reverse with
        | [] => none
        | last :: before => do
          return .tables (before.reverse ++ [← atPath change path last])
      | some _ => none) entries

/-- Changes the table at the end of a dotted key. Missing tables on the way are created; a table
with a header of its own, or one that another header implies, does not grow by a dotted key.
-/
def atDotted (change : Entries → Option Entries) : List String → Entries → Option Entries
  | [], entries => change entries
  | key :: path, entries =>
    alter key (fun
      | none => do return .table .dotted (← atDotted change path [])
      | some (.table origin inner) =>
        if origin = .dotted ∨ origin = .implied ∧ path ≠ [] then do
          return .table origin (← atDotted change path inner)
        else
          none
      | some (.tables items) =>
        match items.reverse, path with
        | last :: before, _ :: _ => do
          return .tables (before.reverse ++ [← atDotted change path last])
        | _, _ => none
      | some _ => none) entries

/-- Adds a value under a key that is still free.
-/
def addNew (key : String) (value : Node) (entries : Entries) : Option Entries :=
  alter key (fun
    | none => some value
    | some _ => none) entries

/-- Splits the last key off a path.
-/
def splitLast : List String → Option (List String × String)
  | [] => none
  | [key] => some ([], key)
  | key :: path => (splitLast path).map fun (before, last) => (key :: before, last)

/-- Adds a value under a dotted key.
-/
def assign (path : List String) (value : Node) (entries : Entries) : Option Entries := do
  let (before, key) ← splitLast path
  atDotted (addNew key value) before entries

/-- Opens the table of a header: a new one, or one that so far was only implied.
-/
def openTable (path : List String) (entries : Entries) : Option Entries := do
  let (before, key) ← splitLast path
  atPath (alter key fun
    | none => some (.table .header [])
    | some (.table .implied inner) => some (.table .header inner)
    | some _ => none) before entries

/-- Opens a new table at the end of an array of tables.
-/
def openItem (path : List String) (entries : Entries) : Option Entries := do
  let (before, key) ← splitLast path
  atPath (alter key fun
    | none => some (.tables [[]])
    | some (.tables items) => some (.tables (items ++ [[]]))
    | some _ => none) before entries

/-- A line of a document that says something.
-/
inductive Statement
  | assign (path : List String) (value : Node)
  | table (path : List String)
  | item (path : List String)

/-- A document as far as its lines have been applied, and the header they stand under.
-/
structure Building where
  root : Entries
  header : List String

/-- Applies one line; none when it contradicts the lines before it.
-/
def Building.apply (building : Building) : Statement → Option Building
  | .assign path value => do
    return { building with root := ← atPath (assign path value) building.header building.root }
  | .table path => do return ⟨← openTable path building.root, path⟩
  | .item path => do return ⟨← openItem path building.root, path⟩

/-- Applies every line.
-/
def build (statements : List Statement) : Option Entries := do
  let building ← statements.foldlM Building.apply ⟨[], []⟩
  return building.root

/-- The document of a scalar. A date or time is a mapping without members that a reader could
know, and a number that is too large stops every reader.
-/
def Scalar.document : Scalar → Document
  | .text value => .scalar (.ok (.text value))
  | .integer value => .scalar (.ok (.integer value))
  | .float spelling => .scalar (.ok (.float spelling))
  | .boolean value => .scalar (.ok (.boolean value))
  | .dateTime => .mapping .closed
  | .overflow => .broken (.of .numberOutOfRange)

mutual

/-- The document of a value.
-/
def Node.document : Node → Document
  | .scalar value => value.document
  | .array items => .sequence (itemsDocument items)
  | .tables items => .sequence (tablesDocument items)
  | .table _ entries => .mapping (Members.ofList (entriesDocument entries .empty).entries)

/-- The documents of the values of an array.
-/
def itemsDocument : List Node → Items
  | [] => .closed
  | node :: rest => .item node.document (itemsDocument rest)

/-- The documents of the tables of an array.
-/
def tablesDocument : List (List (String × Node)) → Items
  | [] => .closed
  | entries :: rest =>
    .item (.mapping (Members.ofList (entriesDocument entries .empty).entries))
      (tablesDocument rest)

/-- The documents of the entries of a table, sorted by key into those before them.
-/
def entriesDocument : List (String × Node) → Index Document → Index Document
  | [], done => done
  | (key, node) :: rest, done => entriesDocument rest (done.insert key node.document)

end

mutual

/-- All numbers of a value have 64 bits.
-/
def Node.isNarrow : Node → Bool
  | .scalar value => value.isNarrow
  | .array items => itemsAreNarrow items
  | .tables items => tablesAreNarrow items
  | .table _ entries => entriesAreNarrow entries

/-- All numbers of the values of an array have 64 bits.
-/
def itemsAreNarrow : List Node → Bool
  | [] => true
  | node :: rest => node.isNarrow && itemsAreNarrow rest

/-- All numbers of the tables of an array have 64 bits.
-/
def tablesAreNarrow : List (List (String × Node)) → Bool
  | [] => true
  | entries :: rest => entriesAreNarrow entries && tablesAreNarrow rest

/-- All numbers of the entries of a table have 64 bits.
-/
def entriesAreNarrow : List (String × Node) → Bool
  | [] => true
  | (_, node) :: rest => node.isNarrow && entriesAreNarrow rest

end

end Tablewright.Toml
