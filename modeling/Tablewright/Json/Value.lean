import Tablewright.Index
import Tablewright.Json.Document

/-! JSON values, their compact text, and the values of JSON texts.
-/

namespace Tablewright.Json

/-- A JSON value. A floating-point number is kept as its text.
-/
inductive Value
  | null
  | boolean (value : Bool)
  | integer (value : Int)
  | float (spelling : String)
  | text (value : String)
  | sequence (items : List Value)
  | mapping (members : List (String × Value))
  deriving Inhabited

mutual

/-- The text of a value, without blanks.
-/
def Value.compact : Value → List Char
  | .null => ['n', 'u', 'l', 'l']
  | .boolean true => ['t', 'r', 'u', 'e']
  | .boolean false => ['f', 'a', 'l', 's', 'e']
  | .integer value => (toString value).toList
  | .float spelling => spelling.toList
  | .text value => writeText value
  | .sequence items => '[' :: compactItems true items
  | .mapping members => '\x7b' :: compactMembers true members

/-- The text of the values of a sequence after its opening bracket, when `first`, or after a
value.
-/
def compactItems (first : Bool) : List Value → List Char
  | [] => [']']
  | value :: rest =>
    (if first then [] else [',']) ++ (value.compact ++ compactItems false rest)

/-- The text of the members of a mapping after its opening brace, when `first`, or after a member.
-/
def compactMembers (first : Bool) : List (String × Value) → List Char
  | [] => ['\x7d']
  | (key, value) :: rest =>
    (if first then [] else [','])
      ++ (writeText key ++ ':' :: (value.compact ++ compactMembers false rest))

end

/-- The compact text of a value.
-/
def Value.render (value : Value) : String :=
  String.ofList value.compact

mutual

/-- The value of a document whose text is sound; null where it is not.
-/
def ofDocument : Document → Value
  | .scalar (.ok .null) => .null
  | .scalar (.ok (.boolean value)) => .boolean value
  | .scalar (.ok (.integer value)) => .integer value
  | .scalar (.ok (.float spelling)) => .float spelling
  | .scalar (.ok (.text value)) => .text value
  | .scalar (.error _) => .null
  | .sequence items => .sequence (ofItems items)
  | .mapping members => .mapping (ofMembers members)
  | .broken _ => .null

/-- The values of a sequence.
-/
def ofItems : Items → List Value
  | .item value rest => ofDocument value :: ofItems rest
  | _ => []

/-- The members of a mapping.
-/
def ofMembers : Members → List (String × Value)
  | .member (.ok key) value rest => (key, ofDocument value) :: ofMembers rest
  | _ => []

end

/-- The value of a text.
-/
def parse (text : String) : Decoded Value :=
  decode (fun document => do
    match document.check conventions.depth with
    | .ok _ => return ofDocument document
    | .error fault => throw (.fault fault)) text

mutual

/-- The document of a value.
-/
def Value.document : Value → Document
  | .null => .scalar (.ok .null)
  | .boolean value => .scalar (.ok (.boolean value))
  | .integer value => .scalar (.ok (.integer value))
  | .float spelling => .scalar (.ok (.float spelling))
  | .text value => .scalar (.ok (.text value))
  | .sequence items => .sequence (itemsDocument items)
  | .mapping members => .mapping (membersDocument members)

/-- The document items of values.
-/
def itemsDocument : List Value → Items
  | [] => .closed
  | value :: rest => .item value.document (itemsDocument rest)

/-- The document members of keys and values.
-/
def membersDocument : List (String × Value) → Members
  | [] => .closed
  | (key, value) :: rest => .member (.ok key) value.document (membersDocument rest)

end

mutual

/-- The same value with the members of every mapping in the order of their keys. Of two members
with one key the later one counts.
-/
def Value.sorted : Value → Value
  | .sequence items => .sequence (sortedItems items)
  | .mapping members => .mapping (sortedMembers members .empty).entries
  | other => other

/-- Sorts every value of a sequence.
-/
def sortedItems : List Value → List Value
  | [] => []
  | value :: rest => value.sorted :: sortedItems rest

/-- Sorts every member of a mapping into the members before it.
-/
def sortedMembers : List (String × Value) → Index Value → Index Value
  | [], done => done
  | (key, value) :: rest, done => sortedMembers rest (done.insert key value.sorted)

end

/-- The member of a mapping under a key; the last one counts.
-/
def Value.get? (value : Value) (key : String) : Option Value :=
  match value with
  | .mapping members => members.reverse.lookup key
  | _ => none

/-- A text value.
-/
def Value.text? : Value → Option String
  | .text value => some value
  | _ => none

/-- The values of a sequence.
-/
def Value.items? : Value → Option (List Value)
  | .sequence items => some items
  | _ => none

end Tablewright.Json
