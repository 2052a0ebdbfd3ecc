import Tablewright.Document.Fault

/-! A document as far as its text is well formed. A place where the text breaks off is part of
the document, so a reader that looks at the document in order meets faults of the text and
misfits of the shape in the order in which they stand there.
-/

namespace Tablewright

/-- A value without parts.
-/
inductive Scalar
  | null
  | boolean (value : Bool)
  | integer (value : Int)
  | float (spelling : String)
  | text (value : String)
  deriving DecidableEq, Repr

/-- The fault that ends a document, for a reader that needs the broken value and for one that only
passes over it.
-/
structure Break where
  reading : Fault
  passing : Fault
  deriving DecidableEq, Repr

/-- A break that every reader sees in the same way.
-/
def Break.of (fault : Fault) : Break :=
  ⟨fault, fault⟩

mutual

/-- A value of a document. A scalar that can be passed over may still be unreadable, and so may
the key of a member.
-/
inductive Document
  | scalar (value : Except Fault Scalar)
  | sequence (items : Items)
  | mapping (members : Members)
  | broken (cause : Break)

/-- The values of a sequence, up to its end or to the break of its text.
-/
inductive Items
  | closed
  | broken (cause : Break)
  | item (value : Document) (rest : Items)

/-- The keys and values of a mapping, up to its end or to the break of its text.
-/
inductive Members
  | closed
  | broken (cause : Break)
  | member (key : Except Fault String) (value : Document) (rest : Members)

end

mutual

/-- Passes over a value that nobody reads: only a break of the text stops it.
-/
def Document.pass : Document → Except Fault Unit
  | .scalar _ => .ok ()
  | .sequence items => items.pass
  | .mapping members => members.pass
  | .broken b => .error b.passing

/-- Passes over the values of a sequence.
-/
def Items.pass : Items → Except Fault Unit
  | .closed => .ok ()
  | .broken b => .error b.passing
  | .item value rest => do
    value.pass
    rest.pass

/-- Passes over the members of a mapping.
-/
def Members.pass : Members → Except Fault Unit
  | .closed => .ok ()
  | .broken b => .error b.passing
  | .member _ value rest => do
    value.pass
    rest.pass

end

/-- What a level of nesting leaves of a limit; none when the limit is used up.
-/
def descend : Option Nat → Except Fault (Option Nat)
  | none => .ok none
  | some 0 => .error .tooDeep
  | some (room + 1) => .ok (some room)

/-- Keeps a scalar for its own sake, which takes 64 bits for a whole number, with or without a sign.
-/
def Scalar.check : Scalar → Except Fault Unit
  | .integer value =>
    if Int64.minValue.toInt ≤ value ∧ value < UInt64.size then
      .ok ()
    else
      .error .numberOutOfRange
  | _ => .ok ()

mutual

/-- Reads a whole value for its own sake, with `room` levels of nesting left.
-/
def Document.check (room : Option Nat) : Document → Except Fault Unit
  | .scalar (.ok value) => value.check
  | .scalar (.error fault) => .error fault
  | .sequence items => do items.check (← descend room)
  | .mapping members => do members.check (← descend room)
  | .broken b => .error b.reading

/-- Reads the values of a sequence.
-/
def Items.check (room : Option Nat) : Items → Except Fault Unit
  | .closed => .ok ()
  | .broken b => .error b.reading
  | .item value rest => do
    value.check room
    rest.check room

/-- Reads the keys and values of a mapping.
-/
def Members.check (room : Option Nat) : Members → Except Fault Unit
  | .closed => .ok ()
  | .broken b => .error b.reading
  | .member (.error fault) _ _ => .error fault
  | .member (.ok _) value rest => do
    value.check room
    rest.check room

end

/-- The sequence of the given values.
-/
def Items.ofList : List Document → Items
  | [] => .closed
  | value :: rest => .item value (ofList rest)

/-- The mapping of the given keys and values.
-/
def Members.ofList : List (String × Document) → Members
  | [] => .closed
  | (key, value) :: rest => .member (.ok key) value (ofList rest)

end Tablewright
