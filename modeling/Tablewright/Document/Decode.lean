import Tablewright.Document.Basic

/-! Reading typed values out of a document, in the order in which the document holds them. The
first fault or misfit in that order is the one reported.
-/

namespace Tablewright

/-- The result of reading a typed value.
-/
abbrev Decoded (α : Type) := Except DecodeError α

/-- What a document format leaves to its readers.
-/
structure Conventions where
  /-- How deeply sequences and mappings may nest in what is read; no limit when absent. -/
  depth : Option Nat
  /-- A record that is written as a sequence may have more values than the record has fields. -/
  surplus : Bool

/-- What a readable scalar is called in a misfit.
-/
def Scalar.found : Scalar → Found
  | .null => .null
  | .boolean value => .boolean value
  | .integer value => .integer value
  | .float spelling => .float spelling
  | .text value => .text value

/-- The error of a value that is not what was expected. A value whose own text is faulty reports
that fault instead.
-/
def Document.unexpected (expected : Expected) : Document → DecodeError
  | .scalar (.ok value) => .misfit (.wrongType value.found expected)
  | .scalar (.error fault) => .fault fault
  | .sequence _ => .misfit (.wrongType .sequence expected)
  | .mapping _ => .misfit (.wrongType .mapping expected)
  | .broken b => .fault b.reading

/-- A text.
-/
def Document.text : Document → Decoded String
  | .scalar (.ok (.text value)) => .ok value
  | other => .error (other.unexpected .text)

/-- A truth value.
-/
def Document.boolean : Document → Decoded Bool
  | .scalar (.ok (.boolean value)) => .ok value
  | other => .error (other.unexpected .boolean)

/-- A whole number that fits into so many bits.
-/
def Document.natural (bits : Nat) : Document → Decoded Nat
  | .scalar (.ok (.integer value)) =>
    if 0 ≤ value ∧ value.toNat < Nat.pow 2 bits then
      .ok value.toNat
    else
      .error (.misfit (.outOfRange value (.natural bits)))
  | other => .error (other.unexpected (.natural bits))

/-- A whole number below `2 ^ 32`.
-/
def Document.word (document : Document) : Decoded UInt32 :=
  UInt32.ofNat <$> document.natural 32

/-- A value that null stands in for.
-/
def Document.optional {α : Type} (read : Document → Decoded α) : Document → Decoded (Option α)
  | .scalar (.ok .null) => .ok none
  | other => some <$> read other

/-- All values of a sequence.
-/
def Items.all {α : Type} (read : Document → Decoded α) : Items → Decoded (List α)
  | .closed => .ok []
  | .broken b => .error (.fault b.reading)
  | .item value rest => do
    let head ← read value
    let tail ← rest.all read
    return head :: tail

/-- A sequence of values of one type.
-/
def Document.list {α : Type} (read : Document → Decoded α) : Document → Decoded (List α)
  | .sequence items => items.all read
  | other => .error (other.unexpected .sequence)

/-- The next value of a sequence, if there is one, and what follows it.
-/
def Items.next {α : Type} (read : Document → Decoded α) : Items → Decoded (Option α × Items)
  | .closed => .ok (none, .closed)
  | .broken b => .error (.fault b.reading)
  | .item value rest => do return (some (← read value), rest)

/-- The next value of a record that is written as a sequence, where it must not be missing;
`index` counts the values before it.
-/
def Items.demand {α : Type} (record : String) (fields : Nat) (index : Nat)
    (read : Document → Decoded α) (items : Items)
    : Decoded (α × Items) := do
  match ← items.next read with
  | (some value, rest) => return (value, rest)
  | (none, _) => throw (.misfit (.wrongLength index record fields))

/-- The end of a record that is written as a sequence.
-/
def Items.finish (conventions : Conventions) : Items → Decoded Unit
  | .closed => .ok ()
  | .broken b => .error (.fault (if b.reading.isTruncation then b.reading else .trailingText))
  | .item (.broken ⟨.trailingComma, _⟩) _ => .error (.fault .trailingComma)
  | .item _ _ => if conventions.surplus then .ok () else .error (.fault .trailingText)

/-- Hands every member in turn to `set`, which keeps what it needs.
-/
def Members.collect {σ : Type} (set : σ → String → Document → Decoded σ)
    : Members → σ → Decoded σ
  | .closed, state => .ok state
  | .broken b, _ => .error (.fault b.reading)
  | .member (.error fault) _ _, _ => .error (.fault fault)
  | .member (.ok key) value rest, state => do
    let state ← set state key value
    rest.collect set state

/-- A field's value, unless the field already has one.
-/
def Document.fill {α : Type} (name : String) (slot : Option α)
    (read : Document → Decoded α) (value : Document)
    : Decoded (Option α) :=
  match slot with
  | some _ => .error (.misfit (.duplicateField name))
  | none => some <$> read value

/-- The value of a field that must be present.
-/
def present {α : Type} (name : String) : Option α → Decoded α
  | some value => .ok value
  | none => .error (.misfit (.missingField name))

/-- Passes over the value of a field that the record does not know.
-/
def Document.ignore (value : Document) : Decoded Unit :=
  match value.pass with
  | .ok _ => .ok ()
  | .error fault => .error (.fault fault)

end Tablewright
