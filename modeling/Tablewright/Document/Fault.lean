import Tablewright.Text.Quoted

/-! Why a document could not be read: faults of its text and misfits of its shape.
-/

namespace Tablewright

/-- What breaks the text of a document.
-/
inductive Fault
  | endInSequence
  | endInMapping
  | endInText
  | endInValue
  | missingColon
  | unseparatedItems
  | unseparatedMembers
  | unknownWord
  | missingValue
  | badEscape
  | badNumber
  | numberOutOfRange
  | controlCharacter
  | keyNotText
  | loneSurrogate
  | brokenSurrogatePair
  | trailingComma
  | trailingText
  | tooDeep
  deriving DecidableEq, Repr

/-- The text stops before the document is complete.
-/
def Fault.isTruncation : Fault → Bool
  | endInSequence | endInMapping | endInText | endInValue => true
  | _ => false

/-- The wording of a fault.
-/
def Fault.message : Fault → String
  | endInSequence => "EOF while parsing a list"
  | endInMapping => "EOF while parsing an object"
  | endInText => "EOF while parsing a string"
  | endInValue => "EOF while parsing a value"
  | missingColon => "expected `:`"
  | unseparatedItems => "expected `,` or `]`"
  | unseparatedMembers => "expected `,` or `\x7d`"
  | unknownWord => "expected ident"
  | missingValue => "expected value"
  | badEscape => "invalid escape"
  | badNumber => "invalid number"
  | numberOutOfRange => "number out of range"
  | controlCharacter =>
    "control character (\\u0000-\\u001F) found while parsing a string"
  | keyNotText => "key must be a string"
  | loneSurrogate => "lone leading surrogate in hex escape"
  | brokenSurrogatePair => "unexpected end of hex escape"
  | trailingComma => "trailing comma"
  | trailingText => "trailing characters"
  | tooDeep => "recursion limit exceeded"

/-- What stands in a document where something else was expected.
-/
inductive Found
  | null
  | boolean (value : Bool)
  | integer (value : Int)
  | float (spelling : String)
  | text (value : String)
  | sequence
  | mapping
  deriving DecidableEq, Repr

/-- The wording of what was found.
-/
def Found.phrase : Found → String
  | null => "null"
  | boolean value => "boolean `" ++ (if value then "true" else "false") ++ "`"
  | integer value => "integer `" ++ toString value ++ "`"
  | float spelling => "floating point `" ++ spelling ++ "`"
  | text value => "string " ++ Text.quoted value
  | sequence => "sequence"
  | mapping => "map"

/-- What a place of a document has to hold.
-/
inductive Expected
  | text
  | boolean
  | natural (bits : Nat)
  | sequence
  | record (name : String)
  deriving DecidableEq, Repr

/-- The wording of an expectation.
-/
def Expected.phrase : Expected → String
  | text => "a string"
  | boolean => "a boolean"
  | natural bits => "u" ++ toString bits
  | sequence => "a sequence"
  | record name => "struct " ++ name

/-- How a readable document differs from the shape it should have.
-/
inductive Misfit
  | missingField (name : String)
  | duplicateField (name : String)
  | wrongType (found : Found) (expected : Expected)
  | outOfRange (value : Int) (expected : Expected)
  | wrongLength (length : Nat) (record : String) (fields : Nat)
  | noVariant (name : String)
  deriving DecidableEq, Repr

/-- The wording of a misfit.
-/
def Misfit.message : Misfit → String
  | missingField name => "missing field `" ++ name ++ "`"
  | duplicateField name => "duplicate field `" ++ name ++ "`"
  | wrongType found expected =>
    "invalid type: " ++ found.phrase ++ ", expected " ++ expected.phrase
  | outOfRange value expected =>
    "invalid value: " ++ (Found.integer value).phrase ++ ", expected " ++ expected.phrase
  | wrongLength length record fields =>
    "invalid length " ++ toString length ++ ", expected struct " ++ record ++ " with "
      ++ toString fields ++ (if fields = 1 then " element" else " elements")
  | noVariant name => "data did not match any variant of untagged enum " ++ name

/-- Why a document yields no value: its text breaks, or its shape does not fit.
-/
inductive DecodeError
  | fault (cause : Fault)
  | misfit (cause : Misfit)
  deriving DecidableEq, Repr

/-- The wording of a decoding error.
-/
def DecodeError.message : DecodeError → String
  | fault cause => cause.message
  | misfit cause => cause.message

end Tablewright
