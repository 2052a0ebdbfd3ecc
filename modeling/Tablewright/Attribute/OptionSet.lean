/-! Option sets: named lists of labels, each with the value it has in a package and the value it
has in a live store.
-/

namespace Tablewright

/-- The two outputs of a compiled schema.
-/
inductive Target
  | package
  | provision
  deriving DecidableEq, Repr

/-- What an option set is for.
-/
inductive OptionSetKind
  | bit
  | picklist
  | state
  | status
  deriving DecidableEq, Repr

/-- The name of a kind in package documents.
-/
def OptionSetKind.name : OptionSetKind → String
  | bit => "bit"
  | picklist => "picklist"
  | state => "state"
  | status => "status"

/-- One option. A state is linked to its default status, a status to its state.
-/
structure OptionEntry where
  label : String
  packageValue : Int32
  provisionValue : Int32
  linked : Option Int32 := none
  deriving DecidableEq

/-- The value of an option in one of the outputs.
-/
def OptionEntry.value (entry : OptionEntry) : Target → Int32
  | .package => entry.packageValue
  | .provision => entry.provisionValue

/-- An option with one value for both outputs.
-/
def OptionEntry.same (value : Int32) (label : String) (linked : Option Int32 := none)
    : OptionEntry :=
  ⟨label, value, value, linked⟩

/-- A named list of options.
-/
structure OptionSet where
  name : String
  kind : OptionSetKind
  displayName : String
  options : List OptionEntry
  deriving DecidableEq

/-- The two options of a truth value.
-/
def OptionSet.yesNo (name displayName : String) : OptionSet :=
  ⟨name, .bit, displayName, [.same 1 "Yes", .same 0 "No"]⟩

end Tablewright
