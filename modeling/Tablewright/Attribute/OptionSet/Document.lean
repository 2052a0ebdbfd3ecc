import Tablewright.Attribute.OptionSet
import Tablewright.Xml.Node

/-! Option sets in package documents.
-/

namespace Tablewright

/-- The text of a value of 32 bits.
-/
def valueText (value : Int32) : String :=
  toString value.toInt

namespace OptionSetKind

/-- The tag around the options of a kind.
-/
def listTag : OptionSetKind → String
  | bit => "options"
  | picklist => "options"
  | state => "states"
  | status => "statuses"

/-- The tag of an option of a kind.
-/
def entryTag : OptionSetKind → String
  | bit => "option"
  | picklist => "option"
  | state => "state"
  | status => "status"

/-- What the tag of an option says. An option that is linked to nothing counts as linked to zero.
-/
def entryAttributes (kind : OptionSetKind) (entry : OptionEntry) : Xml.Attributes :=
  let value := ("value", valueText entry.packageValue)
  let linked := valueText (entry.linked.getD 0)
  match kind with
  | bit => [value, ("ExternalValue", ""), ("IsHidden", "0")]
  | picklist => [value, ("ExternalValue", ""), ("IsHidden", "0")]
  | state => [value, ("defaultstatus", linked), ("invariantname", entry.label)]
  | status => [value, ("state", linked)]

end OptionSetKind

/-- The element of an option.
-/
def OptionEntry.node (kind : OptionSetKind) (language : String) (entry : OptionEntry)
    : Xml.Node :=
  .branch kind.entryTag (kind.entryAttributes entry)
    [.branch "labels" [] [.described language "label" entry.label]]

/-- The element of an option set.
-/
def OptionSet.node (language : String) (set : OptionSet) : Xml.Node :=
  .branch "optionset" [("Name", set.name)] [
    .text "OptionSetType" set.kind.name,
    .text "IntroducedVersion" "1.0.0.0",
    .text "IsCustomizable" "1",
    .branch "displaynames" [] [.described language "displayname" set.displayName],
    .branch set.kind.listTag [] (set.options.map (OptionEntry.node set.kind language))
  ]

end Tablewright
