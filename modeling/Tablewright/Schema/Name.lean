/-! Names of tables and columns.
-/

namespace Tablewright

/-- A letter followed by letters, digits and underscores, all of them ASCII.
-/
def isLogicalName (name : String) : Bool :=
  match name.toList with
  | [] => false
  | c :: rest => c.isAlpha && rest.all fun c => c.isAlphanum || c == '_'

/-- A name without the publisher's prefix and the underscore behind it.
-/
def shortName (publisherPrefix name : String) : String :=
  let start := publisherPrefix.toList ++ ['_']
  if start.isPrefixOf name.toList then
    String.ofList (name.toList.drop start.length)
  else
    name

end Tablewright
