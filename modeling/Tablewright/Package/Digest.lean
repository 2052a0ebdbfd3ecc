import Tablewright.Json.Value
import Tablewright.Package.Basic
import Tablewright.Package.Sha256

/-! Digests: the hash of the one JSON text that a value has.
-/

namespace Tablewright

/-- The hash of a text.
-/
def hashText (text : String) : String :=
  Sha256.hash text.toUTF8.data.toList

/-- The digest of a JSON value: the hash of its compact text, with the members of every mapping in
the order of their keys.
-/
def Json.Value.digest (value : Json.Value) : String :=
  hashText value.sorted.render

namespace Package

/-- The documents of a package as one JSON value.
-/
def toJson (package : Package) : Json.Value :=
  .mapping (package.documents.entries.map fun (path, text) => (path, .text text))

/-- The text that a package is known by.
-/
def canonicalText (package : Package) : String :=
  package.toJson.render

/-- The digest of a package.
-/
def digest (package : Package) : String :=
  hashText package.canonicalText

end Package

end Tablewright
