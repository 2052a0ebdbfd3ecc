import Tablewright.Entity.Document
import Tablewright.Relationship.Document
import Tablewright.Schema.Compile
import Tablewright.Solution.Manifest

/-! Packages: the documents of a compiled schema by the paths at which they are kept.
-/

namespace Tablewright

/-- Documents by path. The steps of a path are separated by slashes.
-/
structure Package where
  documents : Index String

namespace Package

/-- The document at a path.
-/
def get? (package : Package) (path : String) : Option String :=
  package.documents.get? path

/-- The paths, in ascending order.
-/
def paths (package : Package) : List String :=
  package.documents.names

/-- The number of documents.
-/
def size (package : Package) : Nat :=
  package.documents.entries.length

end Package

namespace CompiledSchema

/-- The document trees of an entity.
-/
def entityDocuments (settings : Settings) (entity : Entity) : List (String × Xml.Node) :=
  let language := toString settings.package.languageCode
  let directory := "Entities/" ++ entity.logicalName
  [
    (directory ++ "/Entity.xml", entity.node settings.publisher.namePrefix language),
    (directory ++ "/RibbonDiff.xml", Entity.ribbonNode)
  ]

/-- The document tree of the relationships that refer to one table.
-/
def groupDocument (group : String × List Relationship) : String × Xml.Node :=
  ("Other/Relationships/" ++ group.1 ++ ".xml", Relationship.groupNode group.2)

/-- The document trees that every package has.
-/
def fixedDocuments (compiled : CompiledSchema) (settings : Settings)
    : List (String × Xml.Node) :=
  let language := toString settings.package.languageCode
  [
    (
      "Other/Relationships.xml",
      Relationship.indexNode (Relationship.sortedNames compiled.relationships)
    ),
    ("Other/Customizations.xml", Solution.customizationsNode language),
    (
      "Other/Solution.xml",
      Solution.manifestNode settings.solution settings.publisher language
        (compiled.entities.map (·.logicalName))
    ),
    ("[Content_Types].xml", Solution.contentTypesNode)
  ]

/-- The document trees of a package, by their paths.
-/
def documents (compiled : CompiledSchema) (settings : Settings) : List (String × Xml.Node) :=
  compiled.entities.flatMap (entityDocuments settings)
    ++ (Relationship.groups compiled.relationships).map groupDocument
    ++ compiled.fixedDocuments settings

/-- The package of a compiled schema.
-/
def package (compiled : CompiledSchema) (settings : Settings) : Package :=
  ⟨Index.ofList <|
    (compiled.documents settings).map fun (path, node) => (path, node.document)⟩

end CompiledSchema

end Tablewright
