import Tablewright.Proofs.Package.Documents
import Tablewright.Proofs.Package.Writing

/-! Where the documents of a package are kept: each at names of its own, all of them below the
directory that the package is written into.
-/

namespace Tablewright

-----------------------------------------------------------------------------------------
-- Names
-----------------------------------------------------------------------------------------

/-- A well-formed name has no slash.
-/
theorem IsLogicalName.no_slash {name : String} (named : IsLogicalName name)
    : '/' ∉ name.toList := by
  obtain ⟨first, rest, spelled, letter, others⟩ := named
  rw [spelled]
  intro member
  rcases List.mem_cons.mp member with rfl | later
  · exact absurd letter (by decide)
  · rcases others _ later with letter | score
    · exact absurd letter (by decide)
    · exact absurd score (by decide)

/-- A well-formed name can be that of a file or a directory, also with an ending.
-/
theorem IsLogicalName.isName_append {name ending : String} (named : IsLogicalName name)
    (unbroken : '/' ∉ ending.toList)
    : Path.IsName (name ++ ending) := by
  have whole : '/' ∉ (name ++ ending).toList := by
    rw [String.toList_append, List.mem_append]
    exact not_or.mpr ⟨named.no_slash, unbroken⟩
  -- It starts with a letter, and neither nothing nor dots do.
  obtain ⟨first, rest, spelled, letter, _⟩ := named
  have starts : (name ++ ending).toList.head? = some first := by
    rw [String.toList_append, spelled]
    rfl
  refine ⟨?_, ?_, ?_, whole⟩
  · intro same
    rw [same] at starts
    cases starts
  · intro same
    rw [same] at starts
    cases starts
    exact absurd letter (by decide)
  · intro same
    rw [same] at starts
    cases starts
    exact absurd letter (by decide)

/-- A well-formed name can be that of a file or a directory.
-/
theorem IsLogicalName.isName {name : String} (named : IsLogicalName name) : Path.IsName name := by
  have bare : Path.IsName (name ++ "") := named.isName_append (by decide)
  rwa [String.append_empty] at bare

namespace Package

/-- The names that lead to a document of a table.
-/
theorem pieces_tablePath {table file : String} (named : IsLogicalName table)
    (too : Path.IsName file)
    : Path.pieces ("Entities/" ++ table ++ ("/" ++ file)) = ["Entities", table, file] := by
  have spelled : "Entities/" ++ table ++ ("/" ++ file)
      = "Entities" ++ "/" ++ (table ++ "/" ++ file) := by
    have start : "Entities/" = "Entities" ++ "/" := by decide
    simp only [start, String.append_assoc]
  have entities : Path.IsName "Entities" := by decide
  rw [spelled, Path.pieces_append_slash, Path.pieces_append_slash, entities.pieces,
    named.isName.pieces, too.pieces]
  rfl

/-- The names that lead to a table's main document.
-/
theorem pieces_entityPath {table : String} (named : IsLogicalName table)
    : Path.pieces (entityPath table) = ["Entities", table, "Entity.xml"] := by
  have file : "/Entity.xml" = "/" ++ "Entity.xml" := by decide
  rw [entityPath, file, pieces_tablePath named (by decide)]

/-- The names that lead to a table's command bar.
-/
theorem pieces_ribbonPath {table : String} (named : IsLogicalName table)
    : Path.pieces (ribbonPath table) = ["Entities", table, "RibbonDiff.xml"] := by
  have file : "/RibbonDiff.xml" = "/" ++ "RibbonDiff.xml" := by decide
  rw [ribbonPath, file, pieces_tablePath named (by decide)]

/-- The names that lead to the relationships that refer to a table.
-/
theorem pieces_groupPath {table : String} (named : IsLogicalName table)
    : Path.pieces (groupPath table) = ["Other", "Relationships", table ++ ".xml"] := by
  have spelled : groupPath table
      = "Other" ++ "/" ++ ("Relationships" ++ "/" ++ (table ++ ".xml")) := by
    have start : "Other/Relationships/" = "Other" ++ "/" ++ ("Relationships" ++ "/") := by decide
    have whole : groupPath table = "Other" ++ "/" ++ ("Relationships" ++ "/") ++ table ++ ".xml" :=
      congrArg (· ++ table ++ ".xml") start
    simp only [whole, String.append_assoc]
  have other : Path.IsName "Other" := by decide
  have relationships : Path.IsName "Relationships" := by decide
  rw [spelled, Path.pieces_append_slash, Path.pieces_append_slash, other.pieces,
    relationships.pieces, (named.isName_append (by decide)).pieces, List.singleton_append,
    List.singleton_append]

/-- The fixed paths are paths of names.
-/
theorem plain_of_mem_fixedPaths {path : String} (member : path ∈ fixedPaths)
    : Path.Plain path := by
  have all : ∀ path ∈ fixedPaths, ∀ piece ∈ Path.pieces path, Path.IsName piece := by decide
  exact all path member

/-- What a package does to the files of a machine when it is written into a directory: at its place
there are exactly the documents of the package, and all other files are as before.
-/
structure Replaces (package : Package) (place : List String) (before after : FileTree) : Prop where
  beneath
    : ∀ steps content,
        after.contentAt? (place ++ steps) = some content
        ↔ ∃ path text,
            package.get? path = some text ∧ steps = Path.steps path ∧ content = text.toUTF8
  outside
    : ∀ steps,
        ¬ place <+: steps → after.contentAt? steps = before.contentAt? steps

/-- What is asked of a machine changes nothing outside a directory: nothing else is cleared, and
what is made or written is in it.
-/
def Confined (directory : String) : Host.Question → Prop
  | .clear path => path = directory
  | .createDirectories path => Path.Within directory path
  | .writeText path _ => Path.Within directory path ∧ Path.steps path ≠ Path.steps directory
  | _ => True

section Confined

variable {directory path : String} (ordinary : Path.Ordinary directory)
include ordinary

/-- What is asked of a machine to write a document below a directory changes nothing outside it.
-/
theorem confined_pathBelow (plain : Path.Plain path) (text : String)
    : Confined directory (.writeText (pathBelow directory path) text)
      ∧ ∃ parent,
          Path.parent? (pathBelow directory path) = some parent
          ∧ Confined directory (.createDirectories parent) := by
  obtain ⟨above, last, split, names, named, further, begins, leads, below⟩ :=
    exists_pathBelow_eq_join ordinary plain
  obtain ⟨parent, found, _, starts, same⟩ := Path.exists_parent?_join further named
  have start : Path.isAbsolute (pathBelow directory path) = Path.isAbsolute directory := by
    rw [below, Path.isAbsolute_eq_of_isPrefix further.ne_empty
      (Path.isPrefix_join further.ne_empty named), begins]
  have steps : Path.steps (pathBelow directory path)
      = Path.steps directory ++ Path.pieces path := by
    rw [below, Path.steps_join further.ne_empty named, leads, split, List.append_assoc]
  have deeper : Path.steps (pathBelow directory path) ≠ Path.steps directory := by
    rw [steps]
    simp [Path.pieces_ne_nil]
  rw [below] at start steps deeper ⊢
  exact ⟨⟨⟨start, _, plain, steps⟩, deeper⟩, parent, found, starts.trans begins, above, names,
    same.trans leads⟩

/-- Writing a document below a directory changes nothing outside it.
-/
theorem asks_writeDocument (plain : Path.Plain path) (text : String)
    : (writeDocument (pathBelow directory path) text).Asks (Confined directory) := by
  obtain ⟨written, parent, found, made⟩ := confined_pathBelow ordinary plain text
  generalize pathBelow directory path = below at written found ⊢
  rw [writeDocument, writeDocument.makeParent, found]
  refine Dialogue.Asks.bind ?_ fun result => ?_
  · refine Dialogue.Asks.bind ⟨made, fun _ => trivial⟩ fun answer => ?_
    cases answer <;> exact Dialogue.asks_pure _
  · cases result with
    | error error => exact Dialogue.asks_pure _
    | ok done =>
        refine Dialogue.Asks.bind ⟨written, fun _ => trivial⟩ fun answer => ?_
        cases answer <;> exact Dialogue.asks_pure _

/-- Writing documents below a directory changes nothing outside it.
-/
theorem asks_writeDocuments {documents : List (String × String)}
    (plain : ∀ document ∈ documents, Path.Plain document.1)
    : (writeDocuments directory documents).Asks (Confined directory) := by
  induction documents with
  | nil => exact Dialogue.asks_pure _
  | cons document rest ih =>
      obtain ⟨path, text⟩ := document
      obtain ⟨first, others⟩ := List.forall_mem_cons.mp plain
      refine Dialogue.Asks.bind ?_ fun result => ?_
      · apply asks_writeDocument ordinary first
      · cases result with
        | error error => exact Dialogue.asks_pure _
        | ok done => exact ih others

/-- Writing a package into a directory changes nothing outside it.
-/
theorem asks_write {package : Package}
    (plain : ∀ document ∈ package.documents.entries, Path.Plain document.1)
    : (package.write directory).Asks (Confined directory) := by
  have documents := asks_writeDocuments ordinary plain
  rw [write]
  refine Dialogue.Asks.bind ⟨trivial, fun _ => trivial⟩ fun there => ?_
  cases there with
  | false => exact documents
  | true =>
      refine Dialogue.Asks.bind ⟨rfl, fun _ => trivial⟩ fun cleared => ?_
      cases cleared with
      | error cause => exact Dialogue.asks_pure _
      | ok done => exact documents

end Confined

section Replaces

variable {network : (question : Http.Question) → Http.Answer question}
variable {machine after : Host.Machine} {directory : String} {package : Package}

/-- Documents at paths of names have files of different names.
-/
theorem filesOf_nodup (package : Package)
    : ((filesOf package.documents.entries).map (·.1)).Nodup := by
  have names : package.paths.Nodup :=
    package.documents.names_ascending.imp fun before => String.ne_of_lt before
  have named := names.map Path.pieces_injective
  rw [paths, Index.names, List.map_map] at named
  rwa [filesOf, List.map_map]

/-- Writing a package replaces what was there by its documents.
-/
theorem replaces_of_run_write (ordinary : Path.Ordinary directory)
    (plain : ∀ document ∈ package.documents.entries, Path.Plain document.1)
    (some : package.documents.entries ≠ [])
    (written
      : (package.write directory).run (Host.Machine.respond network) machine = (.ok (), after))
    : package.Replaces (Path.place machine.directory directory) machine.files after.files := by
  obtain ⟨_, _, base, part, files, planted, rfl⟩ :=
    exists_planted_of_run_write ordinary plain some written
  refine ⟨fun steps content => ?_, fun steps apart => planted.contentAt?_of_not_isPrefix apart⟩
  rw [planted.contentAt?_append_eq_some_iff (filesOf_nodup package), filesOf, List.mem_map]
  constructor
  · rintro ⟨⟨path, text⟩, member, same⟩
    cases same
    exact ⟨path, text, Index.mem_entries_iff.mp member, (plain _ member).steps_eq.symm, rfl⟩
  · rintro ⟨path, text, found, rfl, rfl⟩
    have member := Index.mem_entries_iff.mpr found
    exact ⟨(path, text), member, by rw [(plain _ member).steps_eq]⟩

end Replaces

end Package

-----------------------------------------------------------------------------------------
-- Packages of compiled schemas
-----------------------------------------------------------------------------------------

namespace CompiledSchema.Coherent

variable {compiled : CompiledSchema} (coherent : compiled.Coherent) (settings : Settings)
include coherent

/-- The documents of a package have paths of names.
-/
theorem plain_of_mem_entries {document : String × String}
    (member : document ∈ (compiled.package settings).documents.entries)
    : Path.Plain document.1 := by
  have found := (coherent.exists_get?_iff settings).mp ⟨_, Index.mem_entries_iff.mp member⟩
  rcases found with ⟨table, listed, either⟩ | ⟨relationship, listed, same⟩ | fixed
  · obtain ⟨entity, there, rfl⟩ := List.mem_map.mp listed
    have named := (coherent.tableNames entity there).isName
    have inside {file : String} (too : Path.IsName file)
        : ∀ piece ∈ ["Entities", entity.logicalName, file], Path.IsName piece :=
      List.forall_mem_cons.mpr
        ⟨by decide, List.forall_mem_cons.mpr ⟨named, List.forall_mem_singleton.mpr too⟩⟩
    rcases either with same | same
    · rw [same, Path.Plain, Package.pieces_entityPath (coherent.tableNames entity there)]
      exact inside (by decide)
    · rw [same, Path.Plain, Package.pieces_ribbonPath (coherent.tableNames entity there)]
      exact inside (by decide)
  · obtain ⟨entity, there, target⟩ := coherent.targets relationship listed
    have named := coherent.tableNames entity there
    rw [target] at named
    rw [same, Path.Plain, Package.pieces_groupPath named]
    exact List.forall_mem_cons.mpr ⟨by decide, List.forall_mem_cons.mpr
      ⟨by decide, List.forall_mem_singleton.mpr (named.isName_append (by decide))⟩⟩
  · exact Package.plain_of_mem_fixedPaths fixed

/-- A package has documents.
-/
theorem entries_ne_nil : (compiled.package settings).documents.entries ≠ [] := by
  have size := coherent.size_eq settings
  intro none
  rw [Package.size, none, List.length_nil] at size
  omega

end CompiledSchema.Coherent

end Tablewright
