import Tablewright.Proofs.Package.Documents
import Tablewright.Proofs.Package.Legality
import Tablewright.Proofs.Xml.Selection

/-! What a reader of XML recovers of an entity's labels. The document of an entity is read when all
its labels can stand in a document; then every label is found flattened where it was written, and so
unchanged exactly when it has no blanks but spaces.
-/

namespace Tablewright

open Xml

-----------------------------------------------------------------------------------------
-- Where labels are written
-----------------------------------------------------------------------------------------

/-- Where the labels of an option set are written in the element of its attribute.
-/
def OptionSet.inscriptions (set : OptionSet) : List Inscription :=
  [
    ⟨["optionset", "displaynames", "displayname"], "description", [set.displayName]⟩,
    ⟨["optionset", set.kind.listTag, set.kind.entryTag, "labels", "label"], "description",
      set.options.map (·.label)⟩
  ]

/-- Where the labels of an attribute are written in its element.
-/
def Attribute.inscriptions (attr : Attribute) : List Inscription :=
  ⟨["displaynames", "displayname"], "description", [attr.displayName]⟩
    :: attr.optionSet?.toList.flatMap OptionSet.inscriptions

/-- Where the names and the description of an entity are written in its document.
-/
def Entity.inscriptions (entity : Entity) : List Inscription :=
  [
    ⟨["Name"], "LocalizedName", [entity.displayName]⟩,
    ⟨["Name"], "OriginalName", [entity.displayName]⟩,
    ⟨["EntityInfo", "entity", "LocalizedNames", "LocalizedName"], "description",
      [entity.displayName]⟩,
    ⟨["EntityInfo", "entity", "LocalizedCollectionNames", "LocalizedCollectionName"],
      "description", [entity.pluralName]⟩,
    ⟨["EntityInfo", "entity", "Descriptions", "Description"], "description",
      [entity.description]⟩
  ]

/-- The tags that lead to the elements of an entity's attributes.
-/
def Entity.attributePath : List String := ["EntityInfo", "entity", "attributes", "attribute"]

/-- An element says the name of an attribute, and its labels as they are read.
-/
structure Attribute.ShownIn (attr : Attribute) (read : String → String) (element : Markup)
    : Prop where
  name : element.value? "PhysicalName" = some attr.logicalName
  labels : ∀ inscription ∈ attr.inscriptions, inscription.Shows read element

/-- A document says the names and the description of an entity as they are read, and has an element
for each of its attributes, in their order.
-/
structure Entity.ShownIn (entity : Entity) (read : String → String) (root : Markup) : Prop where
  labels : ∀ inscription ∈ entity.inscriptions, inscription.Shows read root
  attributes
    : ∀ (position : Nat) (attr : Attribute),
        entity.attributes[position]? = some attr
        → ∃ element,
            (root.reach attributePath)[position]? = some element ∧ attr.ShownIn read element

-----------------------------------------------------------------------------------------
-- All labels are written
-----------------------------------------------------------------------------------------

/-- The labels of an attribute are those that are written somewhere.
-/
theorem Attribute.mem_labels_iff {attr : Attribute} {label : String}
    : label ∈ attr.labels ↔ ∃ inscription ∈ attr.inscriptions, label ∈ inscription.texts := by
  have texts : attr.inscriptions.flatMap (·.texts) = attr.labels := by
    rw [inscriptions, labels]
    cases attr.optionSet? with
    | none => rfl
    | some set => simp [OptionSet.inscriptions, OptionSet.labels]
  rw [← texts, List.mem_flatMap]

/-- The labels of an entity are those that are written somewhere, and those of its attributes.
-/
theorem Entity.mem_labels_iff {entity : Entity} {label : String}
    : label ∈ entity.labels
      ↔ (∃ inscription ∈ entity.inscriptions, label ∈ inscription.texts)
        ∨ ∃ attr ∈ entity.attributes, label ∈ attr.labels := by
  simp [labels, inscriptions, or_assoc]

namespace Attribute.ShownIn

variable {attr : Attribute} {read other : String → String} {element : Markup}

/-- Labels that are read alike are shown alike.
-/
theorem congr (shown : attr.ShownIn read element)
    (same : ∀ label ∈ attr.labels, read label = other label)
    : attr.ShownIn other element :=
  ⟨shown.name, fun inscription member => (shown.labels inscription member).congr fun label listed =>
    same label (mem_labels_iff.mpr ⟨inscription, member, listed⟩)⟩

/-- Labels are shown in one way.
-/
theorem unique (shown : attr.ShownIn read element) (too : attr.ShownIn other element)
    : ∀ label ∈ attr.labels, read label = other label := by
  intro label member
  obtain ⟨inscription, listed, written⟩ := mem_labels_iff.mp member
  exact (shown.labels inscription listed).unique (too.labels inscription listed) label written

end Attribute.ShownIn

namespace Entity.ShownIn

variable {entity : Entity} {read other : String → String} {root : Markup}

/-- Labels that are read alike are shown alike.
-/
theorem congr (shown : entity.ShownIn read root)
    (same : ∀ label ∈ entity.labels, read label = other label)
    : entity.ShownIn other root := by
  refine ⟨fun inscription member => ?_, fun position attr found => ?_⟩
  · exact (shown.labels inscription member).congr fun label listed =>
      same label (mem_labels_iff.mpr (.inl ⟨inscription, member, listed⟩))
  · obtain ⟨element, there, own⟩ := shown.attributes position attr found
    refine ⟨element, there, own.congr fun label listed => ?_⟩
    exact same label
      (mem_labels_iff.mpr (.inr ⟨attr, List.mem_of_getElem? found, listed⟩))

/-- Labels are shown in one way.
-/
theorem unique (shown : entity.ShownIn read root) (too : entity.ShownIn other root)
    : ∀ label ∈ entity.labels, read label = other label := by
  intro label member
  rcases mem_labels_iff.mp member with ⟨inscription, listed, written⟩ | ⟨attr, listed, own⟩
  · exact (shown.labels inscription listed).unique (too.labels inscription listed) label written
  · obtain ⟨position, found⟩ := List.getElem?_of_mem listed
    obtain ⟨element, here, first⟩ := shown.attributes position attr found
    obtain ⟨_, there, second⟩ := too.attributes position attr found
    obtain rfl := Option.some.inj (here.symm.trans there)
    exact first.unique second label own

end Entity.ShownIn

-----------------------------------------------------------------------------------------
-- Labels in documents
-----------------------------------------------------------------------------------------

/-- The labels of an option set are written in its element.
-/
theorem OptionSet.valuesAt_node (language : String) (set : OptionSet)
    : (set.node language).valuesAt ["displaynames", "displayname"] "description"
        = [set.displayName]
      ∧ (set.node language).valuesAt [set.kind.listTag, set.kind.entryTag, "labels", "label"]
          "description"
        = set.options.map (·.label) := by
  obtain ⟨name, kind, displayName, options⟩ := set
  constructor
  · cases kind with
    | _ => rfl
  · have list : ((OptionSet.mk name kind displayName options).node language).inside kind.listTag
        = [.branch kind.listTag [] (options.map (OptionEntry.node kind language))] := by
      cases kind with
      | _ => rfl
    have tagged (entry : OptionEntry) : (entry.node kind language).tag = kind.entryTag := rfl
    have label (entry : OptionEntry)
        : (entry.node kind language).valuesAt ["labels", "label"] "description"
          = [entry.label] := by
      cases kind with
      | _ => rfl
    rw [Node.valuesAt_cons, list, List.flatMap_singleton, Node.valuesAt_cons,
      Node.inside_branch_map tagged, List.flatMap_map, List.map_eq_flatMap]
    exact List.flatMap_congr fun entry _ => label entry

/-- The option set of an attribute stands in the element of its record, if it fits.
-/
theorem Attribute.inside_optionset {attr : Attribute} (fits : attr.kind.Fits attr.optionSet?)
    {set : OptionSet} (language : String) (carried : attr.optionSet? = some set)
    : ((AttributeRecord.ofAttribute attr).node language).inside "optionset"
      = [set.node language] := by
  obtain ⟨_, _, kind, _, _, _, _, set?⟩ := attr
  obtain rfl : set? = some set := carried
  cases fits with
  | boolean | choice => rfl

/-- The labels of an attribute whose option set fits are written in the element of its record.
-/
theorem Attribute.valuesAt_node (language : String) {attr : Attribute}
    (fits : attr.kind.Fits attr.optionSet?)
    : ∀ inscription ∈ attr.inscriptions,
        ((AttributeRecord.ofAttribute attr).node language).valuesAt inscription.path
          inscription.key
        = inscription.texts := by
  refine List.forall_mem_cons.mpr ⟨?_, fun inscription member => ?_⟩
  · obtain ⟨_, _, kind, _, _, _, _, set?⟩ := attr
    cases fits with
    | boolean | choice => rfl
    | plain =>
        cases kind with
        | _ => rfl
  · obtain ⟨set, carried, listed⟩ := List.mem_flatMap.mp member
    have inside := inside_optionset fits language (Option.mem_toList.mp carried)
    obtain ⟨own, options⟩ := set.valuesAt_node language
    rcases List.mem_pair.mp listed with rfl | rfl
    · rw [Node.valuesAt_cons, inside, List.flatMap_singleton, own]
    · rw [Node.valuesAt_cons, inside, List.flatMap_singleton, options]

/-- The elements of an entity's attributes are those of its records.
-/
theorem Entity.reach_attributePath (publisherPrefix language : String) (entity : Entity)
    : (entity.node publisherPrefix language).reach attributePath
      = (entity.records publisherPrefix).map (AttributeRecord.node language) := by
  have outer : (entity.node publisherPrefix language).inside "EntityInfo"
      = [.branch "EntityInfo" [] [entity.infoNode publisherPrefix language]] :=
    rfl
  have info : (Node.branch "EntityInfo" [] [entity.infoNode publisherPrefix language]).inside
        "entity"
      = [entity.infoNode publisherPrefix language] :=
    rfl
  have list : (entity.infoNode publisherPrefix language).inside "attributes"
      = [.branch "attributes" []
          ((entity.records publisherPrefix).map (AttributeRecord.node language))] :=
    rfl
  have tagged (record : AttributeRecord) : (record.node language).tag = "attribute" := rfl
  rw [attributePath, Node.reach, outer, List.flatMap_singleton, Node.reach, info,
    List.flatMap_singleton, Node.reach, list, List.flatMap_singleton, Node.reach,
    Node.inside_branch_map tagged]
  exact List.flatMap_singleton' _

/-- The labels of an entity are written in its document.
-/
theorem Entity.valuesAt_node (publisherPrefix language : String) (entity : Entity)
    : ∀ inscription ∈ entity.inscriptions,
        (entity.node publisherPrefix language).valuesAt inscription.path inscription.key
        = inscription.texts := by
  refine List.forall_mem_cons.mpr ⟨rfl, ?_⟩
  refine List.forall_mem_cons.mpr ⟨rfl, ?_⟩
  refine List.forall_mem_cons.mpr ⟨rfl, ?_⟩
  refine List.forall_mem_cons.mpr ⟨rfl, ?_⟩
  exact List.forall_mem_singleton.mpr rfl

-----------------------------------------------------------------------------------------
-- Labels that are read
-----------------------------------------------------------------------------------------

/-- Well-formed names are not changed by a reader.
-/
theorem IsLogicalName.flattened_eq_self {name : String} (named : IsLogicalName name)
    : flattened name = name := by
  have apart : (blanks.all fun c => !isNameChar c) = true := by decide
  refine flattened_eq_self_iff.mpr fun c member blank => ?_
  have other := List.all_eq_true.mp apart c blank
  rw [named.isNameChar_of_mem c member] at other
  cases other

/-- What is read of an attribute's element shows its labels flattened.
-/
theorem Attribute.shownIn_settled (language : String) (level : Nat) {attr : Attribute}
    (named : IsLogicalName attr.logicalName) (fits : attr.kind.Fits attr.optionSet?)
    : attr.ShownIn flattened
        (((AttributeRecord.ofAttribute attr).node language).markup level).settled where
  name := by
    rw [value?_settled_markup]
    exact congrArg some named.flattened_eq_self
  labels inscription member :=
    Inscription.shows_flattened level (valuesAt_node language fits inscription member)

/-- A text that a reader recovers from a value: it is legal, and all its blanks are spaces.
-/
def Xml.Recoverable (text : String) : Prop :=
  Legal text ∧ ∀ c ∈ text.toList, c ∉ blanks

instance (text : String) : Decidable (Recoverable text) :=
  haveI := List.decidableBAll (fun c => c ∉ blanks) text.toList
  inferInstanceAs (Decidable (Legal text ∧ ∀ c ∈ text.toList, c ∉ blanks))

namespace Entity

variable {entity : Entity} (named : entity.WellNamed) (publisherPrefix language : String)
include named

/-- What is read of an entity's document shows its labels flattened.
-/
theorem shownIn_settled
    : entity.ShownIn flattened ((entity.node publisherPrefix language).markup 0).settled where
  labels inscription member :=
    Inscription.shows_flattened 0
      (entity.valuesAt_node publisherPrefix language inscription member)
  attributes position attr found := by
    have column := named.attributes attr (List.mem_of_getElem? found)
    have fits := named.fits attr (List.mem_of_getElem? found)
    have own : (entity.records publisherPrefix)[position]? = some (.ofAttribute attr) := by
      obtain ⟨bound, _⟩ := List.getElem?_eq_some_iff.mp found
      have early : position < (entity.attributes.map AttributeRecord.ofAttribute).length := by
        rwa [List.length_map]
      rw [records, List.getElem?_append_left early, List.getElem?_map, found, Option.map_some]
    refine ⟨_, ?_, Attribute.shownIn_settled language attributePath.length column fits⟩
    rw [reach_settled_markup, reach_attributePath, List.getElem?_map, List.getElem?_map, own,
      Option.map_some, Option.map_some, Nat.zero_add]

variable {language} (spoken : Legal language)
include spoken

/-- The document of an entity is read when its labels are legal, and otherwise it is not.
-/
theorem readDocument?_node_eq_some_iff {root : Markup}
    : readDocument? (entity.node publisherPrefix language).document = some root
      ↔ (∀ label ∈ entity.labels, Legal label)
        ∧ root = ((entity.node publisherPrefix language).markup 0).settled := by
  rw [readDocument?_document (entity.ordinary_node publisherPrefix language).named,
    Option.ite_none_right_eq_some, isLegal_node_iff spoken named, Option.some.injEq, eq_comm]

/-- Some reading of an entity's document shows its labels unchanged exactly when all of them are
recoverable.
-/
theorem exists_shownIn_id_iff
    : (∃ root,
        readDocument? (entity.node publisherPrefix language).document = some root
        ∧ entity.ShownIn id root)
      ↔ ∀ label ∈ entity.labels, Recoverable label := by
  have shown := shownIn_settled named publisherPrefix language
  constructor
  · rintro ⟨root, accepted, unchanged⟩ label member
    obtain ⟨legal, rfl⟩ := (readDocument?_node_eq_some_iff named _ spoken).mp accepted
    exact ⟨legal label member, flattened_eq_self_iff.mp (shown.unique unchanged label member)⟩
  · intro recoverable
    have legal : ∀ label ∈ entity.labels, Legal label :=
      fun label member => (recoverable label member).1
    refine ⟨_, (readDocument?_node_eq_some_iff named _ spoken).mpr ⟨legal, rfl⟩, ?_⟩
    exact shown.congr fun label member => flattened_eq_self_iff.mpr (recoverable label member).2

end Entity

namespace CompiledSchema

variable {schema : Schema} {publisherPrefix : String} {compiled : CompiledSchema}

/-- A package has the document of every compiled entity.
-/
theorem get?_entityPath (compiles : schema.compile publisherPrefix = .ok compiled)
    (settings : Settings) {entity : Entity} (listed : entity ∈ compiled.entities)
    : (compiled.package settings).get? (Package.entityPath entity.logicalName)
      = some (entity.node settings.publisher.namePrefix
          (toString settings.package.languageCode)).document :=
  ((coherent_of_compile compiles).get?_eq_some_iff settings).mpr
    ⟨_, mem_documents_iff.mpr (.inl ⟨entity, listed, .inl ⟨rfl, rfl⟩⟩), rfl⟩

/-- The document of a compiled entity is read exactly when every character of its labels can stand
in a document. Whatever is read shows every label flattened where it was written, and all labels are
recovered unchanged exactly when each of them is recoverable.
Witness: everything but the labels is made of legal characters, references are expanded, and a
text is flattened to itself when it has no blanks but spaces.
-/
theorem labels_recovered (compiles : schema.compile publisherPrefix = .ok compiled)
    (settings : Settings) {entity : Entity} (listed : entity ∈ compiled.entities)
    : ∃ text,
        (compiled.package settings).get? (Package.entityPath entity.logicalName) = some text
        ∧ ((∃ root, readDocument? text = some root) ↔ ∀ label ∈ entity.labels, Legal label)
        ∧ (∀ root, readDocument? text = some root → entity.ShownIn flattened root)
        ∧ ((∃ root, readDocument? text = some root ∧ entity.ShownIn id root)
          ↔ ∀ label ∈ entity.labels, Recoverable label) := by
  have named := wellNamed_of_compile compiles listed
  have spoken : Legal (toString settings.package.languageCode) := legal_repr _
  refine ⟨_, get?_entityPath compiles settings listed, ?_, ?_,
    Entity.exists_shownIn_id_iff named _ spoken⟩
  · simp only [Entity.readDocument?_node_eq_some_iff named _ spoken, exists_and_left, exists_eq,
      and_true]
  · intro root accepted
    obtain ⟨_, rfl⟩ := (Entity.readDocument?_node_eq_some_iff named _ spoken).mp accepted
    exact Entity.shownIn_settled named _ _

end CompiledSchema

/-- Signs are labelled with brackets, ampersands and quotation marks.
-/
def signEntity : Entity where
  logicalName := "sign"
  displayName := "<Sign>"
  pluralName := "'Signs' & \"more\""
  description := "</EntityInfo>"
  setName := "signs"
  primary := ⟨.firstString, "title"⟩
  attributes := [
    .naming "title" "&amp;",
    { logicalName := "wall"
      displayName := "Wall"
      kind := .choice
      optionSet? := some ⟨"sign_wall", .picklist, "Wall",
        [⟨"N & E", 100000000, 1, none⟩, ⟨"S < W", 100000001, 2, none⟩]⟩ }
  ]

/-- Notices are described on two lines.
-/
def noticeEntity : Entity where
  logicalName := "notice"
  displayName := "Notice"
  pluralName := "Notices"
  description := "Read aloud\nand put up"
  setName := "notices"
  primary := ⟨.firstString, "title"⟩
  attributes := [.naming "title" "Title"]

/-- What is put up on boards.
-/
def boards : Schema where
  tables := [
    { logicalName := "sign"
      displayName := "<Sign>"
      pluralName := "'Signs' & \"more\""
      description := some "</EntityInfo>"
      columns := [.string "title" "&amp;", .choice "wall" "Wall" ["N & E", "S < W"]] },
    { logicalName := "notice"
      displayName := "Notice"
      pluralName := "Notices"
      description := some "Read aloud\nand put up"
      columns := [.string "title" "Title"] }
  ]

/-- What boards compile to.
-/
def boardsCompiled : CompiledSchema where
  entities := [signEntity, noticeEntity]
  relationships := []
  plan := ⟨[⟨"sign", 0, []⟩, ⟨"notice", 0, []⟩], []⟩

/-- Boards compile.
-/
theorem boards_compile : boards.compile "x" = .ok boardsCompiled := by
  refine Schema.compile_eq_ok_iff.mpr ⟨rfl, rfl, rfl, ?_⟩
  change Dependencies.plan ⟨["sign", "notice"], []⟩ = .ok boardsCompiled.plan
  cbv

/-- All labels of signs are recovered unchanged.
-/
theorem labels_recovered_sign
    : boards.compile "x" = .ok boardsCompiled
      ∧ signEntity ∈ boardsCompiled.entities
      ∧ ∃ text root,
          (boardsCompiled.package {}).get? (Package.entityPath "sign") = some text
          ∧ readDocument? text = some root
          ∧ signEntity.ShownIn id root := by
  have listed : signEntity ∈ boardsCompiled.entities := List.mem_cons_self
  have recoverable : ∀ label ∈ signEntity.labels, Recoverable label := by decide
  obtain ⟨text, found, _, _, unchanged⟩ :=
    CompiledSchema.labels_recovered boards_compile {} listed
  obtain ⟨root, accepted, shown⟩ := unchanged.mpr recoverable
  exact ⟨boards_compile, listed, text, root, found, accepted, shown⟩

/-- Not all labels are recovered unchanged: the description of notices is read on one line.
-/
theorem notice_labels_not_recovered
    : ¬ ∀ (schema : Schema) (publisherPrefix : String) (compiled : CompiledSchema),
          schema.compile publisherPrefix = .ok compiled
          → ∀ (settings : Settings),
              ∀ entity ∈ compiled.entities,
                ∀ text,
                  (compiled.package settings).get? (Package.entityPath entity.logicalName)
                    = some text
                  → ∃ root, readDocument? text = some root ∧ entity.ShownIn id root := by
  intro all
  have listed : noticeEntity ∈ boardsCompiled.entities := .tail _ (.head _)
  have shown := all boards "x" boardsCompiled boards_compile {} noticeEntity listed _
    (CompiledSchema.get?_entityPath boards_compile {} listed)
  have recoverable := (Entity.exists_shownIn_id_iff
    (CompiledSchema.wellNamed_of_compile boards_compile listed) _ (legal_repr _)).mp shown
  exact absurd (recoverable noticeEntity.description (by decide)) (by decide)

end Tablewright
