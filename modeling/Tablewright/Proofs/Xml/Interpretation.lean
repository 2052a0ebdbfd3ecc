import Tablewright.Proofs.Xml.Contents
import Tablewright.Proofs.Xml.Values

/-! Documents as a reader of XML 1.0 takes them: it refuses a character that no document has, and it
reads every other document that was written with its values flattened.
-/

namespace Tablewright.Xml

-----------------------------------------------------------------------------------------
-- The reader
-----------------------------------------------------------------------------------------

/-- Attributes with their values taken as they are to be.
-/
def interpretValues? : Attributes → Option Attributes
  | [] => some []
  | (key, raw) :: rest => do
    let value ← readValue? raw
    let rest ← interpretValues? rest
    return (key, value) :: rest

mutual

/-- What is read, with all characters between tags and all values taken as they are to be.
-/
def Markup.interpret? : Markup → Option Markup
  | .text raw => .text <$> readText? raw
  | .element name attributes content => do
    let attributes ← interpretValues? attributes
    let content ← interpretAll? content
    return .element name attributes content

/-- All that is read, with all characters between tags and all values taken as they are to be.
-/
def interpretAll? : List Markup → Option (List Markup)
  | [] => some []
  | markup :: rest => do
    let markup ← markup.interpret?
    let rest ← interpretAll? rest
    return markup :: rest

end

/-- The root element of a document, if all its characters can stand in one.
-/
def readDocument? (document : String) : Option Markup :=
  if Legal document then (root? document).bind Markup.interpret? else none

mutual

/-- What is read of an element that was written: texts with unified ends of lines, and flattened
values.
-/
def Markup.settled : Markup → Markup
  | .text value => .text (unified value)
  | .element name attributes content =>
    .element name (replaceValues flattened attributes) (settledAll content)

/-- What is read of all that was written.
-/
def settledAll : List Markup → List Markup
  | [] => []
  | markup :: rest => markup.settled :: settledAll rest

end

/-- Escaped values are flattened by the reader.
-/
theorem interpretValues?_replaceValues (attributes : Attributes)
    : interpretValues? (replaceValues escape attributes)
      = some (replaceValues flattened attributes) := by
  induction attributes with
  | nil => rfl
  | cons entry rest ih =>
      change (readValue? (escape entry.2)).bind (fun value =>
        (interpretValues? (replaceValues escape rest)).bind fun others =>
          some ((entry.1, value) :: others)) = _
      rw [readValue?_escape, ih]
      rfl

mutual

/-- What was escaped is settled by the reader.
-/
theorem interpret?_replace_escape
    : ∀ markup : Markup, (markup.replace escape).interpret? = some markup.settled
  | .text value => by
      rw [Markup.replace, Markup.interpret?, readText?_escape]
      rfl
  | .element name attributes content => by
      rw [Markup.replace, Markup.interpret?, interpretValues?_replaceValues,
        interpretAll?_replaceAll_escape]
      rfl

/-- All that was escaped is settled by the reader.
-/
theorem interpretAll?_replaceAll_escape
    : ∀ content : List Markup,
        interpretAll? (replaceAll escape content) = some (settledAll content)
  | [] => rfl
  | markup :: rest => by
      rw [replaceAll, interpretAll?, interpret?_replace_escape, interpretAll?_replaceAll_escape]
      rfl

end

-----------------------------------------------------------------------------------------
-- Legal documents
-----------------------------------------------------------------------------------------

mutual

/-- The texts and values of an element.
-/
def Node.values : Node → List String
  | .leaf _ attributes text => attributes.map (·.2) ++ [text]
  | .empty _ attributes => attributes.map (·.2)
  | .branch _ attributes children => attributes.map (·.2) ++ valuesOf children

/-- The texts and values of elements.
-/
def valuesOf : List Node → List String
  | [] => []
  | node :: rest => node.values ++ valuesOf rest

end

/-- The texts and values of elements are those of each.
-/
theorem valuesOf_eq_flatMap (nodes : List Node) : valuesOf nodes = nodes.flatMap Node.values := by
  induction nodes with
  | nil => rfl
  | cons node rest ih => rw [valuesOf, ih, List.flatMap_cons]

/-- All texts and values of an element are legal.
-/
def Node.IsLegal (node : Node) : Prop :=
  ∀ value ∈ node.values, Legal value

instance (node : Node) : Decidable node.IsLegal :=
  inferInstanceAs (Decidable (∀ value ∈ node.values, Legal value))

/-- Names are made of printed characters.
-/
theorem toNat_of_isNameChar {c : Char} (named : isNameChar c = true)
    : 0x20 ≤ c.toNat ∧ c.toNat < 0x7F := by
  simp only [isNameChar, Bool.or_eq_true, beq_iff_eq] at named
  rcases named with (((letter | rfl) | rfl) | rfl) | rfl
  · change (decide (c.val ≥ 65 ∧ c.val ≤ 90)
        || decide (c.val ≥ 97) && decide (c.val ≤ 122)
        || decide (c.val ≥ 48) && decide (c.val ≤ 57)) = true at letter
    simp only [Bool.or_eq_true, Bool.and_eq_true, decide_eq_true_eq, ge_iff_le,
      UInt32.le_iff_toNat_le] at letter
    change ((65 ≤ c.toNat ∧ c.toNat ≤ 90) ∨ (97 ≤ c.toNat ∧ c.toNat ≤ 122))
      ∨ (48 ≤ c.toNat ∧ c.toNat ≤ 57) at letter
    omega
  · decide
  · decide
  · decide
  · decide

/-- What stands in a name is legal.
-/
theorem isDocumentChar_of_isNameChar {c : Char} (named : isNameChar c = true)
    : isDocumentChar c = true := by
  obtain ⟨least, most⟩ := toNat_of_isNameChar named
  have printed : c.toNat ≤ 0xD7FF := by omega
  simp [isDocumentChar, least, printed]

/-- A text of characters that stand in names is legal.
-/
theorem legal_of_nameChars {text : String} (named : ∀ c ∈ text.toList, isNameChar c = true)
    : Legal text :=
  fun c member => isDocumentChar_of_isNameChar (named c member)

/-- Names are legal.
-/
theorem legal_of_isName {name : String} (named : isName name = true) : Legal name := by
  obtain ⟨c, rest, spelled, start, inside⟩ := isName_iff.mp named
  refine legal_of_nameChars ?_
  rw [spelled]
  exact List.forall_mem_cons.mpr ⟨isNameChar_of_isNameStart start, inside⟩

/-- The beginning of a line is legal.
-/
theorem legal_lineStart (level : Nat) : Legal (lineStart level) := by
  rw [Legal, lineStart_toList]
  refine legalChars_cons.mpr ⟨by decide, fun c member => ?_⟩
  rw [List.eq_of_mem_replicate member]
  decide

/-- The marks of tags are legal.
-/
theorem isDocumentChar_marks
    : ∀ c ∈ ['<', '>', '/', '=', '"', ' ', '\n'], isDocumentChar c = true := by
  change LegalChars _
  decide

/-- What is written of attributes is legal when their values are.
-/
theorem legal_attributeChars_iff {attributes : Attributes}
    (named : ∀ word ∈ attributes.map (·.1), isName word = true)
    : LegalChars (attributeChars (replaceValues escape attributes))
      ↔ ∀ value ∈ attributes.map (·.2), Legal value := by
  induction attributes with
  | nil => simp [attributeChars, replaceValues]
  | cons entry rest ih =>
      obtain ⟨name, labels⟩ := List.forall_mem_cons.mp named
      have own : LegalChars entry.1.toList := legal_of_isName name
      have value : LegalChars (escape entry.2).toList ↔ Legal entry.2 := legal_escape_iff
      have first : attributeChars (replaceValues escape (entry :: rest))
          = ' ' :: (entry.1.toList ++ '=' :: '"' :: ((escape entry.2).toList ++ ['"']))
            ++ attributeChars (replaceValues escape rest) :=
        rfl
      rw [first, List.map_cons, List.forall_mem_cons]
      simp [isDocumentChar_marks, own, value, ih labels]

mutual

/-- What is written of an element is legal when what stands before it and its values are.
-/
theorem legal_pieces_iff {level : Nat} {before : String}
    : ∀ node : Node,
        (∀ word ∈ node.words, isName word = true)
        → (LegalChars ((node.pieces level before).flatMap Piece.chars)
          ↔ Legal before ∧ node.IsLegal)
  | .leaf tag attributes text, named => by
      obtain ⟨name, labels⟩ := List.forall_mem_cons.mp named
      have own : LegalChars tag.toList := legal_of_isName name
      have written : LegalChars (escape text).toList ↔ Legal text := legal_escape_iff
      rw [Node.IsLegal, Node.values, List.forall_mem_append, ← legal_attributeChars_iff labels]
      simp [Node.pieces, Piece.chars, Tag.chars, isDocumentChar_marks, own, written, Legal]
  | .empty tag attributes, named => by
      obtain ⟨name, labels⟩ := List.forall_mem_cons.mp named
      have own : LegalChars tag.toList := legal_of_isName name
      rw [Node.IsLegal, Node.values, ← legal_attributeChars_iff labels]
      simp [Node.pieces, Piece.chars, Tag.chars, isDocumentChar_marks, own, Legal]
  | .branch tag attributes children, named => by
      obtain ⟨name, others⟩ := List.forall_mem_cons.mp named
      obtain ⟨labels, inside⟩ := List.forall_mem_append.mp others
      have own : LegalChars tag.toList := legal_of_isName name
      have ends : LegalChars (lineStart level).toList := legal_lineStart level
      have within : LegalChars ((piecesOf (level + 1) children).flatMap Piece.chars)
          ↔ ∀ value ∈ valuesOf children, Legal value :=
        legal_piecesOf_iff children inside
      rw [Node.IsLegal, Node.values, List.forall_mem_append, ← legal_attributeChars_iff labels,
        ← within]
      simp [-lineStart_toList, Node.pieces, Piece.chars, Tag.chars, isDocumentChar_marks, own, ends,
        Legal]

/-- What is written of elements is legal when their values are.
-/
theorem legal_piecesOf_iff {level : Nat}
    : ∀ nodes : List Node,
        (∀ word ∈ wordsOf nodes, isName word = true)
        → (LegalChars ((piecesOf level nodes).flatMap Piece.chars)
          ↔ ∀ value ∈ valuesOf nodes, Legal value)
  | [], _ => by simp [piecesOf, valuesOf]
  | node :: rest, named => by
      obtain ⟨first, later⟩ := List.forall_mem_append.mp named
      rw [piecesOf, List.flatMap_append, legalChars_append, legal_pieces_iff node first,
        legal_piecesOf_iff rest later, valuesOf, List.forall_mem_append]
      exact and_congr_left fun _ => and_iff_right (legal_lineStart level)

end

/-- A document is legal when the values of its root are.
-/
theorem legal_document_iff {node : Node} (named : ∀ word ∈ node.words, isName word = true)
    : Legal node.document ↔ node.IsLegal := by
  have start : LegalChars (declaration ++ "\n").toList := by
    change Legal (declaration ++ "\n")
    decide
  have empty : Legal "" := by decide
  have written : LegalChars ((node.pieces 0 "").flatMap Piece.chars) ↔ Legal "" ∧ node.IsLegal :=
    legal_pieces_iff node named
  rw [Legal, document_toList, legalChars_append, legalChars_append, written, and_iff_right start,
    and_iff_right empty]
  simp [isDocumentChar_marks]

/-- A document whose values are legal is read as it was written, with its values flattened, and no
other document is read.
-/
theorem readDocument?_document {node : Node} (named : ∀ word ∈ node.words, isName word = true)
    : readDocument? node.document
      = if node.IsLegal then some (node.markup 0).settled else none := by
  rw [readDocument?, root?_document named, Option.bind_some, interpret?_replace_escape]
  exact ite_congr (propext (legal_document_iff named)) (fun _ => rfl) fun _ => rfl

end Tablewright.Xml
