import Tablewright.Proofs.Xml.Escaping
import Tablewright.Proofs.Xml.Scanning

/-! Documents are read as they were written: whatever texts and values an element has, the document
of it has one root element, whose tags are matched and from which the texts and values are
recovered.
-/

namespace Tablewright.Xml

-----------------------------------------------------------------------------------------
-- What is to be read of an element
-----------------------------------------------------------------------------------------

/-- The characters that begin a line at a level of indentation.
-/
def lineStart (level : Nat) : String :=
  String.ofList ('\n' :: List.replicate (2 * level) ' ')

mutual

/-- An element that is written at a level of indentation, as it is to be read. Every element inside
stands on a line of its own.
-/
def Node.markup (level : Nat) : Node → Markup
  | .leaf tag attributes text => .element tag attributes [.text text]
  | .empty tag attributes => .element tag attributes []
  | .branch tag attributes children =>
    .element tag attributes (markupOf (level + 1) children ++ [.text (lineStart level)])

/-- Elements that are written at a level of indentation, each behind the beginning of its line.
-/
def markupOf (level : Nat) : List Node → List Markup
  | [] => []
  | node :: rest => .text (lineStart level) :: node.markup level :: markupOf level rest

end

mutual

/-- The tag and the names of attributes of an element, and of all elements inside.
-/
def Node.words : Node → List String
  | .leaf tag attributes _ => tag :: attributes.map (·.1)
  | .empty tag attributes => tag :: attributes.map (·.1)
  | .branch tag attributes children => tag :: (attributes.map (·.1) ++ wordsOf children)

/-- All tags and names of attributes in elements.
-/
def wordsOf : List Node → List String
  | [] => []
  | node :: rest => node.words ++ wordsOf rest

end

mutual

/-- The tags of an element that is written behind some characters.
-/
def Node.pieces (level : Nat) (before : String) : Node → List Piece
  | .leaf tag attributes text =>
    [⟨before, .start tag (replaceValues escape attributes)⟩, ⟨escape text, .stop tag⟩]
  | .empty tag attributes => [⟨before, .empty tag (replaceValues escape attributes)⟩]
  | .branch tag attributes children =>
    ⟨before, .start tag (replaceValues escape attributes)⟩
      :: (piecesOf (level + 1) children ++ [⟨lineStart level, .stop tag⟩])

/-- The tags of elements, each of which is written on a line of its own.
-/
def piecesOf (level : Nat) : List Node → List Piece
  | [] => []
  | node :: rest => node.pieces level (lineStart level) ++ piecesOf level rest

end

/-- The root element of a document: the declaration stands on a line before it, and nothing but the
end of a line behind it.
-/
def root? (document : String) : Option Markup :=
  let start := (declaration ++ "\n").toList
  if start.isPrefixOf document.toList then
    match read (String.ofList (document.toList.drop start.length)) with
    | some [.text before, .element name attributes content, .text behind] =>
      if before = "" ∧ behind = "\n" then some (.element name attributes content) else none
    | _ => none
  else
    none

/-- The characters that begin a line.
-/
@[simp]
theorem lineStart_toList (level : Nat)
    : (lineStart level).toList = '\n' :: List.replicate (2 * level) ' ' := by
  rw [lineStart, String.toList_ofList]

-----------------------------------------------------------------------------------------
-- Matching the tags of an element
-----------------------------------------------------------------------------------------

/-- Beginnings of lines are not changed by escaping.
-/
@[simp]
theorem escape_lineStart (level : Nat) : escape (lineStart level) = lineStart level := by
  have blanks (n : Nat) : (List.replicate n ' ').flatMap escapeChar = List.replicate n ' ' := by
    induction n with
    | zero => rfl
    | succ n ih => rw [List.replicate_succ, List.flatMap_cons, ih]; rfl
  rw [escape, lineStart_toList, List.flatMap_cons, blanks]
  rfl

/-- Replacing goes through the elements one by one.
-/
theorem replaceAll_append (f : String → String) (first rest : List Markup)
    : replaceAll f (first ++ rest) = replaceAll f first ++ replaceAll f rest := by
  induction first with
  | nil => rfl
  | cons markup others ih => rw [List.cons_append, replaceAll, ih, replaceAll, List.cons_append]

mutual

/-- The tags of an element are matched to the element, behind whatever was read before.
-/
theorem nest_pieces (last : String) (opened : List Opened) (read : List Markup)
    (rest : List Piece) (level : Nat) (before : String)
    : ∀ node : Node,
        nest last opened read (node.pieces level before ++ rest)
        = nest last opened ((node.markup level).replace escape :: .text before :: read) rest
  | .leaf tag attributes text => by
      rw [Node.pieces, List.cons_append, List.cons_append, List.nil_append, nest, nest,
        if_pos rfl]
      rfl
  | .empty tag attributes => by
      rw [Node.pieces, List.cons_append, List.nil_append, nest]
      rfl
  | .branch tag attributes children => by
      rw [Node.pieces, List.cons_append, nest, List.append_assoc, nest_piecesOf,
        List.cons_append, List.nil_append, nest, if_pos rfl, Node.markup, Markup.replace,
        replaceAll_append, replaceAll, replaceAll, Markup.replace, escape_lineStart,
        List.append_nil, List.reverse_cons, List.reverse_reverse]

/-- The tags of elements are matched to the elements, behind whatever was read before.
-/
theorem nest_piecesOf (last : String) (opened : List Opened) (read : List Markup)
    (rest : List Piece) (level : Nat)
    : ∀ nodes : List Node,
        nest last opened read (piecesOf level nodes ++ rest)
        = nest last opened ((replaceAll escape (markupOf level nodes)).reverse ++ read) rest
  | [] => rfl
  | node :: others => by
      rw [piecesOf, List.append_assoc, nest_pieces, nest_piecesOf, markupOf, replaceAll,
        replaceAll, Markup.replace, escape_lineStart, List.reverse_cons, List.reverse_cons,
        List.append_assoc, List.append_assoc]
      rfl

end

-----------------------------------------------------------------------------------------
-- Scanning the tags of an element
-----------------------------------------------------------------------------------------

/-- Nothing in an escaped text ends it.
-/
theorem plain_of_mem_escape {text : String} {c : Char} (member : c ∈ (escape text).toList)
    : c ≠ '<' ∧ c ≠ '"' := by
  have plain := (escaped_escape text).plain c member
  exact ⟨fun same => plain (by simp [same]), fun same => plain (by simp [same])⟩

/-- Nothing at the beginning of a line begins a tag.
-/
theorem plain_of_mem_lineStart {level : Nat} {c : Char} (member : c ∈ (lineStart level).toList)
    : c ≠ '<' := by
  rw [← escape_lineStart] at member
  exact (plain_of_mem_escape member).1

/-- Escaped values of named attributes can be read.
-/
theorem readable_replaceValues {attributes : Attributes}
    (named : ∀ word ∈ attributes.map (·.1), isName word = true)
    : ReadableAttributes (replaceValues escape attributes) := by
  intro entry member
  obtain ⟨original, listed, rfl⟩ := List.mem_map.mp member
  exact ⟨named original.1 (List.mem_map_of_mem listed), fun c => plain_of_mem_escape⟩

mutual

/-- The tags of an element can be read when all its words are names.
-/
theorem readable_pieces {level : Nat} {before : String}
    (plain : ∀ c ∈ before.toList, c ≠ '<')
    : ∀ node : Node,
        (∀ word ∈ node.words, isName word = true)
        → ∀ piece ∈ node.pieces level before, piece.Readable
  | .leaf tag attributes text, named, piece, member => by
      obtain ⟨name, labels⟩ := List.forall_mem_cons.mp named
      rcases List.mem_cons.mp member with rfl | later
      · exact ⟨plain, name, readable_replaceValues labels⟩
      · rw [List.mem_singleton.mp later]
        exact ⟨fun c inside => (plain_of_mem_escape inside).1, name⟩
  | .empty tag attributes, named, piece, member => by
      obtain ⟨name, labels⟩ := List.forall_mem_cons.mp named
      rw [List.mem_singleton.mp member]
      exact ⟨plain, name, readable_replaceValues labels⟩
  | .branch tag attributes children, named, piece, member => by
      obtain ⟨name, others⟩ := List.forall_mem_cons.mp named
      obtain ⟨labels, inside⟩ := List.forall_mem_append.mp others
      rcases List.mem_cons.mp member with rfl | later
      · exact ⟨plain, name, readable_replaceValues labels⟩
      · rcases List.mem_append.mp later with child | stop
        · exact readable_piecesOf children inside piece child
        · rw [List.mem_singleton.mp stop]
          exact ⟨fun c => plain_of_mem_lineStart, name⟩

/-- The tags of elements can be read when all their words are names.
-/
theorem readable_piecesOf {level : Nat}
    : ∀ nodes : List Node,
        (∀ word ∈ wordsOf nodes, isName word = true)
        → ∀ piece ∈ piecesOf level nodes, piece.Readable
  | [], _, _, member => absurd member List.not_mem_nil
  | node :: others, named, piece, member => by
      obtain ⟨first, later⟩ := List.forall_mem_append.mp named
      rcases List.mem_append.mp member with own | other
      · exact readable_pieces (fun c => plain_of_mem_lineStart) node first piece own
      · exact readable_piecesOf others later piece other

end

-----------------------------------------------------------------------------------------
-- The text of an element
-----------------------------------------------------------------------------------------

/-- The characters of lines.
-/
def lineChars (level : Nat) (steps : List Step) : List Char :=
  (lines level steps).flatMap String.toList

/-- The characters of attributes are those of their escaped values.
-/
theorem attributesText_toList (attributes : Attributes)
    : (attributesText attributes).toList = attributeChars (replaceValues escape attributes) := by
  rw [attributesText, String.toList_join, attributeChars, replaceValues, List.flatMap_map,
    List.flatMap_map]
  congr 1
  funext entry
  simp [String.toList_append]

/-- The characters of a line: indentation, the line, and its end.
-/
theorem lineAt_toList (level : Nat) (text : String)
    : (lineAt level text).toList
      = List.replicate (2 * level) ' ' ++ (text.toList ++ ['\n']) := by
  simp [lineAt, String.toList_append]

/-- The tags of an element follow the characters before it.
-/
theorem pieces_flatMap_chars (level : Nat) (before : String) (node : Node)
    : (node.pieces level before).flatMap Piece.chars
      = before.toList ++ (node.pieces level "").flatMap Piece.chars := by
  cases node with
  | _ => simp [Node.pieces, Piece.chars]

mutual

/-- The lines of an element are its tags, behind the indentation of its level.
-/
theorem lineChars_steps (level : Nat) (rest : List Step)
    : ∀ node : Node,
        lineChars level (node.steps ++ rest)
        = List.replicate (2 * level) ' '
          ++ ((node.pieces level "").flatMap Piece.chars ++ '\n' :: lineChars level rest)
  | .leaf tag attributes text => by
      simp [lineChars, Node.steps, lines, lineAt_toList, attributesText_toList, Node.pieces,
        Piece.chars, Tag.chars]
  | .empty tag attributes => by
      simp [lineChars, Node.steps, lines, lineAt_toList, attributesText_toList, Node.pieces,
        Piece.chars, Tag.chars]
  | .branch tag attributes children => by
      have inside := lineChars_stepsOf (level + 1) (.endTag tag :: rest) children
      simp only [lineChars] at inside
      simp [lineChars, Node.steps, lines, lineAt_toList, attributesText_toList, Node.pieces,
        Piece.chars, Tag.chars, inside]

/-- The lines of elements are their tags, each behind the beginning of its line.
-/
theorem lineChars_stepsOf (level : Nat) (rest : List Step)
    : ∀ nodes : List Node,
        '\n' :: lineChars level (stepsOf nodes ++ rest)
        = (piecesOf level nodes).flatMap Piece.chars ++ '\n' :: lineChars level rest
  | [] => rfl
  | node :: others => by
      rw [stepsOf, List.append_assoc, lineChars_steps, lineChars_stepsOf, piecesOf,
        List.flatMap_append, pieces_flatMap_chars level (lineStart level)]
      simp

end

-----------------------------------------------------------------------------------------
-- Reading documents
-----------------------------------------------------------------------------------------

/-- The characters of a document: the line of the declaration, and the tags of the root.
-/
theorem document_toList (node : Node)
    : node.document.toList
      = (declaration ++ "\n").toList ++ ((node.pieces 0 "").flatMap Piece.chars ++ ['\n']) := by
  have written := lineChars_steps 0 [] node
  rw [List.append_nil] at written
  rw [Node.document, write, String.toList_join, lines, List.flatMap_cons, lineAt_toList]
  change _ ++ lineChars 0 node.steps = _
  rw [written, String.toList_append]
  rfl

/-- A document has the element that it was made from as its root, with its texts and values as they
were written.
-/
theorem root?_document {node : Node} (named : ∀ word ∈ node.words, isName word = true)
    : root? node.document = some ((node.markup 0).replace escape) := by
  have readable : ∀ piece ∈ node.pieces 0 "", piece.Readable :=
    readable_pieces (by simp) node named
  have plain : ∀ c ∈ "\n".toList, c ≠ '<' := by simp
  have scanned := scan_pieces readable plain
  have nested := nest_pieces "\n" [] [] [] 0 "" node
  rw [List.append_nil] at nested
  have body : read (String.ofList ((node.pieces 0 "").flatMap Piece.chars ++ ['\n']))
      = some [.text "", (node.markup 0).replace escape, .text "\n"] := by
    rw [read, String.toList_ofList]
    change (scan _ (_ ++ "\n".toList)).bind _ = _
    rw [scanned, Option.bind_some, nested]
    rfl
  rw [root?, document_toList,
    if_pos (List.isPrefixOf_iff_prefix.mpr (List.prefix_append _ _)), List.drop_left, body]
  cases node with
  | _ => rfl

end Tablewright.Xml
