import Tablewright.Proofs.Xml.Markup

/-! Tags that are written out are scanned as they are, whatever text stands before them and whatever
values their attributes have, as long as no bracket and no quotation mark is among these.
-/

namespace Tablewright.Xml

-----------------------------------------------------------------------------------------
-- Tags that are written out
-----------------------------------------------------------------------------------------

/-- Attributes as they stand in a tag.
-/
def attributeChars (attributes : Attributes) : List Char :=
  attributes.flatMap fun (label, value) =>
    ' ' :: (label.toList ++ '=' :: '"' :: (value.toList ++ ['"']))

/-- A tag behind its opening bracket.
-/
def Tag.chars : Tag → List Char
  | .start name attributes => name.toList ++ (attributeChars attributes ++ ['>'])
  | .stop name => '/' :: (name.toList ++ ['>'])
  | .empty name attributes => name.toList ++ (attributeChars attributes ++ [' ', '/', '>'])

/-- A tag behind the characters before it.
-/
def Piece.chars (piece : Piece) : List Char :=
  piece.before.toList ++ '<' :: piece.tag.chars

/-- The names of attributes are names, and no value ends too early.
-/
def ReadableAttributes (attributes : Attributes) : Prop :=
  ∀ entry ∈ attributes, isName entry.1 = true ∧ ∀ c ∈ entry.2.toList, c ≠ '<' ∧ c ≠ '"'

/-- The names in a tag are names, and no value ends too early.
-/
def Tag.Readable : Tag → Prop
  | .start name attributes => isName name = true ∧ ReadableAttributes attributes
  | .stop name => isName name = true
  | .empty name attributes => isName name = true ∧ ReadableAttributes attributes

/-- The tag of a piece can be read, and no other tag begins before it.
-/
structure Piece.Readable (piece : Piece) : Prop where
  before : ∀ c ∈ piece.before.toList, c ≠ '<'
  tag : piece.tag.Readable

-----------------------------------------------------------------------------------------
-- Names and values
-----------------------------------------------------------------------------------------

/-- Characters that were read one by one are those of a text.
-/
@[simp]
theorem ofRead_reverse (text : String) : ofRead text.toList.reverse = text := by
  rw [ofRead, List.reverse_reverse, String.ofList_toList]

/-- A name begins like one and has only characters of names.
-/
theorem isName_iff {name : String}
    : isName name = true
      ↔ ∃ c rest,
          name.toList = c :: rest ∧ isNameStart c = true ∧ ∀ d ∈ rest, isNameChar d = true := by
  rw [isName]
  cases name.toList with
  | nil => simp
  | cons c rest =>
      simp only [Bool.and_eq_true, List.all_eq_true]
      constructor
      · exact fun checked => ⟨c, rest, rfl, checked⟩
      · rintro ⟨_, _, same, checked⟩
        obtain ⟨rfl, rfl⟩ := List.cons.inj same
        exact checked

/-- What a name begins with can stand in one.
-/
theorem isNameChar_of_isNameStart {c : Char} (start : isNameStart c = true)
    : isNameChar c = true := by
  simp only [isNameStart, Bool.or_eq_true] at start
  simp only [isNameChar, Char.isAlphanum, Bool.or_eq_true]
  rcases start with (letter | score) | colon
  · exact .inl (.inl (.inl (.inl (.inl letter))))
  · exact .inl (.inl (.inl (.inr score)))
  · exact .inl (.inl (.inr colon))

/-- Characters between tags are collected.
-/
theorem scan_between_append {chars : List Char} (plain : ∀ c ∈ chars, c ≠ '<')
    (read rest : List Char)
    : scan (.between read) (chars ++ rest) = scan (.between (chars.reverse ++ read)) rest := by
  induction chars generalizing read with
  | nil => rfl
  | cons c others ih =>
      obtain ⟨different, plain⟩ := List.forall_mem_cons.mp plain
      rw [List.cons_append, scan, if_neg different, ih plain, List.reverse_cons,
        List.append_assoc, List.singleton_append]

/-- Characters that a place inside a tag collects are collected.
-/
theorem scan_inside_append (place : List Char → TagPlace) {chars : List Char}
    (collects : ∀ c ∈ chars, ∀ read, (place read).step c = some (.inl (place (c :: read))))
    (before : String) (read rest : List Char)
    : scan (.inside before (place read)) (chars ++ rest)
      = scan (.inside before (place (chars.reverse ++ read))) rest := by
  induction chars generalizing read with
  | nil => rfl
  | cons c others ih =>
      obtain ⟨first, later⟩ := List.forall_mem_cons.mp collects
      rw [List.cons_append, scan, first]
      simp only
      rw [ih later, List.reverse_cons, List.append_assoc, List.singleton_append]

/-- A step inside a tag that does not end it.
-/
theorem scan_inside_cons {place : TagPlace} {c : Char} {next : TagPlace}
    (steps : place.step c = some (.inl next)) (before : String) (rest : List Char)
    : scan (.inside before place) (c :: rest) = scan (.inside before next) rest := by
  rw [scan, steps]

/-- A step inside a tag that ends it.
-/
theorem scan_inside_end {place : TagPlace} {tag : Tag} {c : Char}
    (ends : place.step c = some (.inr tag)) (before : String) (rest : List Char)
    : scan (.inside before place) (c :: rest)
      = (scan (.between []) rest).map fun found => (⟨before, tag⟩ :: found.1, found.2) := by
  rw [scan, ends]

/-- The name of a tag is read.
-/
theorem scan_name {name : String} (named : isName name = true) (before : String)
    (rest : List Char)
    : scan (.inside before .opened) (name.toList ++ rest)
      = scan (.inside before (.name name.toList.reverse)) rest := by
  obtain ⟨c, others, spelled, start, inside⟩ := isName_iff.mp named
  have slash : c ≠ '/' := by
    rintro rfl
    exact absurd start (by decide)
  have opens : TagPlace.opened.step c = some (.inl (.name [c])) := by
    rw [TagPlace.step, if_neg slash, if_pos start]
  rw [spelled, List.cons_append, scan_inside_cons opens,
    scan_inside_append .name fun d member read => by
      rw [TagPlace.step, if_pos (inside d member)],
    List.reverse_cons]

/-- The name of an end tag is read.
-/
theorem scan_stop {name : String} (named : isName name = true) (before : String)
    (rest : List Char)
    : scan (.inside before (.stop [])) (name.toList ++ rest)
      = scan (.inside before (.stop name.toList.reverse)) rest := by
  obtain ⟨c, others, spelled, start, inside⟩ := isName_iff.mp named
  rw [scan_inside_append .stop, List.append_nil]
  intro d member read
  have inName : isNameChar d = true := by
    rw [spelled] at member
    rcases List.mem_cons.mp member with rfl | later
    · exact isNameChar_of_isNameStart start
    · exact inside d later
  have outside : d ≠ '>' := by
    rintro rfl
    exact absurd inName (by decide)
  rw [TagPlace.step, if_neg outside, if_pos inName]

-----------------------------------------------------------------------------------------
-- Attributes
-----------------------------------------------------------------------------------------

/-- A place behind the name of a tag and some attributes: any character that stands in no name leads
on from there.
-/
def TagPlace.Behind (place : TagPlace) (tag : String) (attributes : Attributes) : Prop :=
  ∀ c, isNameChar c = false → place.step c = proceed tag attributes c

/-- The name of a tag ends where its characters end.
-/
theorem TagPlace.behind_name (name : String)
    : (TagPlace.name name.toList.reverse).Behind name [] := by
  intro c outside
  rw [step, outside, if_neg Bool.false_ne_true, ofRead_reverse]

/-- The label of an attribute is read.
-/
theorem scan_label {label : String} (named : isName label = true) (before tag : String)
    (attributes : Attributes) (rest : List Char)
    : scan (.inside before (.blank tag attributes)) (label.toList ++ '=' :: rest)
      = scan (.inside before (.equals tag attributes label)) rest := by
  obtain ⟨c, others, spelled, start, inside⟩ := isName_iff.mp named
  have begins : (TagPlace.blank tag attributes).step c
      = some (.inl (.label tag attributes [c])) := by
    rw [TagPlace.step, if_pos start]
  have ends : (TagPlace.label tag attributes label.toList.reverse).step '='
      = some (.inl (.equals tag attributes label)) := by
    rw [TagPlace.step, if_neg (by decide), if_pos rfl, ofRead_reverse]
  rw [← scan_inside_cons ends, spelled, List.cons_append, scan_inside_cons begins,
    scan_inside_append (.label tag attributes) fun d member read => by
      rw [TagPlace.step, if_pos (inside d member)],
    List.reverse_cons]

/-- The value of an attribute is read up to its closing quotation mark.
-/
theorem scan_value {value : String} (plain : ∀ c ∈ value.toList, c ≠ '<' ∧ c ≠ '"')
    (before tag : String) (attributes : Attributes) (label : String) (rest : List Char)
    : scan (.inside before (.equals tag attributes label)) ('"' :: (value.toList ++ '"' :: rest))
      = scan (.inside before (.quoted tag (attributes ++ [(label, value)]))) rest := by
  have begins : (TagPlace.equals tag attributes label).step '"'
      = some (.inl (.value tag attributes label [])) := by
    rw [TagPlace.step, if_pos rfl]
  have ends : (TagPlace.value tag attributes label value.toList.reverse).step '"'
      = some (.inl (.quoted tag (attributes ++ [(label, value)]))) := by
    rw [TagPlace.step, if_pos rfl, ofRead_reverse]
  rw [← scan_inside_cons ends, scan_inside_cons begins,
    scan_inside_append (.value tag attributes label) fun d member read => by
      rw [TagPlace.step, if_neg (plain d member).2, if_neg (plain d member).1],
    List.append_nil]

/-- Attributes are read one by one.
Witness: induction on the attributes; each of them leads from a place behind those before it to a
place behind it.
-/
theorem scan_attributes {attributes : Attributes} (readable : ReadableAttributes attributes)
    {place : TagPlace} {tag : String} {found : Attributes} (behind : place.Behind tag found)
    (before : String)
    : ∃ next : TagPlace,
        next.Behind tag (found ++ attributes)
        ∧ ∀ rest,
            scan (.inside before place) (attributeChars attributes ++ rest)
            = scan (.inside before next) rest := by
  induction attributes generalizing place found with
  | nil => exact ⟨place, by rwa [List.append_nil], fun rest => rfl⟩
  | cons entry others ih =>
      obtain ⟨label, value⟩ := entry
      obtain ⟨⟨named, plain⟩, readable⟩ := List.forall_mem_cons.mp readable
      have blank : place.step ' ' = some (.inl (.blank tag found)) := by
        rw [behind ' ' (by decide), TagPlace.proceed, if_pos rfl]
      have quoted : (TagPlace.quoted tag (found ++ [(label, value)])).Behind tag
          (found ++ [(label, value)]) :=
        fun c _ => rfl
      obtain ⟨next, reached, scanned⟩ := ih readable quoted
      refine ⟨next, by rwa [List.append_assoc] at reached, fun rest => ?_⟩
      rw [← scanned, ← scan_value plain, ← scan_label named, ← scan_inside_cons blank]
      simp only [attributeChars, List.flatMap_cons, List.cons_append, List.append_assoc,
        List.nil_append]

-----------------------------------------------------------------------------------------
-- Whole tags
-----------------------------------------------------------------------------------------

/-- A tag is read as it is.
-/
theorem scan_tag {tag : Tag} (readable : tag.Readable) (before : String) (rest : List Char)
    : scan (.inside before .opened) (tag.chars ++ rest)
      = (scan (.between []) rest).map fun found => (⟨before, tag⟩ :: found.1, found.2) := by
  cases tag with
  | start name attributes =>
      obtain ⟨named, readable⟩ := readable
      obtain ⟨next, behind, scanned⟩ :=
        scan_attributes readable (TagPlace.behind_name name) before
      have ends : next.step '>' = some (.inr (.start name attributes)) := behind '>' rfl
      simp only [Tag.chars, List.append_assoc, List.cons_append, List.nil_append]
      rw [scan_name named, scanned, scan_inside_end ends]
  | stop name =>
      have ends : (TagPlace.stop name.toList.reverse).step '>' = some (.inr (.stop name)) := by
        rw [TagPlace.step, if_pos rfl, ofRead_reverse]
      simp only [Tag.chars, List.append_assoc, List.cons_append, List.nil_append]
      have opens : TagPlace.opened.step '/' = some (.inl (.stop [])) := rfl
      rw [scan_inside_cons opens, scan_stop readable, scan_inside_end ends]
  | empty name attributes =>
      obtain ⟨named, readable⟩ := readable
      obtain ⟨next, behind, scanned⟩ :=
        scan_attributes readable (TagPlace.behind_name name) before
      have blank : next.step ' ' = some (.inl (.blank name attributes)) := behind ' ' rfl
      have slash : (TagPlace.blank name attributes).step '/'
          = some (.inl (.slash name attributes)) :=
        rfl
      have ends : (TagPlace.slash name attributes).step '>'
          = some (.inr (.empty name attributes)) :=
        rfl
      simp only [Tag.chars, List.append_assoc, List.cons_append, List.nil_append]
      rw [scan_name named, scanned, scan_inside_cons blank, scan_inside_cons slash,
        scan_inside_end ends]

/-- A tag is read with the characters before it.
-/
theorem scan_piece {piece : Piece} (readable : piece.Readable) (rest : List Char)
    : scan (.between []) (piece.chars ++ rest)
      = (scan (.between []) rest).map fun found => (piece :: found.1, found.2) := by
  rw [Piece.chars, List.append_assoc, scan_between_append readable.before, List.append_nil,
    List.cons_append, scan, if_pos rfl, ofRead_reverse, scan_tag readable.tag]

/-- The tags of a text that is written out from some are these.
-/
theorem scan_pieces {pieces : List Piece} (readable : ∀ piece ∈ pieces, piece.Readable)
    {last : String} (plain : ∀ c ∈ last.toList, c ≠ '<')
    : scan (.between []) (pieces.flatMap Piece.chars ++ last.toList) = some (pieces, last) := by
  induction pieces with
  | nil =>
      have whole := scan_between_append plain [] []
      rw [List.append_nil, List.append_nil] at whole
      rw [List.flatMap_nil, List.nil_append, whole, scan, ofRead_reverse]
  | cons piece others ih =>
      obtain ⟨first, later⟩ := List.forall_mem_cons.mp readable
      rw [List.flatMap_cons, List.append_assoc, scan_piece first, ih later, Option.map_some]

end Tablewright.Xml
