import Tablewright.Xml.Escape

/-! Reading escaped text: no character with a meaning of its own is left in it, and expanding its
references gives back the text that was escaped.
-/

namespace Tablewright.Xml

/-- The names of references, with the characters that they stand for.
-/
def references : List (String × Char) :=
  [("amp", '&'), ("lt", '<'), ("gt", '>'), ("quot", '"'), ("apos", '\'')]

/-- Text in which no bracket and no quotation mark stands, and every ampersand begins a reference.
-/
structure Escaped (raw : String) : Prop where
  plain : ∀ c ∈ raw.toList, c ∉ ['<', '>', '"', '\'']
  referenced
    : ∀ before behind,
        raw.toList = before ++ '&' :: behind
        → ∃ reference ∈ references, ∃ rest, behind = reference.1.toList ++ ';' :: rest

/-- The characters that stand for themselves or that references stand for.
-/
def expandChars : List Char → List Char
  | '&' :: 'a' :: 'm' :: 'p' :: ';' :: rest => '&' :: expandChars rest
  | '&' :: 'l' :: 't' :: ';' :: rest => '<' :: expandChars rest
  | '&' :: 'g' :: 't' :: ';' :: rest => '>' :: expandChars rest
  | '&' :: 'q' :: 'u' :: 'o' :: 't' :: ';' :: rest => '"' :: expandChars rest
  | '&' :: 'a' :: 'p' :: 'o' :: 's' :: ';' :: rest => '\'' :: expandChars rest
  | c :: rest => c :: expandChars rest
  | [] => []

/-- A text with its references expanded.
-/
def expand (raw : String) : String :=
  String.ofList (expandChars raw.toList)

-----------------------------------------------------------------------------------------
-- Single characters
-----------------------------------------------------------------------------------------

/-- A character is written as a reference that stands for it, or, when it has no meaning of its own,
as itself.
-/
theorem escapeChar_cases (c : Char)
    : (∃ name, (name, c) ∈ references ∧ escapeChar c = '&' :: (name.toList ++ [';']))
      ∨ (c ∉ ['&', '<', '>', '"', '\''] ∧ escapeChar c = [c]) := by
  unfold escapeChar
  split
  · exact .inl ⟨"amp", by decide, rfl⟩
  · exact .inl ⟨"lt", by decide, rfl⟩
  · exact .inl ⟨"gt", by decide, rfl⟩
  · exact .inl ⟨"quot", by decide, rfl⟩
  · exact .inl ⟨"apos", by decide, rfl⟩
  · exact .inr ⟨by simp_all, rfl⟩

/-- No name of a reference has a character with a meaning of its own.
-/
theorem plain_of_mem_references {reference : String × Char} (member : reference ∈ references)
    : ∀ c ∈ reference.1.toList, c ∉ ['&', '<', '>', '"', '\''] := by
  have checked
      : (references.all fun reference =>
          reference.1.toList.all fun c => c ∉ ['&', '<', '>', '"', '\'']) = true := by decide
  intro c there
  simpa using List.all_eq_true.mp (List.all_eq_true.mp checked _ member) c there

/-- A character other than an ampersand stands for itself.
-/
theorem expandChars_cons_of_ne {c : Char} (different : c ≠ '&') (rest : List Char)
    : expandChars (c :: rest) = c :: expandChars rest := by
  rw [expandChars]
  · exact fun _ same _ => different same
  · exact fun _ same _ => different same
  · exact fun _ same _ => different same
  · exact fun _ same _ => different same
  · exact fun _ same _ => different same

/-- A reference expands to the character that it stands for.
-/
theorem expandChars_reference {name : String} {c : Char} (known : (name, c) ∈ references)
    (rest : List Char)
    : expandChars ('&' :: (name.toList ++ ';' :: rest)) = c :: expandChars rest := by
  simp only [references, List.mem_cons, Prod.mk.injEq, List.not_mem_nil, or_false] at known
  rcases known with ⟨rfl, rfl⟩ | ⟨rfl, rfl⟩ | ⟨rfl, rfl⟩ | ⟨rfl, rfl⟩ | ⟨rfl, rfl⟩
  · rfl
  · rfl
  · rfl
  · rfl
  · rfl

/-- What is written for a character expands to it.
-/
theorem expandChars_escapeChar (c : Char) (rest : List Char)
    : expandChars (escapeChar c ++ rest) = c :: expandChars rest := by
  rcases escapeChar_cases c with ⟨name, known, written⟩ | ⟨plain, written⟩
  · rw [written, List.cons_append, List.append_assoc]
    exact expandChars_reference known rest
  · rw [written]
    exact expandChars_cons_of_ne (fun same => plain (by simp [same])) rest

/-- Nothing that is written for a character is a bracket or a quotation mark.
-/
theorem plain_of_mem_escapeChar {c d : Char} (member : d ∈ escapeChar c)
    : d ∉ ['<', '>', '"', '\''] := by
  rcases escapeChar_cases c with ⟨name, known, written⟩ | ⟨plain, written⟩
  · rw [written] at member
    rcases List.mem_cons.mp member with rfl | later
    · decide
    · rcases List.mem_append.mp later with named | last
      · exact fun special => plain_of_mem_references known d named (List.mem_cons_of_mem _ special)
      · rw [List.mem_singleton.mp last]
        decide
  · rw [written, List.mem_singleton] at member
    exact fun special => plain (member ▸ List.mem_cons_of_mem _ special)

/-- An ampersand in what is written for a character begins a reference, and that is all of it.
-/
theorem reference_of_escapeChar {c : Char} {before behind : List Char}
    (split : escapeChar c = before ++ '&' :: behind)
    : ∃ reference ∈ references, behind = reference.1.toList ++ [';'] := by
  rcases escapeChar_cases c with ⟨name, known, written⟩ | ⟨plain, written⟩
  · rw [written] at split
    cases before with
    | nil => exact ⟨(name, c), known, (List.cons.inj split).2.symm⟩
    | cons first others =>
        have inside : '&' ∈ name.toList ++ [';'] := by
          rw [(List.cons.inj split).2]
          exact List.mem_append_right _ List.mem_cons_self
        rcases List.mem_append.mp inside with named | last
        · exact absurd List.mem_cons_self (plain_of_mem_references known '&' named)
        · exact absurd (List.mem_singleton.mp last) (by decide)
  · have inside : '&' ∈ [c] := by
      rw [← written, split]
      exact List.mem_append_right _ List.mem_cons_self
    exact absurd (List.mem_singleton.mp inside) fun same => plain (by simp [← same])

-----------------------------------------------------------------------------------------
-- Texts
-----------------------------------------------------------------------------------------

/-- An escaped text expands to the text.
Witness: induction on its characters, each of which is expanded from what is written for it.
-/
theorem expand_escape (text : String) : expand (escape text) = text := by
  have chars (text : List Char) : expandChars (text.flatMap escapeChar) = text := by
    induction text with
    | nil => rfl
    | cons c rest ih => rw [List.flatMap_cons, expandChars_escapeChar, ih]
  rw [expand, escape, String.toList_ofList, chars, String.ofList_toList]

/-- In written characters every ampersand begins a reference.
Witness: induction on the characters; an ampersand stands in what is written for the first one, or
behind that.
-/
theorem referenced_of_flatMap_escapeChar {text before behind : List Char}
    (split : text.flatMap escapeChar = before ++ '&' :: behind)
    : ∃ reference ∈ references, ∃ rest, behind = reference.1.toList ++ ';' :: rest := by
  induction text generalizing before with
  | nil => simp at split
  | cons c rest ih =>
      rw [List.flatMap_cons] at split
      rcases List.append_eq_append_iff.mp split with ⟨left, rfl, later⟩ | ⟨left, first, later⟩
      · exact ih later
      · cases left with
        | nil => exact @ih [] later.symm
        | cons head tail =>
            obtain ⟨rfl, rfl⟩ := List.cons.inj later
            obtain ⟨reference, known, rfl⟩ := reference_of_escapeChar first
            exact ⟨reference, known, _, List.append_assoc _ [';'] _⟩

/-- Every escaped text is one.
-/
theorem escaped_escape (text : String) : Escaped (escape text) := by
  have chars : (escape text).toList = text.toList.flatMap escapeChar := by
    rw [escape, String.toList_ofList]
  constructor
  · intro c member
    rw [chars] at member
    obtain ⟨_, _, written⟩ := List.mem_flatMap.mp member
    exact plain_of_mem_escapeChar written
  · intro before behind split
    rw [chars] at split
    exact referenced_of_flatMap_escapeChar split

end Tablewright.Xml
