import Tablewright.Json.Number
import Tablewright.Json.Text
import Tablewright.Proofs.Xml.Escaping

/-! Texts and values as a reader of XML 1.0 takes them: all ends of lines are line feeds to it, the
blanks in a value are spaces, and references are what they stand for. What was escaped is recovered
up to its blanks.
-/

namespace Tablewright.Xml

/-- A character that can stand in a document, be it as it is or by a reference.
-/
def isDocumentChar (c : Char) : Bool :=
  c = '\t' || c = '\n' || c = '\r'
    || 0x20 ≤ c.toNat && c.toNat ≤ 0xD7FF
    || 0xE000 ≤ c.toNat && c.toNat ≤ 0xFFFD
    || 0x10000 ≤ c.toNat && c.toNat ≤ 0x10FFFF

/-- All of some characters can stand in a document.
-/
def LegalChars (chars : List Char) : Prop :=
  ∀ c ∈ chars, isDocumentChar c = true

/-- A text of characters that can stand in a document.
-/
def Legal (text : String) : Prop :=
  LegalChars text.toList

instance (chars : List Char) : Decidable (LegalChars chars) :=
  List.decidableBAll (fun c => isDocumentChar c = true) chars

instance (text : String) : Decidable (Legal text) :=
  inferInstanceAs (Decidable (LegalChars text.toList))

/-- The blanks that a reader takes for spaces in a value.
-/
def blanks : List Char := ['\t', '\n', '\r']

/-- The characters of a text whose lines all end in a line feed. A carriage return ends a line, with
or without a line feed behind it.
-/
def unifyLineEnds : List Char → List Char
  | '\r' :: '\n' :: rest => '\n' :: unifyLineEnds rest
  | '\r' :: rest => '\n' :: unifyLineEnds rest
  | c :: rest => c :: unifyLineEnds rest
  | [] => []

/-- A character of a value as it is read.
-/
def asSpace (c : Char) : Char :=
  if c ∈ blanks then ' ' else c

/-- The character with a number, if it can stand in a document.
-/
def charOf? (code : Nat) : Option Char :=
  if code.isValidChar ∧ isDocumentChar (Char.ofNat code) then some (Char.ofNat code) else none

/-- The character that a reference stands for, by its name or by its number.
-/
def referenced? : List Char → Option Char
  | '#' :: 'x' :: digits => if digits = [] then none else (Json.hexDigits digits).bind charOf?
  | '#' :: digits =>
    if digits ≠ [] ∧ digits.all Char.isDigit then charOf? (Json.digitsValue digits) else none
  | name => references.lookup (String.ofList name)

/-- The characters that some characters are read as, from a place in a reference on whose name was
read so far, or from a place outside of any.
-/
def readChars (literal : Char → Char) : Option (List Char) → List Char → Option (List Char)
  | none, [] => some []
  | some _, [] => none
  | none, c :: rest =>
    if c = '&' then
      readChars literal (some []) rest
    else
      (literal c :: ·) <$> readChars literal none rest
  | some name, c :: rest =>
    if c = ';' then
      (referenced? name.reverse).bind fun found => (found :: ·) <$> readChars literal none rest
    else
      readChars literal (some (c :: name)) rest

/-- The text that characters between tags are read as.
-/
def readText? (raw : String) : Option String :=
  String.ofList <$> readChars id none (unifyLineEnds raw.toList)

/-- The value that the characters between quotation marks are read as.
-/
def readValue? (raw : String) : Option String :=
  String.ofList <$> readChars asSpace none (unifyLineEnds raw.toList)

/-- A text with unified ends of lines.
-/
def unified (text : String) : String :=
  String.ofList (unifyLineEnds text.toList)

/-- A text with unified ends of lines, on one line with spaces as its only blanks.
-/
def flattened (text : String) : String :=
  String.ofList ((unifyLineEnds text.toList).map asSpace)

-----------------------------------------------------------------------------------------
-- Ends of lines
-----------------------------------------------------------------------------------------

/-- Characters without a carriage return stay as they are.
-/
theorem unifyLineEnds_append {first : List Char} (plain : ∀ c ∈ first, c ≠ '\r')
    (rest : List Char)
    : unifyLineEnds (first ++ rest) = first ++ unifyLineEnds rest := by
  induction first with
  | nil => rfl
  | cons c others ih =>
      obtain ⟨different, plain⟩ := List.forall_mem_cons.mp plain
      rw [List.cons_append, List.cons_append, unifyLineEnds, ih plain]
      · exact fun _ same _ => different same
      · exact fun same => different same

/-- A carriage return that no line feed follows becomes one.
-/
theorem unifyLineEnds_return {rest : List Char} (plain : rest.head? ≠ some '\n')
    : unifyLineEnds ('\r' :: rest) = '\n' :: unifyLineEnds rest := by
  rw [unifyLineEnds]
  intro others same
  exact plain (by rw [same]; rfl)

/-- What is written for a character begins with that or with an ampersand.
-/
theorem head?_escapeChar_append (c : Char) (rest : List Char)
    : (escapeChar c ++ rest).head? = some c ∨ (escapeChar c ++ rest).head? = some '&' := by
  rcases escapeChar_cases c with ⟨name, _, written⟩ | ⟨_, written⟩
  · exact .inr (by rw [written]; rfl)
  · exact .inl (by rw [written]; rfl)

/-- A character other than a carriage return is written without any.
-/
theorem return_notMem_escapeChar {c : Char} (different : c ≠ '\r')
    : ∀ d ∈ escapeChar c, d ≠ '\r' := by
  rcases escapeChar_cases c with ⟨name, known, written⟩ | ⟨_, written⟩
  · have checked : (references.all fun reference =>
        (escapeChar reference.2).all (· ≠ '\r')) = true := by decide
    intro d member
    simpa using List.all_eq_true.mp (List.all_eq_true.mp checked _ known) d member
  · rw [written]
    exact List.forall_mem_singleton.mpr different

/-- Ends of lines are unified in a text as in what is written for it.
-/
theorem unifyLineEnds_flatMap_escapeChar (text : List Char)
    : unifyLineEnds (text.flatMap escapeChar) = (unifyLineEnds text).flatMap escapeChar := by
  induction text using unifyLineEnds.induct with
  | case1 rest ih =>
      change '\n' :: unifyLineEnds (rest.flatMap escapeChar) = _
      rw [ih]
      rfl
  | case2 rest plain ih =>
      have alone : rest.head? ≠ some '\n' := by
        cases rest with
        | nil => simp
        | cons c others =>
            intro same
            cases Option.some.inj same
            exact plain others rfl
      have written : (rest.flatMap escapeChar).head? ≠ some '\n' := by
        cases rest with
        | nil => simp
        | cons c others =>
            rw [List.flatMap_cons]
            rcases head?_escapeChar_append c (others.flatMap escapeChar) with same | same
            · rwa [same]
            · rw [same]
              decide
      change unifyLineEnds ('\r' :: rest.flatMap escapeChar) = _
      rw [unifyLineEnds_return written, unifyLineEnds_return alone, ih]
      rfl
  | case3 c rest _ different ih =>
      have plain : ∀ d ∈ [c], d ≠ '\r' := List.forall_mem_singleton.mpr different
      have kept := unifyLineEnds_append plain rest
      rw [List.singleton_append, List.singleton_append] at kept
      rw [kept, List.flatMap_cons, List.flatMap_cons,
        unifyLineEnds_append (return_notMem_escapeChar different), ih]
  | case4 => rfl

-----------------------------------------------------------------------------------------
-- Reading escaped texts
-----------------------------------------------------------------------------------------

section Read

variable {literal : Char → Char}

/-- A reference is read as the character that it stands for.
-/
theorem readChars_reference {name : String} {c : Char} (known : (name, c) ∈ references)
    (rest : List Char)
    : readChars literal none ('&' :: (name.toList ++ ';' :: rest))
      = (c :: ·) <$> readChars literal none rest := by
  simp only [references, List.mem_cons, Prod.mk.injEq, List.not_mem_nil, or_false] at known
  rcases known with ⟨rfl, rfl⟩ | ⟨rfl, rfl⟩ | ⟨rfl, rfl⟩ | ⟨rfl, rfl⟩ | ⟨rfl, rfl⟩
  · rfl
  · rfl
  · rfl
  · rfl
  · rfl

/-- What is written for a character is read as the character, or as what stands literally for it.
-/
theorem readChars_escapeChar (fixed : ∀ reference ∈ references, literal reference.2 = reference.2)
    (c : Char) (rest : List Char)
    : readChars literal none (escapeChar c ++ rest)
      = (literal c :: ·) <$> readChars literal none rest := by
  rcases escapeChar_cases c with ⟨name, known, written⟩ | ⟨plain, written⟩
  · rw [written, List.cons_append, List.append_assoc, fixed _ known]
    exact readChars_reference known rest
  · have different : c ≠ '&' := fun same => plain (by simp [same])
    rw [written, List.singleton_append, readChars, if_neg different]

/-- Escaped characters are read as what stands literally for them.
-/
theorem readChars_flatMap_escapeChar
    (fixed : ∀ reference ∈ references, literal reference.2 = reference.2) (text : List Char)
    : readChars literal none (text.flatMap escapeChar) = some (text.map literal) := by
  induction text with
  | nil => rfl
  | cons c rest ih =>
      rw [List.flatMap_cons, readChars_escapeChar fixed, ih]
      rfl

end Read

/-- The characters of an escaped text.
-/
theorem escape_toList (text : String) : (escape text).toList = text.toList.flatMap escapeChar := by
  rw [escape, String.toList_ofList]

/-- Between tags an escaped text is read with its ends of lines unified.
-/
theorem readText?_escape (text : String) : readText? (escape text) = some (unified text) := by
  rw [readText?, escape_toList, unifyLineEnds_flatMap_escapeChar,
    readChars_flatMap_escapeChar (fun _ _ => rfl), List.map_id]
  rfl

/-- In a value an escaped text is read on one line, with spaces as its only blanks.
-/
theorem readValue?_escape (text : String) : readValue? (escape text) = some (flattened text) := by
  rw [readValue?, escape_toList, unifyLineEnds_flatMap_escapeChar,
    readChars_flatMap_escapeChar (by decide)]
  rfl

/-- A text is flattened to itself exactly when all its blanks are spaces.
-/
theorem flattened_eq_self_iff {text : String}
    : flattened text = text ↔ ∀ c ∈ text.toList, c ∉ blanks := by
  constructor
  · intro same c member blank
    rw [← same, flattened, String.toList_ofList] at member
    obtain ⟨d, _, rfl⟩ := List.mem_map.mp member
    rw [asSpace] at blank
    split at blank
    · exact absurd blank (by decide)
    · contradiction
  · intro plain
    have ends : unifyLineEnds text.toList = text.toList := by
      have unreturned : ∀ c ∈ text.toList, c ≠ '\r' :=
        fun c member same => plain c member (by simp [same, blanks])
      have kept := unifyLineEnds_append unreturned []
      rwa [List.append_nil, unifyLineEnds, List.append_nil] at kept
    have spaces : text.toList.map asSpace = text.toList.map id :=
      List.map_congr_left fun c member => if_neg (plain c member)
    rw [flattened, ends, spaces, List.map_id, String.ofList_toList]

-----------------------------------------------------------------------------------------
-- Legal texts
-----------------------------------------------------------------------------------------

/-- No characters are legal.
-/
@[simp]
theorem legalChars_nil : LegalChars [] :=
  List.forall_mem_nil _

/-- Characters are legal one by one.
-/
@[simp]
theorem legalChars_cons {c : Char} {rest : List Char}
    : LegalChars (c :: rest) ↔ isDocumentChar c = true ∧ LegalChars rest :=
  List.forall_mem_cons

/-- Characters in a row are legal when the first and the last of them are.
-/
@[simp]
theorem legalChars_append {first rest : List Char}
    : LegalChars (first ++ rest) ↔ LegalChars first ∧ LegalChars rest :=
  List.forall_mem_append

/-- A text is legal exactly when it is legal as it is written.
-/
theorem legal_escape_iff {text : String} : Legal (escape text) ↔ Legal text := by
  have chars (c : Char) : LegalChars (escapeChar c) ↔ isDocumentChar c = true := by
    rcases escapeChar_cases c with ⟨name, known, written⟩ | ⟨_, written⟩
    · have checked : (references.all fun reference =>
          isDocumentChar reference.2 && (escapeChar reference.2).all isDocumentChar) = true := by
        decide
      have both := Bool.and_eq_true_iff.mp (List.all_eq_true.mp checked _ known)
      exact iff_of_true (List.all_eq_true.mp both.2) both.1
    · simp [written]
  simp only [LegalChars] at chars
  simp only [Legal, LegalChars, escape_toList, List.forall_mem_flatMap, chars]

/-- Texts in a row are legal when each of them is.
-/
@[simp]
theorem legal_append {first later : String}
    : Legal (first ++ later) ↔ Legal first ∧ Legal later := by
  rw [Legal, String.toList_append]
  exact legalChars_append

end Tablewright.Xml
