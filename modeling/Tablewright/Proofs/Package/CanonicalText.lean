import Tablewright.Package.Digest
import Tablewright.Proofs.Indexes
import Tablewright.Proofs.Json.Reading
import Tablewright.Proofs.Text.ByteOrder

/-! The text that a package is known by: the compact JSON of its documents by their paths. It is read
back as that mapping, so packages of different documents are hashed from different bytes.
-/

namespace Tablewright

-----------------------------------------------------------------------------------------
-- The compact text of a mapping
-----------------------------------------------------------------------------------------

namespace Json

/-- The text of one member of a mapping.
-/
def memberText (member : String × Value) : List Char :=
  writeText member.1 ++ ':' :: member.2.compact

/-- The text of the members of a mapping: commas stand between them, and a brace at their end.
-/
theorem compactMembers_true (members : List (String × Value))
    : compactMembers true members = [','].intercalate (members.map memberText) ++ ['\x7d'] := by
  induction members with
  | nil => rfl
  | cons member members ih =>
      cases members with
      | nil => simp [compactMembers, memberText]
      | cons next members =>
          have comma : compactMembers false (next :: members)
              = ',' :: compactMembers true (next :: members) :=
            rfl
          rw [compactMembers, comma, ih]
          simp [List.intercalate_cons_cons, memberText]

/-- A mapping of texts nests no deeper than itself.
-/
theorem check_members_of_texts {members : List (String × Value)}
    (texts : ∀ member ∈ members, ∃ text, member.2 = .text text) (room : Option Nat)
    : (membersDocument members).check room = .ok () := by
  induction members with
  | nil => rfl
  | cons member members ih =>
      obtain ⟨⟨text, same⟩, others⟩ := List.forall_mem_cons.mp texts
      obtain ⟨key, value⟩ := member
      cases same
      exact ih others

end Json

-----------------------------------------------------------------------------------------
-- The bytes of a package
-----------------------------------------------------------------------------------------

namespace Package

variable {package other : Package}

/-- The bytes whose hash is the digest of a package.
-/
def hashInput (package : Package) : List UInt8 :=
  package.canonicalText.toUTF8.data.toList

/-- The documents of a package are written exactly.
-/
theorem exact_toJson (package : Package) : package.toJson.IsExact := by
  refine Json.membersExact_iff.mpr fun member written => ?_
  obtain ⟨entry, _, rfl⟩ := List.mem_map.mp written
  trivial

/-- The documents of a package do not nest.
-/
theorem check_toJson (package : Package)
    : package.toJson.document.check Json.conventions.depth = .ok () := by
  refine Json.check_members_of_texts (fun member written => ?_) _
  obtain ⟨entry, _, rfl⟩ := List.mem_map.mp written
  exact ⟨entry.2, rfl⟩

/-- The text of a package is read back as the mapping of its documents.
-/
theorem parse_canonicalText (package : Package)
    : Json.parse package.canonicalText = .ok package.toJson :=
  Json.parse_render package.exact_toJson package.check_toJson

/-- Packages of the same value have the same documents.
-/
theorem documents_eq_of_toJson_eq (same : package.toJson = other.toJson)
    : package.documents = other.documents := by
  have entries := List.map_injective_iff.mpr
    (fun (one two : String × String) equal => by simpa [Prod.ext_iff] using equal)
    (Json.Value.mapping.inj same)
  exact Index.eq_of_get?_eq fun path => congrArg (List.lookup path) entries

/-- Packages that are hashed from the same bytes have the same documents.
-/
theorem documents_eq_of_hashInput_eq (same : package.hashInput = other.hashInput)
    : package.documents = other.documents := by
  have bytes : package.canonicalText.toUTF8 = other.canonicalText.toUTF8 :=
    ByteArray.ext (Array.toList_inj.mp same)
  have texts : package.canonicalText = other.canonicalText := String.toByteArray_inj.mp bytes
  have values : (.ok package.toJson : Decoded Json.Value) = .ok other.toJson := by
    rw [← parse_canonicalText, ← parse_canonicalText, texts]
  exact documents_eq_of_toJson_eq (Except.ok.inj values)

/-- The digest of a package is the hash of the bytes of a JSON text. That is the compact text of its
documents by their paths, with the paths in the order of their bytes; it is read back as
that mapping, and packages have the same bytes only if they have the same document at every
path.
-/
theorem hashInput_faithful (package : Package)
    : package.digest = Sha256.hash package.hashInput
      ∧ package.canonicalText.toList
        = '\x7b'
          :: ([','].intercalate (package.documents.entries.map fun (path, text) =>
                Json.writeText path ++ ':' :: Json.writeText text)
              ++ ['\x7d'])
      ∧ (package.documents.entries.Pairwise fun one two =>
          Text.bytes one.1 < Text.bytes two.1)
      ∧ Json.parse package.canonicalText = .ok package.toJson
      ∧ ∀ other : Package,
          package.hashInput = other.hashInput ↔ ∀ path, package.get? path = other.get? path := by
  refine ⟨rfl, ?_, package.documents.ascending.imp Text.bytes_lt_bytes,
    package.parse_canonicalText, fun other => ⟨fun same path => ?_, fun same => ?_⟩⟩
  · rw [canonicalText, Json.Value.render, String.toList_ofList, toJson, Json.Value.compact,
      Json.compactMembers_true, List.map_map]
    rfl
  · rw [get?, get?, documents_eq_of_hashInput_eq same]
  · rw [hashInput, canonicalText, toJson, Index.eq_of_get?_eq same]
    rfl

end Package

end Tablewright
