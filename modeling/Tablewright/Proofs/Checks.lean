import Mathlib.Data.List.Forall2
import Mathlib.Data.List.Nodup
import Mathlib.Data.List.Pairwise

/-! Checks of lists, one element after the other: what it takes for all of them to succeed, and for
names never to repeat.
-/

namespace Tablewright

variable {ε α β γ : Type}

/-- Two checks in a row succeed when the first one does and the second one does with its result.
-/
theorem bind_eq_ok_iff {first : Except ε α} {next : α → Except ε β} {result : β}
    : first >>= next = .ok result ↔ ∃ found, first = .ok found ∧ next found = .ok result := by
  cases first with
  | error cause =>
      constructor
      · intro failed
        cases failed
      · intro succeeds
        obtain ⟨_, impossible, _⟩ := succeeds
        cases impossible
  | ok found =>
      constructor
      · exact fun succeeds => ⟨found, rfl, succeeds⟩
      · intro parts
        obtain ⟨_, same, succeeds⟩ := parts
        cases same
        exact succeeds

/-- A check that gives nothing and whatever follows it succeed when both do.
-/
theorem check_bind_eq_ok_iff {check : Except ε Unit} {next : Unit → Except ε β} {result : β}
    : check >>= next = .ok result ↔ check = .ok () ∧ next () = .ok result := by
  rw [bind_eq_ok_iff]
  exact ⟨fun ⟨(), passes, succeeds⟩ => ⟨passes, succeeds⟩,
    fun ⟨passes, succeeds⟩ => ⟨(), passes, succeeds⟩⟩

/-- Two checks in a row fail when the first one does, or the second one does with its result.
-/
theorem bind_eq_error_iff {first : Except ε α} {next : α → Except ε β} {cause : ε}
    : first >>= next = .error cause
      ↔ first = .error cause ∨ ∃ found, first = .ok found ∧ next found = .error cause := by
  cases first with
  | error other =>
      constructor
      · intro fails
        cases fails
        exact .inl rfl
      · intro parts
        rcases parts with same | ⟨_, impossible, _⟩
        · cases same
          rfl
        · cases impossible
  | ok found =>
      constructor
      · exact fun fails => .inr ⟨found, rfl, fails⟩
      · intro parts
        rcases parts with impossible | ⟨_, same, fails⟩
        · cases impossible
        · cases same
          exact fails

/-- A check whose result is turned into another one succeeds when it does.
-/
theorem map_eq_ok_iff {check : Except ε α} {turn : α → β} {result : β}
    : check.map turn = .ok result ↔ ∃ found, check = .ok found ∧ turn found = result := by
  cases check <;> simp [Except.map]

/-- A returned result is that result.
-/
@[simp]
theorem pure_eq_ok_iff {found result : α}
    : (pure found : Except ε α) = .ok result ↔ found = result :=
  ⟨Except.ok.inj, congrArg Except.ok⟩

/-- A list has a partner for each of its elements exactly when each of them has one.
-/
theorem exists_forall₂_iff {Partner : α → β → Prop} {list : List α}
    : (∃ partners, List.Forall₂ Partner list partners)
      ↔ ∀ element ∈ list, ∃ partner, Partner element partner := by
  induction list with
  | nil => simp
  | cons head rest ih =>
      rw [List.forall_mem_cons, ← ih]
      constructor
      · intro matching
        obtain ⟨partners, matched⟩ := matching
        cases matched with
        | cons first others => exact ⟨⟨_, first⟩, ⟨_, others⟩⟩
      · intro partnered
        obtain ⟨⟨partner, first⟩, ⟨partners, others⟩⟩ := partnered
        exact ⟨partner :: partners, .cons first others⟩

/-- Where lists are matched, every element of the second one is the partner of one of the first.
-/
theorem exists_mem_of_forall₂ {Partner : α → β → Prop} {list : List α} {partners : List β}
    (matched : List.Forall₂ Partner list partners) {partner : β} (member : partner ∈ partners)
    : ∃ element ∈ list, Partner element partner := by
  induction matched with
  | nil => exact absurd member List.not_mem_nil
  | cons first _ ih =>
      rcases List.mem_cons.mp member with same | later
      · exact ⟨_, List.mem_cons_self, same ▸ first⟩
      · obtain ⟨element, there, partnered⟩ := ih later
        exact ⟨element, List.mem_cons_of_mem _ there, partnered⟩

/-- Where lists are matched, what partners turn into alike the lists turn into alike.
-/
theorem flatMap_eq_of_forall₂ {Partner : α → β → Prop} {list : List α} {partners : List β}
    (matched : List.Forall₂ Partner list partners) {f : α → List γ} {g : β → List γ}
    (alike : ∀ element partner, Partner element partner → g partner = f element)
    : partners.flatMap g = list.flatMap f := by
  induction matched with
  | nil => rfl
  | cons first _ ih => rw [List.flatMap_cons, List.flatMap_cons, alike _ _ first, ih]

/-- The same for what partners may turn into.
-/
theorem filterMap_eq_of_forall₂ {Partner : α → β → Prop} {list : List α} {partners : List β}
    (matched : List.Forall₂ Partner list partners) {f : α → Option γ} {g : β → Option γ}
    (alike : ∀ element partner, Partner element partner → g partner = f element)
    : partners.filterMap g = list.filterMap f := by
  rw [List.filterMap_eq_flatMap_toList, List.filterMap_eq_flatMap_toList]
  exact flatMap_eq_of_forall₂ matched fun element partner partnered =>
    congrArg Option.toList (alike element partner partnered)

/-- The same for the one thing that each partner turns into.
-/
theorem map_eq_of_forall₂ {Partner : α → β → Prop} {list : List α} {partners : List β}
    (matched : List.Forall₂ Partner list partners) {f : α → γ} {g : β → γ}
    (alike : ∀ element partner, Partner element partner → g partner = f element)
    : partners.map g = list.map f := by
  rw [List.map_eq_flatMap, List.map_eq_flatMap]
  exact flatMap_eq_of_forall₂ matched fun element partner partnered =>
    congrArg (fun made => [made]) (alike element partner partnered)

/-- Among elements with distinct keys, the one found under a key is the one that has it.
-/
theorem find?_key_eq_some_iff [BEq β] [LawfulBEq β] {key : α → β} {list : List α}
    (distinct : (list.map key).Nodup) {wanted : β} {element : α}
    : list.find? (fun other => key other == wanted) = some element
      ↔ element ∈ list ∧ key element = wanted := by
  constructor
  · intro found
    exact ⟨List.mem_of_find?_eq_some found, by simpa using List.find?_some found⟩
  · intro present
    obtain ⟨member, rfl⟩ := present
    cases found : list.find? fun other => key other == key element with
    | none => simpa using List.find?_eq_none.mp found element member
    | some other =>
        have same : key other = key element := by simpa using List.find?_some found
        rw [List.inj_on_of_nodup_map distinct (List.mem_of_find?_eq_some found) member same]

/-- Among elements with distinct keys, one alone has the key of an element.
-/
theorem filter_key_eq_singleton [BEq β] [LawfulBEq β] {key : α → β} {list : List α}
    (distinct : (list.map key).Nodup) {element : α} (member : element ∈ list)
    : list.filter (fun other => key other == key element) = [element] := by
  have once := (List.Nodup.of_map _ distinct).filter fun other => key other == key element
  refine List.perm_singleton.mp
    ((List.perm_ext_iff_of_nodup once (List.nodup_singleton element)).mpr fun other => ?_)
  rw [List.mem_filter, beq_iff_eq, List.mem_singleton]
  constructor
  · intro found
    exact List.inj_on_of_nodup_map distinct found.1 member found.2
  · rintro rfl
    exact ⟨member, rfl⟩

/-- What is found under a key does not depend on the order of elements with distinct keys.
-/
theorem find?_key_eq_of_perm [BEq β] [LawfulBEq β] {key : α → β} {list other : List α}
    (distinct : (list.map key).Nodup) (same : list.Perm other) (wanted : β)
    : list.find? (fun element => key element == wanted)
      = other.find? fun element => key element == wanted := by
  refine Option.ext fun element => ?_
  rw [find?_key_eq_some_iff distinct,
    find?_key_eq_some_iff ((same.map key).nodup_iff.mp distinct), same.mem_iff]

/-- Lists of which one at most has elements can be joined in any order.
-/
theorem flatMap_eq_of_perm {f : α → List β} {list other : List α} (same : list.Perm other)
    (single : ∀ a ∈ list, ∀ b ∈ list, f a ≠ [] → f b ≠ [] → a = b)
    : list.flatMap f = other.flatMap f := by
  induction same with
  | nil => rfl
  | cons a _ ih =>
      rw [List.flatMap_cons, List.flatMap_cons,
        ih fun b there c too => single b (.tail _ there) c (.tail _ too)]
  | swap a b rest =>
      rw [List.flatMap_cons, List.flatMap_cons, List.flatMap_cons, List.flatMap_cons,
        ← List.append_assoc, ← List.append_assoc]
      by_cases first : f a = []
      · rw [first, List.append_nil, List.nil_append]
      · by_cases second : f b = []
        · rw [second, List.append_nil, List.nil_append]
        · rw [single a (.tail _ (.head _)) b (.head _) first second]
  | trans before _ ih later =>
      exact (ih single).trans (later fun a there b too =>
        single a (before.mem_iff.mpr there) b (before.mem_iff.mpr too))

/-- Lists from distinct elements have distinct elements together when each has, and no two of them
have one in common.
-/
theorem flatMap_nodup_iff {list : List α} (distinct : list.Nodup) {f : α → List β}
    : (list.flatMap f).Nodup
      ↔ (∀ element ∈ list, (f element).Nodup)
        ∧ ∀ element ∈ list, ∀ other ∈ list,
            element ≠ other → (f element).Disjoint (f other) := by
  have symmetric : Std.Symm (Function.onFun List.Disjoint f) := ⟨fun _ _ => List.disjoint_symm⟩
  rw [List.nodup_flatMap]
  exact and_congr_right fun _ =>
    ⟨fun apart _ here _ there => apart.forall here there, distinct.pairwise_of_forall_ne⟩

/-- Names that are distinct and none of which has been seen before.
-/
def Fresh (seen names : List α) : Prop :=
  names.Nodup ∧ ∀ name ∈ names, name ∉ seen

/-- No names are always fresh.
-/
@[simp]
theorem fresh_nil {seen : List α} : Fresh seen [] :=
  ⟨List.nodup_nil, by simp⟩

/-- When nothing has been seen, fresh names are distinct names.
-/
@[simp]
theorem fresh_nil_left {names : List α} : Fresh [] names ↔ names.Nodup := by
  simp [Fresh]

/-- Names are fresh when the first one is and the others are after it has been seen.
-/
theorem fresh_cons_iff {seen names : List α} {name : α}
    : Fresh seen (name :: names) ↔ name ∉ seen ∧ Fresh (name :: seen) names := by
  simp only [Fresh, List.nodup_cons, List.mem_cons, forall_eq_or_imp, not_or]
  constructor
  · intro fresh
    obtain ⟨⟨absent, distinct⟩, new, others⟩ := fresh
    exact ⟨new, distinct, fun other member =>
      ⟨fun same => absent (same ▸ member), others other member⟩⟩
  · intro fresh
    obtain ⟨new, distinct, others⟩ := fresh
    exact ⟨⟨fun member => (others name member).1 rfl, distinct⟩, new,
      fun other member => (others other member).2⟩

/-- A name that has been seen and comes again is there twice.
-/
theorem two_le_count_of_mem [BEq α] [LawfulBEq α] {seen names : List α} {name : α}
    (member : name ∈ seen)
    : 2 ≤ (seen ++ name :: names).count name := by
  have once := List.count_pos_iff.mpr member
  rw [List.count_append, List.count_cons_self]
  omega

/-- A name that is there twice once another has been seen is there twice when that one is listed.
-/
theorem two_le_count_of_seen [BEq α] [LawfulBEq α] {seen names : List α} {name other : α}
    (twice : 2 ≤ (name :: seen ++ names).count other)
    : 2 ≤ (seen ++ name :: names).count other :=
  List.perm_middle.count_eq other ▸ twice

/-- Whether names are fresh does not depend on the order of those seen.
-/
theorem fresh_congr {seen other names : List α} (same : ∀ name, name ∈ seen ↔ name ∈ other)
    : Fresh seen names ↔ Fresh other names := by
  simp only [Fresh, same]

end Tablewright
