import Mathlib.Data.Option.Basic
import ParticleShaders.Proofs.Dict
import ParticleShaders.Proofs.Usage.Order

namespace ParticleShaders

namespace Usage

instance : Std.Associative (· ∪ · : Usage → Usage → Usage) := ⟨union_assoc⟩

instance : Std.Commutative (· ∪ · : Usage → Usage → Usage) := ⟨union_comm⟩

theorem merge_assoc (x y z : Option Usage) :
    (x.merge (· ∪ ·) y).merge (· ∪ ·) z = x.merge (· ∪ ·) (y.merge (· ∪ ·) z) :=
  Std.Associative.assoc x y z

def unite? : List Usage → Option Usage
  | [] => .none
  | u :: rest => some (rest.foldl (· ∪ ·) u)

theorem foldl_union (u v : Usage) (rest : List Usage) :
    rest.foldl (· ∪ ·) (u ∪ v) = u ∪ rest.foldl (· ∪ ·) v :=
  List.foldl_assoc

theorem unite?_append (us vs : List Usage) :
    unite? (us ++ vs) = (unite? us).merge (· ∪ ·) (unite? vs) := by
  cases us with
  | nil => simp [unite?]
  | cons u us =>
    cases vs with
    | nil => simp [unite?]
    | cons v vs =>
      simp [unite?, foldl_union]

end Usage

namespace UsageTable

variable {t u v : UsageTable} {a b : Attribute} {use : Usage} {uses more : List (Attribute × Usage)}

def usesOf (uses : List (Attribute × Usage)) (a : Attribute) : List Usage :=
  (uses.filter (·.1 = a)).map (·.2)

theorem usesOf_append : usesOf (uses ++ more) a = usesOf uses a ++ usesOf more a := by
  rw [usesOf, List.filter_append, List.map_append]
  rfl

theorem lookup_join {entries : List (Attribute × Usage)} : (join b use entries).lookup a =
    if a = b then (entries.lookup b).merge (· ∪ ·) (some use) else entries.lookup a := by
  induction entries with
  | nil => by_cases same : a = b <;> simp [join, List.lookup_cons, same, beq_eq_false_iff_ne.2]
  | cons e rest ih =>
    obtain ⟨c, w⟩ := e
    unfold join
    split
    · next known =>
      obtain rfl : c = b := known
      by_cases same : a = c
      · simp [same]
      · simp [List.lookup_cons, same, beq_eq_false_iff_ne.2 same]
    · next other =>
      have other : b ≠ c := fun same => other same.symm
      by_cases same : a = c
      · subst same
        simp [other.symm]
      · simp [List.lookup_cons, ih, beq_eq_false_iff_ne.2 same, beq_eq_false_iff_ne.2 other]

theorem find?_add (t : UsageTable) : (t.add b use).find? a =
    if a = b then (t.find? b).merge (· ∪ ·) (some use) else t.find? a :=
  lookup_join

theorem find?_addAll (t : UsageTable) (uses : List (Attribute × Usage)) (a : Attribute) :
    (t.addAll uses).find? a = (t.find? a).merge (· ∪ ·) (Usage.unite? (usesOf uses a)) := by
  induction uses using List.reverseRecOn with
  | nil => simp [addAll, usesOf, Usage.unite?]
  | append_singleton uses use ih =>
    obtain ⟨b, use⟩ := use
    have last : t.addAll (uses ++ [(b, use)]) = (t.addAll uses).add b use := addAll_append ..
    rw [last, find?_add, usesOf_append, Usage.unite?_append]
    by_cases same : a = b
    · subst same
      have one : Usage.unite? (usesOf [(a, use)] a) = some use := by simp [usesOf, Usage.unite?]
      rw [if_pos rfl, ih, Usage.merge_assoc, one]
    · have none : usesOf [(b, use)] a = [] := by simp [usesOf, Ne.symm same]
      rw [if_neg same, ih, none]
      simp [Usage.unite?]

theorem mem_attributes_iff : a ∈ t.attributes ↔ (t.find? a).isSome := by
  simp [attributes, find?, List.lookup_isSome_iff]

theorem entries_eq (t : UsageTable) :
    t.entries = t.attributes.map fun a => (a, (t.find? a).getD .none) := by
  have same : ∀ e ∈ t.entries, (e.1, (t.find? e.1).getD .none) = e := fun e he => by
    rw [find?, (lookup_eq_some_iff_mem t.distinct).2 he]
    rfl
  rw [attributes, List.map_map]
  exact ((List.map_congr_left same).trans (List.map_id _)).symm

theorem ext_find? (order : t.attributes = u.attributes) (same : ∀ a, t.find? a = u.find? a) :
    t = u := by
  refine ext ?_
  rw [t.entries_eq, u.entries_eq, order]
  simp only [same]

theorem find?_empty (a : Attribute) : (∅ : UsageTable).find? a = none := rfl

theorem attributes_made (uses : List (Attribute × Usage)) :
    (addAll ∅ uses).attributes = (uses.map (·.1)).eraseDups :=
  attributes_addAll ∅ uses

theorem mem_attributes_made : a ∈ (addAll ∅ uses).attributes ↔ a ∈ uses.map (·.1) := by
  rw [attributes_made, List.mem_eraseDups]

theorem join_of_not_mem {entries : List (Attribute × Usage)} (fresh : a ∉ entries.map (·.1)) :
    join a use entries = entries ++ [(a, use)] := by
  induction entries with
  | nil => rfl
  | cons e rest ih =>
    rw [List.map_cons, List.mem_cons, not_or] at fresh
    rw [join, if_neg fun same => fresh.1 same.symm, ih fresh.2, List.cons_append]

theorem addAll_entries (t : UsageTable) : addAll ∅ t.entries = t := by
  suffices ∀ entries : List (Attribute × Usage), (entries.map (·.1)).Nodup →
      (addAll ∅ entries).entries = entries from ext (this _ t.distinct)
  intro entries distinct
  induction entries using List.reverseRecOn with
  | nil => rfl
  | append_singleton before use ih =>
    rw [List.map_append, List.nodup_append] at distinct
    obtain ⟨distinct, -, fresh⟩ := distinct
    have fresh : use.1 ∉ before.map (·.1) := fun mem => fresh _ mem _ (by simp) rfl
    rw [addAll_append]
    change join use.1 use.2 (addAll ∅ before).entries = _
    rw [ih distinct, join_of_not_mem fresh]

theorem find?_merge (t u : UsageTable) (a : Attribute) :
    (t.merge u).find? a = (t.find? a).merge (· ∪ ·) (u.find? a) := by
  have own := find?_addAll ∅ u.entries a
  rw [addAll_entries, find?_empty, Option.merge_none_left] at own
  rw [merge, find?_addAll, own]

theorem merge_assoc (t u v : UsageTable) : (t.merge u).merge v = t.merge (u.merge v) := by
  refine ext_find? ?_ fun a => ?_
  · rw [attributes_merge, attributes_merge, attributes_merge, attributes_merge,
      eraseDups_append_left, eraseDups_append_right, List.append_assoc]
  · simp only [find?_merge, Usage.merge_assoc]

theorem empty_merge (t : UsageTable) : merge ∅ t = t := t.addAll_entries

theorem merge_empty (t : UsageTable) : t.merge ∅ = t := rfl

theorem find?_merge_comm (t u : UsageTable) (a : Attribute) :
    (t.merge u).find? a = (u.merge t).find? a := by
  rw [find?_merge, find?_merge]
  exact Std.Commutative.comm ..

theorem addAll_eq_merge (t : UsageTable) (uses : List (Attribute × Usage)) :
    t.addAll uses = t.merge (addAll ∅ uses) := by
  refine ext_find? ?_ fun a => ?_
  · rw [attributes_merge, attributes_addAll, attributes_addAll]
    exact (eraseDups_append_right ..).symm
  · rw [find?_merge, find?_addAll, find?_addAll, find?_empty, Option.merge_none_left]

theorem ofBlocks_append (stage : Stage) (xs ys : List BoundBlock) :
    ofBlocks stage (xs ++ ys) = (ofBlocks stage xs).merge (ofBlocks stage ys) := by
  rw [ofBlocks, List.flatMap_append, addAll_append, addAll_eq_merge]
  rfl

end UsageTable

end ParticleShaders
