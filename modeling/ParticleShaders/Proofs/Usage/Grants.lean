import Mathlib.Data.List.Nodup
import ParticleShaders.Generator.Need

namespace ParticleShaders

inductive Access
  | initRead
  | initWrite
  | updateRead
  | updateWrite
  | outputRead
  deriving DecidableEq, Repr

def Access.read : Stage → Access
  | .init => .initRead
  | .update => .updateRead
  | .output => .outputRead

namespace Usage

def grants (u : Usage) : Access → Bool
  | .initRead => u.initRead
  | .initWrite => u.initWrite
  | .updateRead => u.updateRead
  | .updateWrite => u.updateWrite
  | .outputRead => u.outputRead

@[simp] theorem grants_union (u v : Usage) (x : Access) :
    (u ∪ v).grants x = (u.grants x || v.grants x) := by
  cases x <;> rfl

theorem eq_of_grants {u v : Usage} (h : ∀ x, u.grants x = v.grants x) : u = v := by
  cases u
  cases v
  rw [Usage.mk.injEq]
  exact ⟨h .initRead, h .initWrite, h .updateRead, h .updateWrite, h .outputRead⟩

end Usage

namespace UsageTable

variable {x : Access} {a b : Attribute} {u : Usage}

def Grants (uses : List (Attribute × Usage)) (x : Access) (a : Attribute) : Prop :=
  ∃ u, (a, u) ∈ uses ∧ u.grants x

@[simp] theorem not_grants_nil : ¬ Grants [] x a := by
  rintro ⟨_, mem, _⟩
  cases mem

@[simp] theorem grants_cons {uses : List (Attribute × Usage)} :
    Grants ((b, u) :: uses) x a ↔ (a = b ∧ u.grants x) ∨ Grants uses x a := by
  simp only [Grants, List.mem_cons, Prod.mk.injEq, or_and_right, exists_or, and_assoc,
    exists_and_left, exists_eq_left]

@[simp] theorem grants_append {uses more : List (Attribute × Usage)} :
    Grants (uses ++ more) x a ↔ Grants uses x a ∨ Grants more x a := by
  simp only [Grants, List.mem_append, or_and_right, exists_or]

theorem grants_map_pair {attributes : List Attribute} :
    Grants (attributes.map (·, u)) x a ↔ a ∈ attributes ∧ u.grants x := by
  induction attributes with
  | nil => simp
  | cons c rest ih => rw [List.map_cons, grants_cons, ih, List.mem_cons, or_and_right]

theorem grants_join {entries : List (Attribute × Usage)} :
    Grants (join b u entries) x a ↔ Grants entries x a ∨ (a = b ∧ u.grants x) := by
  induction entries with
  | nil => simp [join]
  | cons e rest ih =>
    obtain ⟨c, v⟩ := e
    unfold join
    split
    · next same =>
      obtain rfl : c = b := same
      simp only [grants_cons, Usage.grants_union, Bool.or_eq_true, and_or_left]
      rw [or_assoc, or_assoc, or_comm (a := Grants rest x a)]
    · rw [grants_cons, ih, grants_cons, or_assoc]

variable {t : UsageTable} {uses : List (Attribute × Usage)}

theorem addAll_append (t : UsageTable) (uses more : List (Attribute × Usage)) :
    t.addAll (uses ++ more) = (t.addAll uses).addAll more := List.foldl_append

@[simp] theorem grants_addAll :
    Grants (t.addAll uses).entries x a ↔ Grants t.entries x a ∨ Grants uses x a := by
  induction uses generalizing t with
  | nil => simp [addAll]
  | cons use rest ih =>
    show Grants ((t.add use.1 use.2).addAll rest).entries x a ↔ _
    rw [ih, grants_cons, ← or_assoc]
    exact or_congr_left grants_join

@[simp] theorem mem_attributes_addAll :
    a ∈ (t.addAll uses).attributes ↔ a ∈ t.attributes ∨ a ∈ uses.map (·.1) := by
  induction uses generalizing t with
  | nil => simp [addAll]
  | cons use rest ih =>
    show a ∈ ((t.add use.1 use.2).addAll rest).attributes ↔ _
    rw [ih, attributes_add, List.map_cons, List.mem_cons, ← or_assoc]
    apply or_congr_left
    split
    · next known => exact ⟨.inl, (·.elim id (· ▸ known))⟩
    · simp

@[simp] theorem grants_merge {other : UsageTable} :
    Grants (t.merge other).entries x a ↔ Grants t.entries x a ∨ Grants other.entries x a :=
  grants_addAll

@[simp] theorem mem_attributes_merge {other : UsageTable} :
    a ∈ (t.merge other).attributes ↔ a ∈ t.attributes ∨ a ∈ other.attributes :=
  mem_attributes_addAll

theorem mem_attributes_of_grants (h : Grants t.entries x a) : a ∈ t.attributes := by
  obtain ⟨u, mem, _⟩ := h
  exact List.mem_map.2 ⟨_, mem, rfl⟩

theorem grants_iff_of_mem (mem : (a, u) ∈ t.entries) : Grants t.entries x a ↔ u.grants x := by
  constructor
  · rintro ⟨v, other, granted⟩
    have same := List.inj_on_of_nodup_map t.distinct other mem rfl
    cases same
    exact granted
  · intro granted
    exact ⟨u, mem, granted⟩

theorem grants_ofBlocks {stage : Stage} {blocks : List BoundBlock} :
    Grants (ofBlocks stage blocks).entries x a ↔ ∃ b ∈ blocks, ∃ d ∈ b.descriptor.attributes,
      d.toAttribute = a ∧ (Usage.declared stage d.writable).grants x := by
  unfold ofBlocks
  rw [grants_addAll, or_iff_right (by exact not_grants_nil)]
  simp only [Grants, List.mem_flatMap, List.mem_map, Prod.mk.injEq]
  constructor
  · rintro ⟨_, ⟨b, hb, d, hd, rfl, rfl⟩, granted⟩
    exact ⟨b, hb, d, hd, rfl, granted⟩
  · rintro ⟨b, hb, d, hd, rfl, granted⟩
    exact ⟨_, ⟨b, hb, d, hd, rfl, rfl⟩, granted⟩

theorem mem_attributes_ofBlocks {stage : Stage} {blocks : List BoundBlock} :
    a ∈ (ofBlocks stage blocks).attributes ↔
      ∃ b ∈ blocks, ∃ d ∈ b.descriptor.attributes, d.toAttribute = a := by
  unfold ofBlocks
  rw [mem_attributes_addAll, or_iff_right (by exact List.not_mem_nil)]
  simp only [List.map_flatMap, List.map_map, List.mem_flatMap, List.mem_map, Function.comp_apply]

end UsageTable

end ParticleShaders
