import Mathlib.Data.List.Basic
import Mathlib.Data.Set.Card
import ParticleShaders.Blueprint
import ParticleShaders.Proofs.Param.Numbering
import ParticleShaders.Proofs.Usage.Grants

namespace ParticleShaders

theorem nodup_eraseDups {α : Type} [DecidableEq α] : ∀ xs : List α, xs.eraseDups.Nodup
  | [] => List.nodup_nil
  | x :: xs => by
    have shorter := List.length_filter_le (fun y => !y == x) xs
    rw [List.eraseDups_cons, List.nodup_cons]
    exact ⟨by simp, nodup_eraseDups _⟩
termination_by xs => xs.length

namespace UsageTable

variable {t : UsageTable} {limit : Nat} {buffers : List Buffer} {a : Attribute} {u : Usage}
  {b c : Buffer}

theorem mem_members : a ∈ t.members u ↔ (a, u) ∈ t.entries := by
  simp [members]

theorem mem_usages : u ∈ t.usages ↔ ∃ a, (a, u) ∈ t.entries := by
  simp [usages]

theorem pack_eq_ok (h : t.pack limit = .ok buffers) :
    buffers = t.usages.mapIdx fun i u => ⟨i, u, t.members u⟩ := by
  unfold pack at h
  split at h
  · cases h
  · exact (Except.ok.inj h).symm

section Buffers

variable (h : t.pack limit = .ok buffers)

include h

theorem getElem?_pack {n : Nat} : buffers[n]? = some b ↔
    t.usages[n]? = some b.usage ∧ b.index = n ∧ b.attributes = t.members b.usage := by
  rw [pack_eq_ok h, List.getElem?_mapIdx, Option.map_eq_some_iff]
  constructor
  · rintro ⟨u, found, rfl⟩
    exact ⟨found, rfl, rfl⟩
  · rintro ⟨found, rfl, members⟩
    exact ⟨_, found, by rw [← members]⟩

theorem getElem?_index (hb : b ∈ buffers) : buffers[b.index]? = some b := by
  obtain ⟨n, found⟩ := List.mem_iff_getElem?.1 hb
  rw [((getElem?_pack h).1 found).2.1]
  exact found

theorem exists_index_iff {n : Nat} {p : Buffer → Prop} (found : buffers[n]? = some b) :
    (∃ c ∈ buffers, c.index = n ∧ p c) ↔ p b := by
  constructor
  · rintro ⟨c, hc, rfl, holds⟩
    rw [getElem?_index h hc] at found
    rwa [← Option.some.inj found]
  · intro holds
    exact ⟨b, List.mem_of_getElem? found, ((getElem?_pack h).1 found).2.1, holds⟩

theorem mem_attributes_buffer (hb : b ∈ buffers) : a ∈ b.attributes ↔ (a, b.usage) ∈ t.entries := by
  obtain ⟨-, -, members⟩ := (getElem?_pack h).1 (getElem?_index h hb)
  rw [members, mem_members]

theorem exists_mem_buffer (hb : b ∈ buffers) : ∃ a, a ∈ b.attributes := by
  obtain ⟨found, -, members⟩ := (getElem?_pack h).1 (getElem?_index h hb)
  obtain ⟨a, mem⟩ := mem_usages.1 (List.mem_of_getElem? found)
  exact ⟨a, members ▸ mem_members.2 mem⟩

theorem exists_buffer_iff : (∃ b ∈ buffers, a ∈ b.attributes) ↔ a ∈ t.attributes := by
  constructor
  · rintro ⟨b, hb, ha⟩
    exact List.mem_map.2 ⟨_, (mem_attributes_buffer h hb).1 ha, rfl⟩
  · intro ha
    obtain ⟨⟨_, u⟩, mem, rfl⟩ := List.mem_map.1 ha
    obtain ⟨n, found⟩ := List.mem_iff_getElem?.1 (mem_usages.2 ⟨_, mem⟩)
    have packed : buffers[n]? = some ⟨n, u, t.members u⟩ :=
      (getElem?_pack h).2 ⟨found, rfl, rfl⟩
    exact ⟨_, List.mem_of_getElem? packed, mem_members.2 mem⟩

theorem grants_iff_of_mem_buffer {x : Access} (hb : b ∈ buffers) (ha : a ∈ b.attributes) :
    Grants t.entries x a ↔ b.usage.grants x :=
  grants_iff_of_mem ((mem_attributes_buffer h hb).1 ha)

theorem buffer_unique (hb : b ∈ buffers) (hc : c ∈ buffers) (ha : a ∈ b.attributes)
    (ha' : a ∈ c.attributes) : b = c := by
  have alike : b.usage = c.usage := Usage.eq_of_grants fun x => by
    rw [Bool.eq_iff_iff, ← grants_iff_of_mem_buffer h hb ha, grants_iff_of_mem_buffer h hc ha']
  obtain ⟨found, -, members⟩ := (getElem?_pack h).1 (getElem?_index h hb)
  obtain ⟨found', -, members'⟩ := (getElem?_pack h).1 (getElem?_index h hc)
  -- Usages are listed once, so two buffers of one usage have one number.
  have index : b.index = c.index := by
    have bound := (List.getElem?_eq_some_iff.1 found).1
    exact List.getElem?_inj bound (nodup_eraseDups _) |>.1 (found.trans (alike ▸ found'.symm))
  cases b
  cases c
  simp_all

end Buffers

theorem conflict?_eq_none_iff {seen rest : List Attribute} : conflict? seen rest = none ↔
    (rest.map (·.name)).Nodup ∧ ∀ a ∈ seen, ∀ b ∈ rest, a.name ≠ b.name := by
  induction rest generalizing seen with
  | nil => simp [conflict?]
  | cons c rest ih =>
    unfold conflict?
    split
    · next first found =>
      have mem := List.mem_of_find?_eq_some found
      have same : first.name = c.name := by simpa using List.find?_some found
      simp only [reduceCtorEq, false_iff, not_and]
      exact fun _ apart => apart first mem c List.mem_cons_self same
    · next fresh =>
      have fresh : ∀ a ∈ seen, a.name ≠ c.name := by
        simpa using List.find?_eq_none.1 fresh
      rw [ih]
      simp only [List.map_cons, List.nodup_cons, List.mem_map, List.mem_cons]
      grind

theorem checkNames_eq_ok_iff : t.checkNames = .ok () ↔
    ∀ a ∈ t.attributes, ∀ b ∈ t.attributes, a.name = b.name → a = b := by
  have sound : t.checkNames = .ok () ↔ (t.attributes.map (·.name)).Nodup := by
    unfold checkNames
    split
    · next conflict =>
      refine ⟨nofun, fun distinct => ?_⟩
      have none : conflict? [] t.attributes = none :=
        conflict?_eq_none_iff.2 ⟨distinct, by simp⟩
      rw [conflict] at none
      cases none
    · next none => exact ⟨fun _ => (conflict?_eq_none_iff.1 none).1, fun _ => rfl⟩
  rw [sound]
  constructor
  · exact fun distinct a ha b hb same => List.inj_on_of_nodup_map distinct ha hb same
  · exact fun inj => t.distinct.map_on fun a ha b hb => inj a ha b hb

theorem eq_of_name_eq (h : t.checkNames = .ok ()) {a b : Attribute} (ha : a ∈ t.attributes)
    (hb : b ∈ t.attributes) (same : a.name = b.name) : a = b :=
  checkNames_eq_ok_iff.1 h a ha b hb same

theorem exists_pack_eq_ok_iff :
    (∃ buffers, t.pack limit = .ok buffers) ↔ t.usages.length ≤ limit := by
  unfold pack
  split <;> simp <;> omega

theorem ncard_usages {us : Set Usage} (h : ∀ u, u ∈ us ↔ u ∈ t.usages) :
    us.ncard = t.usages.length := by
  have listed : us = t.usages.toFinset := by
    ext u
    simp [h]
  have distinct : t.usages.Nodup := nodup_eraseDups _
  rw [listed, Set.ncard_coe_finset, List.toFinset_card_of_nodup distinct]

end UsageTable

namespace Blueprint

variable {d : Blueprint} {a b : Attribute} {buffer : Buffer}

theorem bufferOf?_isSome : d.holds a ↔ ∃ b ∈ d.buffers, a ∈ b.attributes := by
  simp [holds, bufferOf?]

def memberOf (buffer : Buffer) (a : Attribute) : String :=
  "attrib" ++ toString buffer.index ++ "." ++ a.name

theorem dropWhile_digits (n : Nat) (cs : List Char) :
    ((toString n).toList ++ '.' :: cs).dropWhile (· ≠ '.') = '.' :: cs := by
  have digits : ∀ c ∈ (toString n).toList, decide (c ≠ '.') := by
    intro c mem
    rw [decide_eq_true_eq]
    rintro rfl
    exact absurd (isDigit_of_mem_toString mem) (by decide)
  rw [List.dropWhile_append_of_pos digits]
  simp

theorem toList_memberOf (buffer : Buffer) (a : Attribute) : (memberOf buffer a).toList =
    "attrib".toList ++ ((toString buffer.index).toList ++ '.' :: a.name.toList) := by
  simp [memberOf]

theorem name_eq_of_memberOf_eq {c : Buffer} (h : memberOf buffer a = memberOf c b) :
    a.name = b.name := by
  have same := congrArg String.toList h
  rw [toList_memberOf, toList_memberOf, List.append_right_inj] at same
  have behind := congrArg (List.dropWhile (· ≠ '.')) same
  rw [dropWhile_digits, dropWhile_digits, List.cons_inj_right] at behind
  exact String.toList_inj.1 behind

theorem reference_eq_memberOf {t : UsageTable} {limit : Nat} (h : t.pack limit = .ok d.buffers)
    (hb : buffer ∈ d.buffers) (ha : a ∈ buffer.attributes) :
    d.reference a = memberOf buffer a := by
  unfold reference
  split
  · next c found =>
    have hc : c ∈ d.buffers := List.mem_reverse.1 (List.mem_of_find?_eq_some found)
    have holds := List.find?_some found
    rw [UsageTable.buffer_unique h hb hc ha (by simpa using holds)]
    rfl
  · next missing =>
    have absent := List.find?_eq_none.1 missing buffer (List.mem_reverse.2 hb)
    simp [ha] at absent

end Blueprint

end ParticleShaders
