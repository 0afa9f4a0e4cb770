import Mathlib.Data.List.Induction
import ParticleShaders.Proofs.Usage.ClosedForm

namespace ParticleShaders

section Repetitions

variable {α : Type} [DecidableEq α]

theorem eraseDups_concat (xs : List α) (x : α) :
    (xs ++ [x]).eraseDups = if x ∈ xs then xs.eraseDups else xs.eraseDups ++ [x] := by
  rw [List.eraseDups_append]
  split
  · next known => simp [List.removeAll, known]
  · next fresh => simp [List.removeAll, fresh, List.eraseDups_cons]

theorem eraseDups_of_nodup {xs : List α} (h : xs.Nodup) : xs.eraseDups = xs := by
  induction xs using List.reverseRecOn with
  | nil => rfl
  | append_singleton xs x ih =>
    obtain ⟨distinct, -, fresh⟩ := List.nodup_append.1 h
    have fresh : x ∉ xs := fun mem => fresh x mem x (List.mem_singleton_self x) rfl
    rw [eraseDups_concat, if_neg fresh, ih distinct]

theorem removeAll_congr {xs ys : List α} (zs : List α) (h : ∀ x, x ∈ xs ↔ x ∈ ys) :
    zs.removeAll xs = zs.removeAll ys := by
  unfold List.removeAll
  refine List.filter_congr fun z _ => ?_
  rw [Bool.eq_iff_iff]
  simp [h]

theorem eraseDups_append_left (xs ys : List α) :
    (xs.eraseDups ++ ys).eraseDups = (xs ++ ys).eraseDups := by
  rw [List.eraseDups_append, List.eraseDups_append, eraseDups_of_nodup (nodup_eraseDups xs),
    removeAll_congr ys fun _ => List.mem_eraseDups]

theorem eraseDups_append_right (xs ys : List α) :
    (xs ++ ys.eraseDups).eraseDups = (xs ++ ys).eraseDups := by
  induction ys using List.reverseRecOn with
  | nil => rfl
  | append_singleton ys y ih =>
    rw [eraseDups_concat, ← List.append_assoc, eraseDups_concat]
    split
    · next known => rw [ih, if_pos (List.mem_append_right _ known)]
    · rw [← List.append_assoc, eraseDups_concat, ih]
      simp only [List.mem_append, List.mem_eraseDups]

theorem eraseDups_append_of_subset {xs ys : List α} (zs : List α) (h : ∀ y ∈ ys, y ∈ xs) :
    (xs ++ ys ++ zs).eraseDups = (xs ++ zs).eraseDups := by
  have none : ys.removeAll xs = [] := by
    unfold List.removeAll
    simpa using h
  have same : ∀ x, x ∈ xs ++ ys ↔ x ∈ xs := fun x =>
    ⟨fun mem => (List.mem_append.1 mem).elim id (h x), List.mem_append_left ys⟩
  rw [List.eraseDups_append, List.eraseDups_append, none, removeAll_congr zs same,
    List.eraseDups_append]
  simp

end Repetitions

namespace UsageTable

variable {t : UsageTable} {uses : List (Attribute × Usage)}

theorem attributes_addAll (t : UsageTable) (uses : List (Attribute × Usage)) :
    (t.addAll uses).attributes = (t.attributes ++ uses.map (·.1)).eraseDups := by
  induction uses using List.reverseRecOn with
  | nil =>
    rw [List.map_nil, List.append_nil]
    exact (eraseDups_of_nodup t.distinct).symm
  | append_singleton uses use ih =>
    have last : t.addAll (uses ++ [use]) = (t.addAll uses).add use.1 use.2 := addAll_append ..
    rw [last, attributes_add, ih, List.map_append, ← List.append_assoc, List.map_singleton,
      eraseDups_concat]
    simp only [List.mem_eraseDups]

theorem attributes_addAll_of_subset (h : ∀ use ∈ uses, use.1 ∈ t.attributes) :
    (t.addAll uses).attributes = t.attributes := by
  have known : ∀ a ∈ uses.map (·.1), a ∈ t.attributes := by
    intro a ha
    obtain ⟨use, hu, rfl⟩ := List.mem_map.1 ha
    exact h use hu
  have left := eraseDups_append_of_subset [] known
  rw [List.append_nil, List.append_nil] at left
  rw [attributes_addAll, left]
  exact eraseDups_of_nodup t.distinct

theorem attributes_merge (t other : UsageTable) :
    (t.merge other).attributes = (t.attributes ++ other.attributes).eraseDups :=
  attributes_addAll t other.entries

end UsageTable

def declarations (blocks : List BoundBlock) : List Attribute :=
  blocks.flatMap fun b => b.descriptor.attributes.map (·.toAttribute)

theorem UsageTable.attributes_ofBlocks (stage : Stage) (blocks : List BoundBlock) :
    (ofBlocks stage blocks).attributes = (declarations blocks).eraseDups := by
  rw [ofBlocks, attributes_addAll, List.map_flatMap]
  simp only [List.map_map]
  rfl

namespace Need

variable {n : Need} {needs : List Need} {t t' : UsageTable} {stage : Stage}
  {taken : List Capability}

theorem attributes_addTo : (n.addTo t).attributes = (t.addAll n.uses).attributes := by
  refine UsageTable.attributes_addAll_of_subset fun use hu => ?_
  simpa [UsageTable.contains] using (List.mem_filter.1 hu).2

theorem attributes_meetAll (frugal : ∀ n ∈ needs, n.IsFrugal)
    (h : meetAll stage needs t = (t', .ok taken)) : t'.attributes = t.attributes := by
  have known := fun a => mem_attributes_meetAll (a := a) frugal h
  obtain ⟨rfl, -⟩ := meetAll_eq_ok (fun n hn => (frugal n hn).1) h
  refine UsageTable.attributes_addAll_of_subset fun use hu => (known use.1).1 ?_
  exact UsageTable.mem_attributes_addAll.2 (.inr (List.mem_map_of_mem hu))

end Need

def InitGenerator.brings (g : InitGenerator) : List Attribute :=
  if g.lifetime.isSome then [.lifetime, .age] else []

theorem InitGenerator.map_uses_needs (g : InitGenerator) :
    (g.needs.flatMap (·.uses)).map (·.1) = g.brings := by
  rw [Plan.uses_init_needs, brings]
  split <;> rfl

def ruleBrings (phaseShift random : Bool) : List Attribute :=
  (if phaseShift then [.phase] else []) ++ if random then [.seed] else []

namespace UsageTable

theorem eraseDups_ruleUses {attributes : List Attribute} {phaseShift : Bool} (random : Bool)
    (moved : phaseShift → ∀ a ∈ [Attribute.position, .velocity], a ∈ attributes) :
    (attributes ++ (ruleUses phaseShift random).map (·.1)).eraseDups
      = (attributes ++ ruleBrings phaseShift random).eraseDups := by
  have seed : (ruleUses false random).map (·.1) = ruleBrings false random := by
    cases random <;> rfl
  cases phaseShift with
  | false => rw [seed]
  | true =>
    have known : ∀ a ∈ [Attribute.position, .velocity], a ∈ attributes ++ [.phase] :=
      fun a ha => List.mem_append_left _ (moved rfl a ha)
    have left := eraseDups_append_of_subset (ruleBrings false random) known
    have shifted : (ruleUses true random).map (·.1)
        = [.phase] ++ ([.position, .velocity] ++ ruleBrings false random) :=
      congrArg (phaseShiftUses.map (·.1) ++ ·) seed
    rw [shifted, ← List.append_assoc, ← List.append_assoc, left, List.append_assoc]
    rfl

variable {t : UsageTable} {demands : Demands} {phaseShift : Bool} {ruled : Ruled}

theorem defaulted_applyDefaults (t : UsageTable) (demands : Demands) :
    (t.applyDefaults demands).defaulted = ((t.withRules false demands.rand).uninitialized.filter
      fun a => a ≠ .seed ∧ a ≠ .age).map (·.name) := by
  have seeded : (if demands.rand then t.add .seed (.init ∪ .update) else t)
      = t.withRules false demands.rand := by
    cases demands.rand <;> rfl
  rw [applyDefaults, seeded]

theorem defaulted_applyRules (h : t.applyRules demands phaseShift = .ok ruled) :
    ruled.defaulted
      = ((t.withRules phaseShift (phaseShift || demands.rand)).uninitialized.filter
          fun a => a ≠ .seed ∧ a ≠ .age).map (·.name) := by
  cases phaseShift with
  | false =>
    cases h
    exact defaulted_applyDefaults t demands
  | true =>
    simp only [applyRules, if_true] at h
    split at h
    · cases h
    · cases h
      exact defaulted_applyDefaults _ _

end UsageTable

namespace Plan

section

variable (plan : Plan) (phaseShift : Bool)

def order : List Attribute :=
  (declarations (plan.initBlocks ++ plan.updateBlocks ++ plan.outputBlocks) ++ plan.init.brings
    ++ ruleBrings phaseShift (plan.isRandom phaseShift)).eraseDups

/-- Those that nothing touches at birth, but for the seed and the age, for which this is as it
should be. -/
def unset : List Attribute :=
  (plan.order phaseShift).filter fun a =>
    !plan.touchesAtBirth phaseShift a && a ≠ .seed && a ≠ .age

theorem attributes_declared : plan.declared.attributes =
    (declarations (plan.initBlocks ++ plan.updateBlocks ++ plan.outputBlocks)).eraseDups := by
  unfold declared
  simp only [UsageTable.attributes_merge, UsageTable.attributes_ofBlocks, eraseDups_append_left,
    eraseDups_append_right]
  simp only [declarations, List.flatMap_append]

end

variable {plan : Plan} {phaseShift : Bool}

theorem attributes_usages {table : UsageTable} {demands : Demands}
    (h : plan.usages = .ok (table, demands)) : table.attributes =
      (declarations (plan.initBlocks ++ plan.updateBlocks ++ plan.outputBlocks)
        ++ plan.init.brings).eraseDups := by
  obtain ⟨born, lived, fromInit, fromUpdate, fromOutput, first, second, third, -⟩ :=
    usages_eq_ok_iff.1 h
  have drawn : table.attributes = lived.attributes := by
    obtain ⟨-, _, done, -⟩ := Need.meetAll_cons_eq_ok third
    cases done
    exact Need.attributes_addTo
  obtain ⟨rfl, -⟩ := Need.meetAll_eq_ok plan.init.usesIfPresent_needs first
  rw [drawn, Need.attributes_meetAll plan.update.needs_frugal second, UsageTable.attributes_addAll,
    attributes_declared, plan.init.map_uses_needs, eraseDups_append_left]

namespace Settling

variable (s : plan.Settling phaseShift)

theorem attributes_wanted : s.wanted.attributes = plan.order phaseShift := by
  have moved := fun shifted a => s.mem_table_of_phaseShift (a := a) shifted
  rw [wanted, UsageTable.withRules, UsageTable.attributes_addAll,
    UsageTable.eraseDups_ruleUses _ moved, Plan.attributes_usages s.used, eraseDups_append_left,
    order]

theorem attributes_ruled : s.ruled.table.attributes = plan.order phaseShift := by
  rw [s.ruled_table, UsageTable.attributes_addAll_of_subset, s.attributes_wanted]
  intro use hu
  obtain ⟨a, unset, rfl⟩ := List.mem_map.1 hu
  exact (UsageTable.mem_uninitialized.1 unset).1

theorem uninitialized_wanted : s.wanted.uninitialized
    = (plan.order phaseShift).filter fun a => !plan.touchesAtBirth phaseShift a := by
  have touched (e) (mem : e ∈ s.wanted.entries) :
      e.2.usedIn .init = plan.touchesAtBirth phaseShift e.1 := by
    have set := plan.touches_of_sets phaseShift e.1
    rw [Bool.eq_iff_iff, UsageTable.usedIn_init_iff mem,
      s.grants_wanted (x := .initRead) (by simp), s.grants_wanted (x := .initWrite) (by simp)]
    exact ⟨(·.elim id set), .inl⟩
  rw [← s.attributes_wanted, UsageTable.attributes, List.filter_map, UsageTable.uninitialized]
  refine congrArg _ (List.filter_congr fun e mem => ?_)
  rw [touched e mem]
  rfl

theorem defaulted_ruled : s.ruled.defaulted = (plan.unset phaseShift).map (·.name) := by
  have told := UsageTable.defaulted_applyRules s.settled
  rw [s.isRandom_eq] at told
  rw [told, unset]
  change ((s.wanted.uninitialized.filter _).map _) = _
  rw [s.uninitialized_wanted, List.filter_filter]
  refine congrArg _ (List.filter_congr fun a _ => ?_)
  simp [Bool.and_comm, Bool.and_assoc]

end Settling

end Plan

end ParticleShaders
