import ParticleShaders.Proofs.Packing
import ParticleShaders.Proofs.Usage.Steps
/-! The usage of each attribute, read off a plan. Blocks, generators and rules add their uses one
after the other, and some look at what is there already; what comes of it does not depend on the
order, and is given here for each access on its own. -/

namespace ParticleShaders

open UsageTable (Grants)

def declares (blocks : List BoundBlock) (a : Attribute) : Bool :=
  blocks.any fun b => b.descriptor.attributes.any (·.toAttribute = a)

def declaresWritable (blocks : List BoundBlock) (a : Attribute) : Bool :=
  blocks.any fun b => b.descriptor.attributes.any fun d => d.toAttribute = a ∧ d.writable

theorem declares_iff {blocks : List BoundBlock} {a : Attribute} : declares blocks a ↔
    ∃ b ∈ blocks, ∃ d ∈ b.descriptor.attributes, d.toAttribute = a := by
  simp [declares]

theorem declaresWritable_iff {blocks : List BoundBlock} {a : Attribute} :
    declaresWritable blocks a ↔
      ∃ b ∈ blocks, ∃ d ∈ b.descriptor.attributes, d.toAttribute = a ∧ d.writable := by
  simp [declaresWritable]

theorem declares_of_declaresWritable {blocks : List BoundBlock} {a : Attribute}
    (h : declaresWritable blocks a) : declares blocks a := by
  obtain ⟨b, hb, d, hd, same, -⟩ := declaresWritable_iff.1 h
  exact declares_iff.2 ⟨b, hb, d, hd, same⟩

namespace Plan

section

variable (plan : Plan) (phaseShift : Bool) (a : Attribute)

def isRandom : Bool := phaseShift || anyNeeds .rand (plan.initBlocks ++ plan.updateBlocks)

def packs : Bool :=
  declares (plan.initBlocks ++ plan.updateBlocks ++ plan.outputBlocks) a
    || (plan.init.lifetime.isSome && a ∈ [.lifetime, .age])
    || (phaseShift && a = .phase)
    || (plan.isRandom phaseShift && a = .seed)

def touchesAtBirth : Bool :=
  declares plan.initBlocks a
    || (plan.init.lifetime.isSome && a ∈ [.lifetime, .age])
    || (phaseShift && a ∈ [.phase, .position, .velocity])
    || (plan.isRandom phaseShift && a = .seed)

def setsAtBirth : Bool :=
  declaresWritable plan.initBlocks a
    || (plan.init.lifetime.isSome && a ∈ [.lifetime, .age])
    || (phaseShift && a ∈ [.phase, .position])
    || (plan.isRandom phaseShift && a = .seed)

def readsInUpdate : Bool :=
  declares plan.updateBlocks a
    || (plan.update.integrate && a ∈ [.position, .velocity])
    || (plan.update.age && a = .age)
    || (plan.update.reap && a ∈ [.age, .lifetime])
    || (phaseShift && a ∈ [.phase, .position, .velocity])
    || (plan.isRandom phaseShift && a = .seed)

def writesInUpdate : Bool :=
  declaresWritable plan.updateBlocks a
    || (plan.update.integrate && a = .position)
    || (plan.update.age && a = .age)
    || (phaseShift && a ∈ [.phase, .position])
    || (plan.isRandom phaseShift && a = .seed)

def readsInOutput : Bool :=
  declares plan.outputBlocks a
    || a ∈ [.position, .color, .alpha]
    || (plan.output.isQuad && a ∈ [.size, .angle])

/-- The usage of an attribute that the system has. What nothing touches at birth is set there to its
default value. -/
def usageOf : Usage where
  initRead := true
  initWrite := plan.setsAtBirth phaseShift a || !plan.touchesAtBirth phaseShift a
  updateRead := plan.readsInUpdate phaseShift a
  updateWrite := plan.writesInUpdate phaseShift a
  outputRead := plan.readsInOutput a

def declared : UsageTable :=
  ((UsageTable.ofBlocks .init plan.initBlocks).merge
    (.ofBlocks .update plan.updateBlocks)).merge (.ofBlocks .output plan.outputBlocks)

def generatorUses : List (Attribute × Usage) :=
  plan.init.needs.flatMap (·.uses) ++ plan.update.needs.flatMap (·.uses)

theorem touches_of_sets (set : plan.setsAtBirth phaseShift a) :
    plan.touchesAtBirth phaseShift a := by
  have declared : declaresWritable plan.initBlocks a → declares plan.initBlocks a :=
    declares_of_declaresWritable
  simp only [setsAtBirth, touchesAtBirth, Bool.or_eq_true, Bool.and_eq_true] at set ⊢
  grind

end

structure Used (plan : Plan) (table : UsageTable) (demands : Demands) : Prop where
  grants : ∀ x a, Grants table.entries x a ↔ Grants plan.declared.entries x a ∨
    Grants plan.generatorUses x a ∨
    (a ∈ plan.output.reads ∧ a ∈ table.attributes ∧ (Usage.declared .output false).grants x)
  attributes : ∀ a, a ∈ table.attributes ↔
    a ∈ plan.declared.attributes ∨ a ∈ (plan.init.needs.flatMap (·.uses)).map (·.1)
  placed : .position ∈ table.attributes
  rand : demands.rand = plan.demands.rand
  kill : demands.updateKill = (plan.demands.updateKill || plan.update.reap)

theorem usages_eq_ok_iff {plan : Plan} {table : UsageTable} {demands : Demands} :
    plan.usages = .ok (table, demands) ↔ ∃ born lived fromInit fromUpdate fromOutput,
      Need.meetAll .init plan.init.needs plan.declared = (born, .ok fromInit) ∧
      Need.meetAll .update plan.update.needs born = (lived, .ok fromUpdate) ∧
      Need.meetAll .output plan.output.needs lived = (table, .ok fromOutput) ∧
      demands =
        { initRand := plan.demands.initRand || fromInit.contains .rand
          updateRand := plan.demands.updateRand || fromUpdate.contains .rand
          updateKill := plan.demands.updateKill || fromUpdate.contains .kill } := by
  constructor
  · intro h
    unfold usages at h
    obtain ⟨fromInit, first, h⟩ := bind_eq_ok_iff.1 h
    obtain ⟨fromUpdate, second, h⟩ := bind_eq_ok_iff.1 h
    obtain ⟨fromOutput, third, h⟩ := bind_eq_ok_iff.1 h
    cases h
    exact ⟨_, _, _, _, _, Prod.ext rfl first, Prod.ext rfl second, Prod.ext rfl third, rfl⟩
  · rintro ⟨born, lived, fromInit, fromUpdate, fromOutput, first, second, third, rfl⟩
    unfold declared at first
    simp only [usages, first, second, third]
    rfl

theorem used_of_usages {plan : Plan} {table : UsageTable} {demands : Demands}
    (h : plan.usages = .ok (table, demands)) : plan.Used table demands := by
  obtain ⟨born, lived, fromInit, fromUpdate, fromOutput, first, second, third, rfl⟩ :=
    usages_eq_ok_iff.1 h
  have known := fun a => Need.mem_attributes_meetAll (a := a) plan.update.needs_frugal second
  obtain ⟨rfl, rfl⟩ := Need.meetAll_eq_ok plan.init.usesIfPresent_needs first
  obtain ⟨grown, rfl⟩ :=
    Need.meetAll_eq_ok (fun n hn => (plan.update.needs_frugal n hn).1) second
  obtain ⟨placed, same, drawn⟩ := OutputGenerator.meetAll_needs_eq_ok third
  refine ⟨fun x a => ?_, fun a => ?_, (same _).2 placed, ?_, ?_⟩
  · rw [drawn, same, grown, UsageTable.grants_addAll, UsageTable.grants_addAll, generatorUses,
      UsageTable.grants_append, or_assoc, or_assoc, or_assoc, and_left_comm]
  · rw [same, known, UsageTable.mem_attributes_addAll]
  · rw [plan.init.capabilities_needs, plan.update.capabilities_needs]
    cases plan.update.reap <;> simp [Demands.rand]
  · rw [plan.update.capabilities_needs]
    cases plan.update.reap <;> simp

section

variable {plan : Plan} {x : Access} {a : Attribute}

theorem grants_declared : Grants plan.declared.entries x a ↔
    Usage.grants ⟨declares plan.initBlocks a, declaresWritable plan.initBlocks a,
      declares plan.updateBlocks a, declaresWritable plan.updateBlocks a,
      declares plan.outputBlocks a⟩ x := by
  unfold declared
  simp only [UsageTable.grants_merge, UsageTable.grants_ofBlocks]
  cases x <;> simp [Usage.grants, Usage.declared, declares_iff, declaresWritable_iff]

theorem uses_init_needs (g : InitGenerator) : g.needs.flatMap (·.uses) =
    if g.lifetime.isSome then [(.lifetime, .init), (.age, .init)] else [] := by
  unfold InitGenerator.needs
  split <;> rfl

theorem uses_update_needs (g : UpdateGenerator) : g.needs.flatMap (·.uses) =
    (if g.integrate then
      [(.position, .update), (.velocity, .declared .update false)] else [])
      ++ (if g.age then [(.age, .update)] else [])
      ++ (if g.reap then
        [(.age, .declared .update false), (.lifetime, .declared .update false)] else []) := by
  obtain ⟨integrate, age, reap⟩ := g
  cases integrate <;> cases age <;> cases reap <;> rfl

theorem grants_ite {c : Bool} {uses : List (Attribute × Usage)} :
    Grants (if c then uses else []) x a ↔ c ∧ Grants uses x a := by
  cases c <;> simp

theorem grants_generatorUses : Grants plan.generatorUses x a ↔
    Usage.grants ⟨plan.init.lifetime.isSome && a ∈ [.lifetime, .age],
      plan.init.lifetime.isSome && a ∈ [.lifetime, .age],
      plan.update.integrate && a ∈ [.position, .velocity]
        || plan.update.age && a = .age || plan.update.reap && a ∈ [.age, .lifetime],
      plan.update.integrate && a = .position || plan.update.age && a = .age, false⟩ x := by
  rw [generatorUses, uses_init_needs, uses_update_needs]
  simp only [UsageTable.grants_append, grants_ite, UsageTable.grants_cons,
    UsageTable.not_grants_nil, or_false]
  cases x <;> simp [Usage.grants, Usage.declared, Usage.init, Usage.update, or_assoc]

theorem mem_declared : a ∈ plan.declared.attributes ↔
    declares (plan.initBlocks ++ plan.updateBlocks ++ plan.outputBlocks) a := by
  unfold declared
  simp only [UsageTable.mem_attributes_merge, UsageTable.mem_attributes_ofBlocks, declares_iff,
    List.mem_append, or_and_right, exists_or]

theorem mem_ruleUses {phaseShift random : Bool} :
    a ∈ (UsageTable.ruleUses phaseShift random).map (·.1) ↔
      (phaseShift ∧ a ∈ [.phase, .position, .velocity]) ∨ (random ∧ a = .seed) := by
  unfold UsageTable.ruleUses UsageTable.phaseShiftUses
  cases phaseShift <;> cases random <;> simp [or_assoc]

theorem mem_reads (g : OutputGenerator) : a ∈ g.reads ↔
    a ∈ [.position, .color, .alpha] ∨ (g.isQuad ∧ a ∈ [.size, .angle]) := by
  unfold OutputGenerator.reads OutputGenerator.isQuad
  cases g.kind <;> simp [or_assoc]

theorem ne_of_mem_reads (g : OutputGenerator) :
    ∀ a ∈ g.reads, a ≠ Attribute.phase ∧ a ≠ Attribute.seed := by
  unfold OutputGenerator.reads
  cases g.kind <;> decide

theorem grants_ruleUses {phaseShift random : Bool} :
    Grants (UsageTable.ruleUses phaseShift random) x a ↔
      Usage.grants ⟨phaseShift && a ∈ [.phase, .position, .velocity] || random && a = .seed,
        phaseShift && a ∈ [.phase, .position] || random && a = .seed,
        phaseShift && a ∈ [.phase, .position, .velocity] || random && a = .seed,
        phaseShift && a ∈ [.phase, .position] || random && a = .seed, false⟩ x := by
  unfold UsageTable.ruleUses UsageTable.phaseShiftUses
  simp only [UsageTable.grants_append, grants_ite, UsageTable.grants_cons,
    UsageTable.not_grants_nil, or_false]
  cases x <;> simp [Usage.grants, Usage.union_eq, Usage.init, Usage.update]

end

end Plan

structure Plan.Settling (plan : Plan) (phaseShift : Bool) where
  table : UsageTable
  demands : Demands
  ruled : UsageTable.Ruled
  sound : plan.Sound
  used : plan.usages = .ok (table, demands)
  settled : table.applyRules demands phaseShift = .ok ruled

namespace Plan.Settling

variable {plan : Plan} {phaseShift : Bool} (s : plan.Settling phaseShift) {x : Access}
  {a : Attribute}

theorem isRandom_eq :
    (phaseShift || s.demands.rand) = plan.isRandom phaseShift := by
  rw [(Plan.used_of_usages s.used).rand, s.sound.demands, Plan.isRandom]
  simp [Demands.rand, Plan.anyNeeds]

def wanted : UsageTable :=
  s.table.withRules phaseShift (plan.isRandom phaseShift)

theorem ruled_table : s.ruled.table = s.wanted.addAll (s.wanted.uninitialized.map (·, .init)) := by
  have ruled := (UsageTable.applyRules_eq_ok s.settled).1
  rwa [isRandom_eq] at ruled

theorem mem_table : a ∈ s.table.attributes ↔
    declares (plan.initBlocks ++ plan.updateBlocks ++ plan.outputBlocks) a ∨
      (plan.init.lifetime.isSome ∧ a ∈ [.lifetime, .age]) := by
  rw [(Plan.used_of_usages s.used).attributes, Plan.mem_declared, Plan.uses_init_needs]
  cases plan.init.lifetime.isSome <;> simp

theorem mem_table_of_phaseShift (shifted : phaseShift)
    (mem : a ∈ [Attribute.position, .velocity]) : a ∈ s.table.attributes :=
  (UsageTable.applyRules_eq_ok s.settled).2.2.2 shifted a mem

theorem mem_wanted : a ∈ s.wanted.attributes ↔ plan.packs phaseShift a := by
  have moved := s.mem_table_of_phaseShift (a := a)
  unfold wanted UsageTable.withRules Plan.packs
  rw [UsageTable.mem_attributes_addAll, Plan.mem_ruleUses]
  simp only [Bool.or_eq_true, Bool.and_eq_true, decide_eq_true_eq, ← s.mem_table]
  constructor
  · rintro (known | ⟨shifted, mem⟩ | seed)
    · exact .inl (.inl known)
    · rcases List.mem_cons.1 mem with rfl | mem
      · exact .inl (.inr ⟨shifted, rfl⟩)
      · exact .inl (.inl (moved shifted mem))
    · exact .inr seed
  · rintro ((known | ⟨shifted, rfl⟩) | seed)
    · exact .inl known
    · exact .inr (.inl ⟨shifted, List.mem_cons_self⟩)
    · exact .inr (.inr seed)

theorem mem_ruled : a ∈ s.ruled.table.attributes ↔ plan.packs phaseShift a := by
  rw [ruled_table, UsageTable.mem_attributes_addAll, or_iff_left_of_imp, mem_wanted]
  intro mem
  rw [List.map_map] at mem
  obtain ⟨b, unset, rfl⟩ := List.mem_map.1 mem
  exact (UsageTable.mem_uninitialized.1 unset).1

theorem mem_table_of_reads (packed : a ∈ s.wanted.attributes) (drawn : a ∈ plan.output.reads) :
    a ∈ s.table.attributes := by
  have moved := s.mem_table_of_phaseShift (a := a)
  unfold wanted UsageTable.withRules at packed
  rw [UsageTable.mem_attributes_addAll, Plan.mem_ruleUses] at packed
  have foreign := Plan.ne_of_mem_reads plan.output a drawn
  rcases packed with known | ⟨shifted, mem⟩ | ⟨-, seed⟩
  · exact known
  · exact moved shifted ((List.mem_cons.1 mem).resolve_left foreign.1)
  · exact absurd seed foreign.2

theorem grants_wanted (packed : x = .outputRead → a ∈ s.wanted.attributes) :
    Grants s.wanted.entries x a ↔
      Usage.grants ⟨plan.touchesAtBirth phaseShift a, plan.setsAtBirth phaseShift a,
        plan.readsInUpdate phaseShift a, plan.writesInUpdate phaseShift a,
        plan.readsInOutput a⟩ x := by
  unfold wanted UsageTable.withRules
  rw [UsageTable.grants_addAll, (Plan.used_of_usages s.used).grants, Plan.grants_declared,
    Plan.grants_generatorUses, Plan.grants_ruleUses]
  cases x with
  | outputRead =>
    have drawn := s.mem_table_of_reads (packed rfl)
    have reads : a ∈ plan.output.reads ∧ a ∈ s.table.attributes ↔ a ∈ plan.output.reads :=
      and_iff_left_of_imp drawn
    rw [← and_assoc, reads, Plan.mem_reads]
    simp [Usage.grants, Usage.declared, Plan.readsInOutput, or_assoc]
  | _ =>
    simp [Usage.grants, Usage.declared, Plan.touchesAtBirth, Plan.setsAtBirth,
      Plan.readsInUpdate, Plan.writesInUpdate, or_assoc]

include s

theorem packs_of_grants (h : Grants s.wanted.entries x a) : plan.packs phaseShift a := by
  rw [← mem_wanted]
  exact UsageTable.mem_attributes_of_grants h

theorem packs_of_touchesAtBirth (h : plan.touchesAtBirth phaseShift a) :
    plan.packs phaseShift a :=
  s.packs_of_grants ((s.grants_wanted (x := .initRead) (by simp)).2 h)

theorem packs_of_readsInUpdate (h : plan.readsInUpdate phaseShift a) :
    plan.packs phaseShift a :=
  s.packs_of_grants ((s.grants_wanted (x := .updateRead) (by simp)).2 h)

theorem packs_of_mem_table (h : a ∈ s.table.attributes) : plan.packs phaseShift a := by
  rw [← mem_wanted]
  exact UsageTable.mem_attributes_addAll.2 (.inl h)

theorem packs_position : plan.packs phaseShift .position :=
  s.packs_of_mem_table (Plan.used_of_usages s.used).placed

theorem grants_ruled (packed : a ∈ s.ruled.table.attributes) :
    Grants s.ruled.table.entries x a ↔ (plan.usageOf phaseShift a).grants x := by
  rw [mem_ruled, ← mem_wanted] at packed
  rw [ruled_table, UsageTable.grants_addAll, UsageTable.grants_map_pair,
    UsageTable.mem_uninitialized, s.grants_wanted fun _ => packed,
    s.grants_wanted fun _ => packed, s.grants_wanted fun _ => packed]
  have touched := plan.touches_of_sets phaseShift a
  cases x with
  | initRead =>
    -- What nothing reads or writes at birth is read by the code that sets its default value.
    simp only [Usage.grants, Plan.usageOf, Usage.init, packed, true_and, and_true, iff_true]
    by_cases h : plan.touchesAtBirth phaseShift a
    · exact .inl h
    · exact .inr ⟨h, fun set => h (touched set)⟩
  | initWrite =>
    simp only [Usage.grants, Plan.usageOf, Usage.init, packed, true_and, and_true,
      Bool.or_eq_true, Bool.not_eq_true']
    rw [and_iff_left_of_imp fun h set => h (touched set), Bool.not_eq_true]
  | _ => simp [Usage.grants, Plan.usageOf, Usage.init]

end Plan.Settling

namespace Compilation

variable {system : ParticleSystem} {library : Library} {params : ParamTable} {options : Options}
  (s : Compilation system library params options) {a : Attribute}

def settling : s.plan.Settling options.phaseShift :=
  ⟨s.table, s.demands, s.ruled, s.sound, s.used, s.settled⟩

theorem usage_eq {b : Buffer} (hb : b ∈ s.buffers) (ha : a ∈ b.attributes) :
    b.usage = s.plan.usageOf options.phaseShift a := by
  have mem := (UsageTable.exists_buffer_iff s.packed).1 ⟨b, hb, ha⟩
  apply Usage.eq_of_grants
  intro x
  rw [Bool.eq_iff_iff, ← UsageTable.grants_iff_of_mem_buffer s.packed hb ha]
  exact s.settling.grants_ruled mem

theorem exists_buffer_iff : (∃ b ∈ s.buffers, a ∈ b.attributes) ↔
    s.plan.packs options.phaseShift a := by
  rw [UsageTable.exists_buffer_iff s.packed]
  exact s.settling.mem_ruled

end Compilation

/-- The buffers of a compiled system hold the attributes of its plan, and each of them is used as
its attributes are. -/
theorem ParticleSystem.compile_usages {system : ParticleSystem} {library : Library}
    {params : ParamTable} {options : Options} {bake : Bake} {c : Compiled}
    (h : (system.compile library params options bake).result = .ok c) :
    ∃ plan, Plan.ofSystem system library params = .ok plan ∧
      c = plan.compiled system c.blueprint ∧
      (∀ a, (∃ b ∈ c.blueprint.buffers, a ∈ b.attributes) ↔ plan.packs options.phaseShift a) ∧
      ∀ b ∈ c.blueprint.buffers, ∀ a ∈ b.attributes,
        b.usage = plan.usageOf options.phaseShift a := by
  obtain ⟨s, rfl⟩ := Compilation.result_eq_ok_iff.1 h
  exact ⟨s.plan, s.planned, rfl, fun _ => s.exists_buffer_iff, fun _ hb _ ha => s.usage_eq hb ha⟩

def sparks : ParticleSystem where
  version := "1"
  metadata := { name := "Sparks" }
  id := "sparks"
  phaseShift := true
  contexts := [
    { id := "birth", stage := .init,
      settings := .ofList [("lifetime", ⟨.number (.int 2), trivial⟩)],
      blocks := [
        { id := "place", type := "Place", descriptor := some
            { capabilities := [.rand], attributes := [⟨"position", .float3, true⟩],
              source := ["position = RAND3;"] } },
        { id := "look", type := "Look", descriptor := some
            { attributes := [⟨"heat", .float, false⟩, ⟨"velocity", .float3, true⟩],
              source := ["velocity = heat;"] } }] },
    { id := "life", stage := .update,
      settings := .ofList
        [("integrate", ⟨.bool true, trivial⟩), ("age", ⟨.bool true, trivial⟩),
          ("reap", ⟨.bool true, trivial⟩)] },
    { id := "drawing", stage := .output,
      settings := .ofList [("kind", ⟨.string "billboard", trivial⟩)] }]

theorem sparks_usages : ∃ c, (sparks.compile ∅ ∅ (.ofSystem sparks) .empty).result = .ok c ∧
    ∃ plan, Plan.ofSystem sparks ∅ ∅ = .ok plan ∧ c = plan.compiled sparks c.blueprint ∧
      (∀ a, (∃ b ∈ c.blueprint.buffers, a ∈ b.attributes) ↔ plan.packs true a) ∧
      ∀ b ∈ c.blueprint.buffers, ∀ a ∈ b.attributes, b.usage = plan.usageOf true a := by
  have compiled : (sparks.compile ∅ ∅ (.ofSystem sparks) .empty).result.toOption.map
      (·.blueprint.buffers.length) = some 4 := by
    decide +kernel
  obtain ⟨c, h, -⟩ := exists_of_toOption compiled
  exact ⟨c, h, ParticleSystem.compile_usages h⟩

end ParticleShaders
