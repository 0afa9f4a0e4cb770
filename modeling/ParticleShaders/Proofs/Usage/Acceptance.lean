import ParticleShaders.Proofs.Usage.Rejections

namespace ParticleShaders

namespace Plan

section

variable (plan : Plan)

def provides (a : Attribute) : Bool :=
  declares (plan.initBlocks ++ plan.updateBlocks ++ plan.outputBlocks) a
    || (plan.init.lifetime.isSome && a ∈ [.lifetime, .age])

def usagesOf (phaseShift : Bool) : Set Usage :=
  {u | ∃ a, plan.packs phaseShift a ∧ plan.usageOf phaseShift a = u}

/-- What a plan must have to be compiled. Each usage takes a buffer. -/
structure Compilable (options : Options) : Prop where
  integrate : plan.update.integrate → plan.provides .position ∧ plan.provides .velocity
  age : plan.update.age → plan.provides .age
  reap : plan.update.reap → plan.provides .age ∧ plan.provides .lifetime
  position : plan.provides .position
  velocity : options.phaseShift → plan.provides .velocity
  names : ∀ a b, plan.packs options.phaseShift a → plan.packs options.phaseShift b →
    a.name = b.name → a = b
  buffers : (plan.usagesOf options.phaseShift).ncard ≤ options.bufferLimit

end

variable {plan : Plan}

theorem mem_needs_update {g : UpdateGenerator} {p : Attribute → Prop} :
    (∀ n ∈ g.needs, ∀ a ∈ n.requires, p a) ↔ (g.integrate → p .position ∧ p .velocity) ∧
      (g.age → p .age) ∧ (g.reap → p .age ∧ p .lifetime) := by
  obtain ⟨integrate, age, reap⟩ := g
  cases integrate <;> cases age <;> cases reap <;>
    simp [UpdateGenerator.needs, or_imp, forall_and]

theorem mem_born {born : UsageTable} {taken : List Capability} {a : Attribute}
    (h : Need.meetAll .init plan.init.needs plan.declared = (born, .ok taken)) :
    a ∈ born.attributes ↔ plan.provides a := by
  obtain ⟨rfl, -⟩ := Need.meetAll_eq_ok plan.init.usesIfPresent_needs h
  rw [UsageTable.mem_attributes_addAll, mem_declared, uses_init_needs, provides]
  cases plan.init.lifetime.isSome <;> simp

theorem exists_usages_eq_ok_iff : (∃ table demands, plan.usages = .ok (table, demands)) ↔
    (∀ n ∈ plan.update.needs, ∀ a ∈ n.requires, plan.provides a) ∧ plan.provides .position := by
  constructor
  · rintro ⟨table, demands, h⟩
    obtain ⟨born, lived, fromInit, fromUpdate, fromOutput, first, second, third, -⟩ :=
      usages_eq_ok_iff.1 h
    have frugal := plan.update.needs_frugal
    refine ⟨fun n hn a ha => (mem_born first).1 ?_, (mem_born first).1 ?_⟩
    · exact Need.requires_of_meetAll_eq_ok frugal second n hn a ha
    · exact (Need.mem_attributes_meetAll frugal second).1
        (OutputGenerator.meetAll_needs_eq_ok third).1
  · rintro ⟨lively, placed⟩
    obtain ⟨born, fromInit, first⟩ := Need.exists_meetAll_eq_ok .init (t := plan.declared)
      fun n hn a ha => by simp [plan.init.requires_needs n hn] at ha
    obtain ⟨lived, fromUpdate, second⟩ := Need.exists_meetAll_eq_ok .update (t := born)
      fun n hn a ha => (mem_born first).2 (lively n hn a ha)
    have there : Attribute.position ∈ lived.attributes :=
      (Need.mem_attributes_meetAll plan.update.needs_frugal second).2 ((mem_born first).2 placed)
    have drawn : ∀ n ∈ plan.output.needs, ∀ a ∈ n.requires, a ∈ lived.attributes := by
      simpa [OutputGenerator.needs] using there
    obtain ⟨table, fromOutput, third⟩ := Need.exists_meetAll_eq_ok .output drawn
    exact ⟨table, _, usages_eq_ok_iff.2 ⟨_, _, _, _, _, first, second, third, rfl⟩⟩

end Plan

namespace UsageTable

variable {t : UsageTable} {demands : Demands} {phaseShift : Bool}

theorem phaseShiftLacks?_eq_none_iff :
    t.phaseShiftLacks? = none ↔ .position ∈ t.attributes ∧ .velocity ∈ t.attributes := by
  simp [phaseShiftLacks?, contains]

theorem exists_applyRules_eq_ok_iff : (∃ ruled, t.applyRules demands phaseShift = .ok ruled) ↔
    (phaseShift → .position ∈ t.attributes ∧ .velocity ∈ t.attributes) := by
  rw [← phaseShiftLacks?_eq_none_iff]
  unfold applyRules
  cases phaseShift with
  | false => simp
  | true => cases t.phaseShiftLacks? <;> simp

end UsageTable

namespace Plan.Settling

variable {plan : Plan} {phaseShift : Bool} (s : plan.Settling phaseShift)

theorem mem_entries_ruled {a : Attribute} {u : Usage} :
    (a, u) ∈ s.ruled.table.entries ↔ plan.packs phaseShift a ∧ plan.usageOf phaseShift a = u := by
  have same {v : Usage} (mem : (a, v) ∈ s.ruled.table.entries) :
      plan.usageOf phaseShift a = v := Usage.eq_of_grants fun x => by
    rw [Bool.eq_iff_iff, ← s.grants_ruled (List.mem_map_of_mem mem),
      UsageTable.grants_iff_of_mem mem]
  rw [← s.mem_ruled]
  constructor
  · intro mem
    exact ⟨List.mem_map_of_mem mem, same mem⟩
  · rintro ⟨packed, rfl⟩
    obtain ⟨⟨_, v⟩, mem, rfl⟩ := List.mem_map.1 packed
    rw [same mem]
    exact mem

theorem ncard_usagesOf : (plan.usagesOf phaseShift).ncard = s.ruled.table.usages.length :=
  UsageTable.ncard_usages fun u => by
    simp only [UsageTable.mem_usages, s.mem_entries_ruled, usagesOf, Set.mem_ofPred_eq]

theorem exists_layOut_eq_ok_iff {limit : Nat} :
    (∃ buffers, ParticleSystem.layOut s.ruled.table limit = .ok buffers) ↔
      (∀ a b, plan.packs phaseShift a → plan.packs phaseShift b → a.name = b.name → a = b) ∧
        (plan.usagesOf phaseShift).ncard ≤ limit := by
  rw [s.ncard_usagesOf, ← UsageTable.exists_pack_eq_ok_iff]
  constructor
  · rintro ⟨buffers, h⟩
    obtain ⟨_, named, packed⟩ := bind_eq_ok_iff.1 h
    have names := UsageTable.checkNames_eq_ok_iff.1 named
    exact ⟨fun a b ha hb => names a (s.mem_ruled.2 ha) b (s.mem_ruled.2 hb), buffers, packed⟩
  · rintro ⟨names, buffers, packed⟩
    have named := UsageTable.checkNames_eq_ok_iff.2 fun a ha b hb =>
      names a b (s.mem_ruled.1 ha) (s.mem_ruled.1 hb)
    exact ⟨buffers, bind_eq_ok_iff.2 ⟨(), named, packed⟩⟩

end Plan.Settling

namespace Plan

variable {plan : Plan} {options : Options}

theorem mem_table_of_usages {table : UsageTable} {demands : Demands} {a : Attribute}
    (used : plan.usages = .ok (table, demands)) : a ∈ table.attributes ↔ plan.provides a := by
  rw [(used_of_usages used).attributes, mem_declared, uses_init_needs, provides]
  cases plan.init.lifetime.isSome <;> simp

theorem compilable_iff (sound : plan.Sound) : plan.Compilable options ↔
    ∃ s : plan.Settling options.phaseShift,
      ∃ buffers, ParticleSystem.layOut s.ruled.table options.bufferLimit = .ok buffers := by
  constructor
  · rintro ⟨integrate, age, reap, position, velocity, names, buffers⟩
    obtain ⟨table, demands, used⟩ := exists_usages_eq_ok_iff.2
      ⟨mem_needs_update.2 ⟨integrate, age, reap⟩, position⟩
    obtain ⟨ruled, settled⟩ := UsageTable.exists_applyRules_eq_ok_iff.2 fun shifted =>
      ⟨(mem_table_of_usages used).2 position, (mem_table_of_usages used).2 (velocity shifted)⟩
    let s : plan.Settling options.phaseShift := ⟨table, demands, ruled, sound, used, settled⟩
    exact ⟨s, s.exists_layOut_eq_ok_iff.2 ⟨names, buffers⟩⟩
  · rintro ⟨s, laidOut⟩
    obtain ⟨lively, position⟩ := exists_usages_eq_ok_iff.1 ⟨_, _, s.used⟩
    obtain ⟨integrate, age, reap⟩ := mem_needs_update.1 lively
    obtain ⟨names, buffers⟩ := s.exists_layOut_eq_ok_iff.1 laidOut
    have moved := UsageTable.exists_applyRules_eq_ok_iff.1 ⟨_, s.settled⟩
    exact ⟨integrate, age, reap, position,
      fun shifted => (mem_table_of_usages s.used).1 (moved shifted).2, names, buffers⟩

end Plan

namespace ParticleSystem

variable {system : ParticleSystem} {library : Library} {params : ParamTable} {plan : Plan}
  {options : Options} {before : Bake}

theorem exists_compiled_iff (planned : Plan.ofSystem system library params = .ok plan) :
    (∃ c, (system.compile library params options before).result = .ok c) ↔
      plan.Compilable options := by
  rw [Plan.compilable_iff (Plan.sound_of_ofSystem planned)]
  constructor
  · rintro ⟨c, h⟩
    obtain ⟨s, rfl⟩ := Compilation.result_eq_ok_iff.1 h
    obtain rfl := Except.ok.inj (s.planned.symm.trans planned)
    exact ⟨s.settling, s.buffers, s.laidOut⟩
  · rintro ⟨s, buffers, laidOut⟩
    obtain ⟨baked, signals, -⟩ := (Plan.resolved_of_ofSystem planned).bake_eq_ok
    exact ⟨_, Compilation.result_eq_ok_iff.2 ⟨⟨plan, s.table, s.demands, s.ruled, buffers, baked,
      planned, s.used, s.settled, laidOut, signals⟩, rfl⟩⟩

/-- A system that has a plan compiles if the plan has what it must have, whatever was baked before;
no value is missed, and no signal is refused. -/
theorem compile_accepts (planned : Plan.ofSystem system library params = .ok plan)
    (options : Options) (before : Bake) :
    ((∃ c, (system.compile library params options before).result = .ok c) ↔
      plan.Compilable options) ∧
    ∀ e, (system.compile library params options before).result = .error e →
      (∀ id, e ≠ .missingValue id) ∧ (∀ id type, e ≠ .outputSignal id type) ∧
        e ≠ .phaseShift "position" := by
  refine ⟨exists_compiled_iff planned, fun e h => ?_⟩
  have about := rejection_of_planned planned h
  cases e with
  | phaseShift name =>
    obtain rfl : name = Attribute.velocity.name := about
    simp [Attribute.velocity]
  | missingValue id => cases about
  | outputSignal id type => cases about
  | _ => simp

end ParticleSystem

theorem sparks_accepts : ∃ plan, Plan.ofSystem sparks ∅ ∅ = .ok plan ∧
    plan.Compilable (.ofSystem sparks) := by
  have compiled : (sparks.compile ∅ ∅ (.ofSystem sparks) .empty).result.toOption.map
      (·.blueprint.phaseShift) = some true := by
    decide +kernel
  obtain ⟨c, h, -⟩ := exists_of_toOption compiled
  obtain ⟨s, -⟩ := Compilation.result_eq_ok_iff.1 h
  exact ⟨s.plan, s.planned, (ParticleSystem.compile_accepts s.planned _ _).1.1 ⟨c, h⟩⟩

end ParticleShaders
