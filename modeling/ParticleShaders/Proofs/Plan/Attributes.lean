import ParticleShaders.Proofs.Plan.WellFormed
import ParticleShaders.Proofs.Usage.ClosedForm

namespace ParticleShaders

structure Attribute.Sound (a : Attribute) : Prop where
  named : Text.isIdentifier a.name
  packable : a.type.components?.isSome

structure Descriptor.Sound (d : Descriptor) : Prop where
  names : ∀ name ∈ d.names, Text.isIdentifier name
  types : ∀ a ∈ d.attributes, a.type.components?.isSome

theorem Descriptor.Sound.attribute {d : Descriptor} (h : d.Sound) {a : AttributeDecl}
    (ha : a ∈ d.attributes) : a.toAttribute.Sound :=
  ⟨h.names a.name (List.mem_append_left _ (List.mem_map_of_mem ha)), h.types a ha⟩

theorem Block.sound_of_bind {b : Block} {library : Library} {params : ParamTable} {stage : Stage}
    {bound : BoundBlock} (h : b.bind library params stage = .ok bound) :
    bound.descriptor.Sound := by
  have fine := (b.bind_reports params library stage).exists_eq_ok_iff.1 ⟨bound, h⟩
  obtain ⟨d, wellFormed⟩ := Block.faults_eq_nil_iff.1 fine
  obtain rfl : d = bound.descriptor :=
    Option.some.inj (wellFormed.described.symm.trans (Block.bind_eq_ok h).1)
  exact ⟨wellFormed.names, wellFormed.types⟩

namespace Plan

variable {system : ParticleSystem} {library : Library} {params : ParamTable} {plan : Plan}
  {stage : Stage} {a : Attribute}

theorem exists_block_of_mem (planned : ofSystem system library params = .ok plan)
    {bound : BoundBlock} (hb : bound ∈ plan.blocks stage) :
    ∃ b : Block, b.bind library params stage = .ok bound := by
  obtain ⟨s⟩ := exists_planning planned
  rw [s.blocks] at hb
  obtain ⟨b, -, h⟩ := bound_of_mem_blocksOf s.bindings hb
  exact ⟨b, h⟩

theorem sound_of_mem_blocks (stage : Stage) (planned : ofSystem system library params = .ok plan)
    {bound : BoundBlock} (hb : bound ∈ plan.blocks stage) : bound.descriptor.Sound := by
  obtain ⟨b, h⟩ := exists_block_of_mem planned hb
  exact Block.sound_of_bind h

theorem sound_of_declares (planned : ofSystem system library params = .ok plan)
    (h : declares (plan.initBlocks ++ plan.updateBlocks ++ plan.outputBlocks) a) : a.Sound := by
  obtain ⟨b, hb, d, hd, rfl⟩ := declares_iff.1 h
  have sound : b.descriptor.Sound := by
    simp only [List.mem_append] at hb
    rcases hb with (hb | hb) | hb
    · exact sound_of_mem_blocks .init planned hb
    · exact sound_of_mem_blocks .update planned hb
    · exact sound_of_mem_blocks .output planned hb
  exact sound.attribute hd

theorem sound_of_packs (phaseShift : Bool) (planned : ofSystem system library params = .ok plan)
    (h : plan.packs phaseShift a) : a.Sound := by
  simp only [packs, Bool.or_eq_true, Bool.and_eq_true, decide_eq_true_eq] at h
  rcases h with ((declared | ⟨-, aging⟩) | ⟨-, rfl⟩) | ⟨-, rfl⟩
  · exact sound_of_declares planned declared
  · simp only [List.mem_cons, List.not_mem_nil, or_false] at aging
    rcases aging with rfl | rfl <;> exact ⟨by decide, by decide⟩
  · exact ⟨by decide, by decide⟩
  · exact ⟨by decide, by decide⟩

end Plan

theorem Compilation.sound_attribute {system : ParticleSystem} {library : Library}
    {params : ParamTable} {options : Options} (s : Compilation system library params options)
    {b : Buffer} {a : Attribute} (hb : b ∈ s.buffers) (ha : a ∈ b.attributes) : a.Sound :=
  Plan.sound_of_packs options.phaseShift s.planned (s.exists_buffer_iff.1 ⟨b, hb, ha⟩)

end ParticleShaders
