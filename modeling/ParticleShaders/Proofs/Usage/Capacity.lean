import ParticleShaders.Proofs.Endings
import ParticleShaders.Proofs.Usage.Acceptance

namespace ParticleShaders

namespace Usage

def packable : List Usage :=
  [false, true].flatMap fun initWrite =>
    [(false, false), (true, false), (true, true)].flatMap fun (updateRead, updateWrite) =>
      [false, true].map fun outputRead => ⟨true, initWrite, updateRead, updateWrite, outputRead⟩

theorem mem_packable {u : Usage} :
    u ∈ packable ↔ u.initRead ∧ (u.updateWrite → u.updateRead) := by
  obtain ⟨a, b, c, d, e⟩ := u
  cases a <;> cases b <;> cases c <;> cases d <;> cases e <;> decide

theorem length_packable : packable.length = 12 := rfl

end Usage

namespace Plan

variable {plan : Plan} {phaseShift : Bool}

theorem reads_of_writesInUpdate (a : Attribute) (written : plan.writesInUpdate phaseShift a) :
    plan.readsInUpdate phaseShift a := by
  have declared : declaresWritable plan.updateBlocks a → declares plan.updateBlocks a :=
    declares_of_declaresWritable
  simp only [writesInUpdate, readsInUpdate, Bool.or_eq_true, Bool.and_eq_true] at written ⊢
  grind

theorem usageOf_mem_packable (a : Attribute) : plan.usageOf phaseShift a ∈ Usage.packable :=
  Usage.mem_packable.2 ⟨rfl, reads_of_writesInUpdate a⟩

namespace Settling

variable (s : plan.Settling phaseShift)

theorem mem_packable {a : Attribute} {u : Usage} (h : (a, u) ∈ s.ruled.table.entries) :
    u ∈ Usage.packable := by
  obtain ⟨-, rfl⟩ := s.mem_entries_ruled.1 h
  exact usageOf_mem_packable a

theorem length_usages_le : s.ruled.table.usages.length ≤ 12 := by
  have distinct : s.ruled.table.usages.Nodup := nodup_eraseDups _
  rw [← Usage.length_packable]
  refine (List.subperm_of_subset distinct fun u hu => ?_).length_le
  obtain ⟨a, mem⟩ := UsageTable.mem_usages.1 hu
  exact s.mem_packable mem

end Settling

end Plan

namespace ParticleSystem

variable {system : ParticleSystem} {library : Library} {params : ParamTable} {options : Options}
  {before : Bake}

namespace Ending

variable {o : Outcome} (ending : Ending system library params options before o) {used max : Nat}

include ending

theorem used_le_of_tooManyBuffers (h : o.result = .error (.tooManyBuffers used max)) :
    used ≤ 12 ∧ max = options.bufferLimit ∧ options.bufferLimit < used := by
  cases ending with
  | unplanned failed =>
    cases h
    exact absurd failed (Plan.ofSystem_failsOnly _ _ _ _)
  | unmet planned failed =>
    cases h
    obtain ⟨_, _, same⟩ := Plan.usages_failsOnly _ _ failed
    cases same
  | unshifted planned used failed =>
    obtain ⟨-, rfl⟩ := UsageTable.applyRules_eq_error (Plan.used_of_usages used).placed failed
    cases h
  | unpacked planned used settled failed =>
    cases h
    rcases layOut_eq_error failed with ⟨_, _, _, same⟩ | ⟨few, same⟩ <;> cases same
    let s : Plan.Settling _ options.phaseShift :=
      ⟨_, _, _, Plan.sound_of_ofSystem planned, used, settled⟩
    exact ⟨s.length_usages_le, rfl, few⟩
  | compiled s => cases h

theorem rejected_of_told (told : .tooManyBuffers used max ∈ o.diagnostics) :
    o.result = .error (.tooManyBuffers used max) := by
  have of_reject {e : Rejection} (h : Diagnostic.tooManyBuffers used max = .ofRejection e) :
      (.error e : Except Rejection Compiled) = .error (.tooManyBuffers used max) := by
    cases e <;> cases h
    rfl
  cases ending with
  | unplanned _ | unmet _ _ | unshifted _ _ _ | unpacked _ _ _ _ =>
    simp only [reject, List.mem_append, List.mem_map, List.mem_singleton, List.nil_append,
      reduceCtorEq, and_false, exists_false, false_or] at told
    exact of_reject told
  | compiled s => simp [Diagnostic.ofBuffers, Diagnostic.ofPlan] at told

end Ending

/-- Whatever is packed of a system is read at birth, and read in update if it is written there. So
twelve buffers serve every system, and none is rejected for more. -/
theorem compile_capacity (system : ParticleSystem) (library : Library) (params : ParamTable)
    (options : Options) (before : Bake) :
    let o := system.compile library params options before
    (∀ plan table demands ruled, Plan.ofSystem system library params = .ok plan →
      plan.usages = .ok (table, demands) →
      table.applyRules demands options.phaseShift = .ok ruled →
      ∀ a u, (a, u) ∈ ruled.table.entries →
        u.initRead ∧ (u.initWrite → u.initRead) ∧ (u.updateWrite → u.updateRead)) ∧
    (∀ used max, o.result = .error (.tooManyBuffers used max) → used ≤ 12) ∧
    (∀ used max, .tooManyBuffers used max ∈ o.diagnostics → used ≤ 12) ∧
    (12 ≤ options.bufferLimit → ∀ used max, o.result ≠ .error (.tooManyBuffers used max)) := by
  intro o
  have ending : Ending system library params options before o := ending_compile
  refine ⟨fun plan table demands ruled planned used settled a u mem => ?_,
    fun used max h => (ending.used_le_of_tooManyBuffers h).1,
    fun used max told => (ending.used_le_of_tooManyBuffers (ending.rejected_of_told told)).1,
    fun enough used max h => ?_⟩
  · let s : plan.Settling options.phaseShift :=
      ⟨table, demands, ruled, Plan.sound_of_ofSystem planned, used, settled⟩
    obtain ⟨born, read⟩ := Usage.mem_packable.1 (s.mem_packable mem)
    exact ⟨born, fun _ => born, read⟩
  · obtain ⟨most, -, few⟩ := ending.used_le_of_tooManyBuffers h
    omega

end ParticleSystem

theorem mosaic_capacity :
    let o := mosaic.compile ∅ ∅ { bufferLimit := 11 } .empty
    let p := mosaic.compile ∅ ∅ { bufferLimit := 12 } .empty
    (∃ plan table demands ruled a u, Plan.ofSystem mosaic ∅ ∅ = .ok plan ∧
      plan.usages = .ok (table, demands) ∧ table.applyRules demands false = .ok ruled ∧
      (a, u) ∈ ruled.table.entries ∧ u.updateWrite ∧ u.initRead ∧ u.updateRead) ∧
    o.result = .error (.tooManyBuffers 12 11) ∧ 12 ≤ 12 ∧
    .tooManyBuffers 12 11 ∈ o.diagnostics ∧ 12 ≤ 12 ∧
    (∃ c, p.result = .ok c) ∧ ∀ used max, p.result ≠ .error (.tooManyBuffers used max) := by
  intro o p
  have crowded : o.result = .error (.tooManyBuffers 12 11) :=
    Outcome.rejection?_eq_some_iff.1 (by decide +kernel)
  have told : .tooManyBuffers 12 11 ∈ o.diagnostics := by decide +kernel
  have compiled : p.result.toOption.map (·.blueprint.buffers.any (·.usage.updateWrite))
      = some true := by
    decide +kernel
  obtain ⟨c, ok, written⟩ := exists_of_toOption compiled
  obtain ⟨s, rfl⟩ := Compilation.result_eq_ok_iff.1 ok
  obtain ⟨b, mem, writes⟩ := List.any_eq_true.1 written
  obtain ⟨a, held⟩ := UsageTable.exists_mem_buffer s.packed mem
  have packed := (UsageTable.mem_attributes_buffer s.packed mem).1 held
  obtain ⟨-, result, diagnostics, -⟩ :=
    ParticleSystem.compile_capacity mosaic ∅ ∅ { bufferLimit := 11 } .empty
  obtain ⟨reads, -, -, enough⟩ :=
    ParticleSystem.compile_capacity mosaic ∅ ∅ { bufferLimit := 12 } .empty
  obtain ⟨born, -, read⟩ := reads _ _ _ _ s.planned s.used s.settled a b.usage packed
  exact ⟨⟨_, _, _, _, a, b.usage, s.planned, s.used, s.settled, packed, writes, born, read writes⟩,
    crowded, result _ _ crowded, told, diagnostics _ _ told, ⟨_, ok⟩, enough le_rfl⟩

end ParticleShaders
