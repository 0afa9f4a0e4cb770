import ParticleShaders.Proofs.Endings
import ParticleShaders.Proofs.Uniforms.Partition
import ParticleShaders.Proofs.Usage.Grouping
import ParticleShaders.Proofs.Usage.Order

namespace ParticleShaders

def Blueprint.report (d : Blueprint) : List Diagnostic :=
  [Diagnostic.attributeCount (d.buffers.map (·.attributes.length)).sum,
      .bufferCount d.buffers.length]
    ++ d.buffers.mapIdx (fun i b => .bufferLayout i (b.attributes.map (·.name)) b.byteSize)
    ++ [Diagnostic.blockCount .init d.initBlocks.length, .blockCount .update d.updateBlocks.length,
      .blockCount .output d.outputBlocks.length,
      .uniformCounts d.uniforms.plain.both.size d.uniforms.plain.init.size
        d.uniforms.plain.update.size d.uniforms.plain.output.size]

def Rejection.followsDefaults : Rejection → Bool
  | twoTypes .. | tooManyBuffers .. => true
  | _ => false

theorem Rejection.IsAboutPlan.precedes {e : Rejection} (h : e.IsAboutPlan) :
    e.followsDefaults = false := by
  cases e <;> first | rfl | exact absurd h id

namespace Diagnostic

theorem level_ofRejection (e : Rejection) : (ofRejection e).level = .error := by
  cases e <;> rfl

theorem ofRejection_isCapacity {e : Rejection} :
    (∃ used max, ofRejection e = .tooManyBuffers used max) ↔ e.isCapacity := by
  cases e <;> simp [ofRejection, Rejection.isCapacity]

theorem ofBuffers_eq {t : UsageTable} {limit : Nat} {buffers : List Buffer}
    (h : t.pack limit = .ok buffers) : ofBuffers t buffers =
      [attributeCount (buffers.map (·.attributes.length)).sum, .bufferCount buffers.length]
        ++ buffers.mapIdx fun i b => .bufferLayout i (b.attributes.map (·.name)) b.byteSize := by
  have total : t.size = (buffers.map (·.attributes.length)).sum := by
    rw [← List.length_flatMap, (UsageTable.grouping_of_pack h).perm.length_eq]
    exact (List.length_map _).symm
  have layouts : buffers.map (fun b => bufferLayout b.index (b.attributes.map (·.name)) b.byteSize)
      = buffers.mapIdx fun i b => .bufferLayout i (b.attributes.map (·.name)) b.byteSize := by
    refine List.ext_getElem (by simp) fun i bound _ => ?_
    have bound : i < buffers.length := by simpa using bound
    have index : buffers[i].index = i :=
      ((UsageTable.getElem?_pack h).1 (List.getElem?_eq_getElem bound)).2.1
    simp [index]
  rw [ofBuffers, total, layouts]

end Diagnostic

namespace Plan

def warnings (plan : Plan) (phaseShift : Bool) : List Diagnostic :=
  (plan.unset phaseShift).map (.uninitialized ·.name)

theorem level_of_mem_warnings {plan : Plan} {phaseShift : Bool} {d : Diagnostic}
    (h : d ∈ plan.warnings phaseShift) : d.level = .warning := by
  obtain ⟨a, -, rfl⟩ := List.mem_map.1 h
  rfl

theorem Settling.map_defaulted {plan : Plan} {phaseShift : Bool} (s : plan.Settling phaseShift) :
    s.ruled.defaulted.map .uninitialized = plan.warnings phaseShift := by
  rw [s.defaulted_ruled, List.map_map]
  rfl

end Plan

theorem Blueprint.level_of_mem_report {b : Blueprint} {d : Diagnostic} (h : d ∈ b.report) :
    d.level = .info := by
  simp only [report, List.mem_append, List.mem_cons, List.not_mem_nil, or_false,
    List.mem_mapIdx] at h
  rcases h with ((rfl | rfl) | ⟨i, -, rfl⟩) | rfl | rfl | rfl | rfl <;> rfl

namespace ParticleSystem

variable {system : ParticleSystem} {library : Library} {params : ParamTable} {options : Options}
  {before : Bake}

theorem Ending.told_of_error {o : Outcome} {e : Rejection}
    (ending : Ending system library params options before o) (h : o.result = .error e) :
    (e.followsDefaults = false ∧ o.diagnostics = [.ofRejection e]) ∨
      e.followsDefaults ∧ ∃ plan, Plan.ofSystem system library params = .ok plan ∧
        o.diagnostics = plan.warnings options.phaseShift ++ [.ofRejection e] := by
  cases ending with
  | unplanned failed =>
    cases h
    exact .inl ⟨(Plan.ofSystem_failsOnly _ _ _ _ failed).precedes, rfl⟩
  | unmet planned failed =>
    cases h
    obtain ⟨_, _, rfl⟩ := Plan.usages_failsOnly _ _ failed
    exact .inl ⟨rfl, rfl⟩
  | unshifted planned used failed =>
    cases h
    obtain ⟨-, rfl⟩ := UsageTable.applyRules_eq_error (Plan.used_of_usages used).placed failed
    exact .inl ⟨rfl, rfl⟩
  | @unpacked plan table demands ruled e planned used settled failed =>
    cases h
    have late : e.followsDefaults := by
      rcases layOut_eq_error failed with ⟨_, _, _, rfl⟩ | ⟨-, rfl⟩ <;> rfl
    let s : plan.Settling options.phaseShift :=
      ⟨table, demands, ruled, Plan.sound_of_ofSystem planned, used, settled⟩
    exact .inr ⟨late, plan, planned, congrArg (· ++ _) s.map_defaulted⟩
  | compiled s => cases h

theorem Ending.told_of_ok {o : Outcome} {c : Compiled}
    (ending : Ending system library params options before o) (h : o.result = .ok c) :
    ∃ plan, Plan.ofSystem system library params = .ok plan ∧
      o.diagnostics = plan.warnings options.phaseShift ++ c.blueprint.report := by
  cases ending with
  | unplanned _ | unmet _ _ | unshifted _ _ _ | unpacked _ _ _ _ => cases h
  | compiled s =>
    cases h
    refine ⟨s.plan, s.planned, ?_⟩
    have warned := s.settling.map_defaulted
    change s.ruled.defaulted.map _ ++ _ ++ _ = _
    rw [show s.ruled.defaulted.map Diagnostic.uninitialized = _ from warned,
      Diagnostic.ofBuffers_eq s.packed, List.append_assoc]
    rfl

/-- The diagnostics of a compilation tell what has happened. -/
theorem compile_tells (system : ParticleSystem) (library : Library) (params : ParamTable)
    (options : Options) (before : Bake) :
    let o := system.compile library params options before
    (∀ plan table demands ruled, Plan.ofSystem system library params = .ok plan →
      plan.usages = .ok (table, demands) →
      table.applyRules demands options.phaseShift = .ok ruled →
      ruled.table.attributes = plan.order options.phaseShift) ∧
    (∀ c, o.result = .ok c → ∃ plan, Plan.ofSystem system library params = .ok plan ∧
      o.diagnostics = plan.warnings options.phaseShift ++ c.blueprint.report ∧
      ∀ d ∈ o.diagnostics, d.level ≠ .error) ∧
    ∀ e, o.result = .error e → ∃ warnings, o.diagnostics = warnings ++ [.ofRejection e] ∧
      (if e.followsDefaults then ∃ plan, Plan.ofSystem system library params = .ok plan ∧
        warnings = plan.warnings options.phaseShift else warnings = []) ∧
      (∀ d ∈ warnings, d.level = .warning) ∧ (Diagnostic.ofRejection e).level = .error ∧
      ((∃ used max, .ofRejection e = Diagnostic.tooManyBuffers used max) ↔ e.isCapacity) := by
  intro o
  have ending : Ending system library params options before o := ending_compile
  refine ⟨fun plan table demands ruled planned used settled => ?_, fun c h => ?_, fun e h => ?_⟩
  · let s : plan.Settling options.phaseShift :=
      ⟨table, demands, ruled, Plan.sound_of_ofSystem planned, used, settled⟩
    exact s.attributes_ruled
  · obtain ⟨plan, planned, told⟩ := ending.told_of_ok h
    refine ⟨plan, planned, told, fun d hd => ?_⟩
    rw [told, List.mem_append] at hd
    rcases hd with hd | hd
    · rw [Plan.level_of_mem_warnings hd]
      decide
    · rw [Blueprint.level_of_mem_report hd]
      decide
  · have level := Diagnostic.level_ofRejection e
    have capacity := Diagnostic.ofRejection_isCapacity (e := e)
    rcases ending.told_of_error h with ⟨early, told⟩ | ⟨late, plan, planned, told⟩
    · exact ⟨[], told, by simp [early], by simp, level, capacity⟩
    · refine ⟨_, told, ?_, fun d => Plan.level_of_mem_warnings, level, capacity⟩
      rw [if_pos late]
      exact ⟨plan, planned, rfl⟩

end ParticleSystem

theorem lanterns_tell :
    let o := lanterns.compile ∅ lanternValues {} (Bake.empty.store "glow" (.curve []))
    let p := lanterns.compile ∅ lanternValues { bufferLimit := 1 } .empty
    (∃ c, o.result = .ok c ∧ o.diagnostics = .uninitialized "color" :: c.blueprint.report) ∧
    p.result = .error (.tooManyBuffers 2 1) ∧
    p.diagnostics = [.uninitialized "color", .tooManyBuffers 2 1] := by
  intro o p
  have compiled : o.result.toOption.map (·.blueprint.buffers.length) = some 2 := by
    decide +kernel
  have crowded : p.result = .error (.tooManyBuffers 2 1) :=
    Outcome.rejection?_eq_some_iff.1 (by decide +kernel)
  have unset : (Plan.ofSystem lanterns ∅ lanternValues).toOption.map (·.warnings false)
      = some [.uninitialized "color"] := by
    decide +kernel
  obtain ⟨c, ok, -⟩ := exists_of_toOption compiled
  obtain ⟨plan, planned, warned⟩ := exists_of_toOption unset
  obtain ⟨-, told, -⟩ := ParticleSystem.compile_tells lanterns ∅ lanternValues {}
    (Bake.empty.store "glow" (.curve []))
  obtain ⟨-, -, rejected⟩ := ParticleSystem.compile_tells lanterns ∅ lanternValues
    { bufferLimit := 1 } .empty
  obtain ⟨plan', planned', report, -⟩ := told c ok
  obtain ⟨warnings, failed, ⟨plan'', planned'', rfl⟩, -⟩ := rejected _ crowded
  cases planned.symm.trans planned'
  cases planned.symm.trans planned''
  exact ⟨⟨c, ok, report.trans (congrArg (· ++ _) warned)⟩, crowded,
    failed.trans (congrArg (· ++ _) warned)⟩

end ParticleShaders
