import ParticleShaders.Proofs.Plan.Faults
import ParticleShaders.Proofs.Signal.Baking
import ParticleShaders.Proofs.Usage.ClosedForm

namespace ParticleShaders

def Rejection.IsAboutUses (limit : Nat) : Rejection → Prop
  | unmetNeed .. | twoTypes .. => True
  | phaseShift name => name = Attribute.velocity.name
  | tooManyBuffers _ max => max = limit
  | _ => False

variable {plan : Plan} {options : Options} {e : Rejection}

theorem Plan.usages_failsOnly (plan : Plan) :
    FailsOnly (fun e => ∃ stage reason, e = .unmetNeed stage reason) plan.usages := by
  have unmet (stage : Stage) (needs : List Need) (t : UsageTable) :
      FailsOnly (fun e => ∃ stage reason, e = .unmetNeed stage reason)
        (Need.meetAll stage needs t).2 :=
    fun _ h => ⟨stage, Need.meetAll_eq_error h⟩
  refine (unmet .init plan.init.needs _).bind fun _ => ?_
  refine (unmet .update plan.update.needs _).bind fun _ => ?_
  exact (unmet .output plan.output.needs _).bind fun _ => .ok _

theorem UsageTable.applyRules_eq_error {t : UsageTable} {demands : Demands} {phaseShift : Bool}
    (placed : .position ∈ t.attributes) (h : t.applyRules demands phaseShift = .error e) :
    phaseShift ∧ e = .phaseShift Attribute.velocity.name := by
  unfold applyRules at h
  split at h
  · next shifted =>
    split at h
    · next a lacking =>
      cases h
      have mem := List.mem_of_find?_eq_some lacking
      have absent := List.find?_some lacking
      simp only [List.mem_cons, List.not_mem_nil, or_false] at mem
      have velocity : a = .velocity := by
        refine mem.resolve_left ?_
        rintro rfl
        simp [contains, placed] at absent
      exact ⟨shifted, congrArg (fun a => Rejection.phaseShift a.name) velocity⟩
    · cases h
  · cases h

namespace ParticleSystem

theorem layOut_eq_error {table : UsageTable} {limit : Nat} (h : layOut table limit = .error e) :
    (∃ name first second, e = .twoTypes name first second) ∨
      (limit < table.usages.length ∧ e = .tooManyBuffers table.usages.length limit) := by
  rcases bind_eq_error_iff.1 h with h | ⟨_, -, h⟩
  · unfold UsageTable.checkNames at h
    split at h
    · cases h
      exact .inl ⟨_, _, _, rfl⟩
    · cases h
  · unfold UsageTable.pack at h
    split at h
    · next few =>
      cases h
      exact .inr ⟨few, rfl⟩
    · cases h

variable {system : ParticleSystem} {library : Library} {params : ParamTable}

/-- A system that has a plan compiles, or else it is rejected as any system is whose plan has the
same uses. -/
theorem compile_cases_of_planned (planned : Plan.ofSystem system library params = .ok plan)
    (options : Options) : (∃ s : Compilation system library params options, s.plan = plan) ∨
      ∃ e told left, e.IsAboutUses options.bufferLimit ∧
        ∀ {other : ParticleSystem} {library' : Library} {params' : ParamTable} {plan' : Plan},
          Plan.ofSystem other library' params' = .ok plan' → plan'.usages = plan.usages →
          ∀ before, other.compile library' params' options before
            = ⟨.error e, told, left, before⟩ := by
  cases used : plan.usages with
  | error e =>
    have about : e.IsAboutUses options.bufferLimit := by
      obtain ⟨_, _, rfl⟩ := plan.usages_failsOnly e used
      trivial
    refine .inr ⟨e, [.ofRejection e], options, about, ?_⟩
    intro _ _ _ _ planned' same before
    simp only [compile, planned', same]
    rfl
  | ok use =>
    cases settled : use.1.applyRules use.2 options.phaseShift with
    | error e =>
      have about : e.IsAboutUses options.bufferLimit := by
        have placed := (Plan.used_of_usages used).placed
        obtain ⟨-, rfl⟩ := UsageTable.applyRules_eq_error placed settled
        rfl
      refine .inr ⟨e, [.ofRejection e], { options with phaseShift := false }, about, ?_⟩
      intro _ _ _ _ planned' same before
      simp only [compile, planned', same, settled]
      rfl
    | ok ruled =>
      cases laidOut : layOut ruled.table options.bufferLimit with
      | error e =>
        have about : e.IsAboutUses options.bufferLimit := by
          rcases layOut_eq_error laidOut with ⟨_, _, _, rfl⟩ | ⟨-, rfl⟩
          · trivial
          · rfl
        refine .inr ⟨e, ruled.defaulted.map .uninitialized ++ [.ofRejection e], options, about, ?_⟩
        intro _ _ _ _ planned' same before
        simp only [compile, planned', same, settled, laidOut]
        rfl
      | ok buffers =>
        obtain ⟨baked, signals, -⟩ := (Plan.resolved_of_ofSystem planned).bake_eq_ok
        exact .inl ⟨⟨plan, use.1, use.2, ruled, buffers, baked, planned, used, settled, laidOut,
          signals⟩, rfl⟩

theorem rejection_of_planned (planned : Plan.ofSystem system library params = .ok plan)
    {before : Bake} (h : (system.compile library params options before).result = .error e) :
    e.IsAboutUses options.bufferLimit := by
  rcases compile_cases_of_planned planned options with ⟨s, -⟩ | ⟨e, told, left, about, failed⟩
  · rw [s.compile_eq] at h
    cases h
  · rw [failed planned rfl] at h
    cases h
    exact about

end ParticleSystem

end ParticleShaders
