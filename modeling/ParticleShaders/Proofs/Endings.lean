import ParticleShaders.Proofs.Usage.Rejections

namespace ParticleShaders

def Outcome.rejection? (o : Outcome) : Option Rejection :=
  match o.result with
  | .error e => some e
  | .ok _ => none

theorem Outcome.rejection?_eq_some_iff {o : Outcome} {e : Rejection} :
    o.rejection? = some e ↔ o.result = .error e := by
  unfold rejection?
  cases o.result <;> simp

namespace ParticleSystem

inductive Ending (system : ParticleSystem) (library : Library) (params : ParamTable)
    (options : Options) (before : Bake) : Outcome → Prop
  | unplanned {e : Rejection} (failed : Plan.ofSystem system library params = .error e) :
    Ending system library params options before (reject e [] options before)
  | unmet {plan : Plan} {e : Rejection} (planned : Plan.ofSystem system library params = .ok plan)
      (failed : plan.usages = .error e) :
    Ending system library params options before (reject e [] options before)
  | unshifted {plan : Plan} {table : UsageTable} {demands : Demands} {e : Rejection}
      (planned : Plan.ofSystem system library params = .ok plan)
      (used : plan.usages = .ok (table, demands))
      (failed : table.applyRules demands options.phaseShift = .error e) :
    Ending system library params options before
      (reject e [] { options with phaseShift := false } before)
  | unpacked {plan : Plan} {table : UsageTable} {demands : Demands} {ruled : UsageTable.Ruled}
      {e : Rejection} (planned : Plan.ofSystem system library params = .ok plan)
      (used : plan.usages = .ok (table, demands))
      (settled : table.applyRules demands options.phaseShift = .ok ruled)
      (failed : layOut ruled.table options.bufferLimit = .error e) :
    Ending system library params options before
      (reject e (ruled.defaulted.map .uninitialized) options before)
  | compiled (s : Compilation system library params options) :
    Ending system library params options before
      { result := .ok s.compiled
        diagnostics := s.ruled.defaulted.map .uninitialized
          ++ Diagnostic.ofBuffers s.ruled.table s.buffers ++ Diagnostic.ofPlan s.plan
        options
        bake := s.baked }

variable {system : ParticleSystem} {library : Library} {params : ParamTable} {options : Options}
  {before : Bake}

theorem ending_compile :
    Ending system library params options before (system.compile library params options before) := by
  cases planned : Plan.ofSystem system library params with
  | error e =>
    rw [compile, planned]
    exact .unplanned planned
  | ok plan =>
    cases used : plan.usages with
    | error e =>
      simp only [compile, planned, used]
      exact .unmet planned used
    | ok use =>
      cases settled : use.1.applyRules use.2 options.phaseShift with
      | error e =>
        simp only [compile, planned, used, settled]
        exact .unshifted planned used settled
      | ok ruled =>
        cases laidOut : layOut ruled.table options.bufferLimit with
        | error e =>
          simp only [compile, planned, used, settled, laidOut]
          exact .unpacked planned used settled laidOut
        | ok buffers =>
          obtain ⟨baked, signals, -⟩ := (Plan.resolved_of_ofSystem planned).bake_eq_ok
          let s : Compilation system library params options :=
            ⟨plan, use.1, use.2, ruled, buffers, baked, planned, used, settled, laidOut, signals⟩
          rw [s.compile_eq]
          exact .compiled s

namespace Ending

variable {o : Outcome} (ending : Ending system library params options before o)

include ending

theorem cases_of_phaseShift :
    (options.phaseShift ∧ (∃ plan table demands, Plan.ofSystem system library params = .ok plan ∧
        plan.usages = .ok (table, demands)) ∧
      o.result = .error (.phaseShift Attribute.velocity.name) ∧
      o.options = { options with phaseShift := false }) ∨
    ((∀ name, o.result ≠ .error (.phaseShift name)) ∧ o.options = options) := by
  cases ending with
  | unplanned failed =>
    refine .inr ⟨fun name same => ?_, rfl⟩
    cases same
    exact Plan.ofSystem_failsOnly _ _ _ _ failed
  | unmet planned failed =>
    refine .inr ⟨fun name same => ?_, rfl⟩
    cases same
    obtain ⟨_, _, same⟩ := Plan.usages_failsOnly _ _ failed
    cases same
  | unshifted planned used failed =>
    obtain ⟨shifted, rfl⟩ := UsageTable.applyRules_eq_error (Plan.used_of_usages used).placed failed
    exact .inl ⟨shifted, ⟨_, _, _, planned, used⟩, rfl, rfl⟩
  | unpacked planned used settled failed =>
    refine .inr ⟨fun name same => ?_, rfl⟩
    cases same
    rcases layOut_eq_error failed with ⟨_, _, _, same⟩ | ⟨-, same⟩ <;> cases same
  | compiled s => exact .inr ⟨nofun, rfl⟩

theorem cases_of_used {plan : Plan} {table : UsageTable} {demands : Demands}
    (planned : Plan.ofSystem system library params = .ok plan)
    (used : plan.usages = .ok (table, demands)) (unshifted : options.phaseShift = false) :
    (∃ c, o.result = .ok c) ∨
    (∃ name first second, o.result = .error (.twoTypes name first second)) ∨
    ∃ used max, o.result = .error (.tooManyBuffers used max) := by
  cases ending with
  | unplanned failed =>
    rw [planned] at failed
    cases failed
  | unmet planned' failed =>
    cases planned.symm.trans planned'
    rw [used] at failed
    cases failed
  | unshifted planned' used' failed =>
    obtain ⟨shifted, -⟩ := UsageTable.applyRules_eq_error (Plan.used_of_usages used').placed failed
    rw [unshifted] at shifted
    cases shifted
  | unpacked _ _ _ failed =>
    rcases layOut_eq_error failed with ⟨name, first, second, rfl⟩ | ⟨-, rfl⟩
    · exact .inr (.inl ⟨name, first, second, rfl⟩)
    · exact .inr (.inr ⟨_, _, rfl⟩)
  | compiled s => exact .inl ⟨_, rfl⟩

end Ending

/-- A compilation keeps its options unless it is rejected for a phase shift. Then the velocity is
missing, the shift is given up and nothing else, and what is left of the options serves, unless the
buffers of the system do not. -/
theorem compile_options (system : ParticleSystem) (library : Library) (params : ParamTable)
    (options : Options) (before : Bake) :
    let o := system.compile library params options before
    ((∀ name, o.result ≠ .error (.phaseShift name)) → o.options = options) ∧
    ∀ name, o.result = .error (.phaseShift name) →
      name = "velocity" ∧ options.phaseShift ∧ o.options = { options with phaseShift := false } ∧
      ∀ before',
        let retry := system.compile library params o.options before'
        (∃ c, retry.result = .ok c) ∨
        (∃ name first second, retry.result = .error (.twoTypes name first second)) ∨
        ∃ used max, retry.result = .error (.tooManyBuffers used max) := by
  intro o
  have ending : Ending system library params options before o := ending_compile
  rcases ending.cases_of_phaseShift with
    ⟨shifted, ⟨plan, table, demands, planned, used⟩, result, left⟩ | ⟨other, kept⟩
  · refine ⟨fun other => absurd result (other _), fun name h => ?_⟩
    obtain rfl : Attribute.velocity.name = name := by
      have same := result.symm.trans h
      cases same
      rfl
    refine ⟨rfl, shifted, left, fun before' => ?_⟩
    exact ending_compile.cases_of_used planned used (congrArg Options.phaseShift left)
  · exact ⟨fun _ => kept, fun name h => absurd h (other name)⟩

end ParticleSystem

def tiles (writable : Bool) (names : List String) : List AttributeDecl :=
  names.map (⟨·, .float, writable⟩)

def mosaic : ParticleSystem where
  version := "1"
  metadata := { name := "Mosaic" }
  id := "mosaic"
  contexts := [
    { id := "birth", stage := .init, blocks := [
        { id := "lay", type := "Lay", descriptor := some
            { attributes := ⟨"position", .float3, true⟩
                :: tiles false ["a", "b", "c", "d", "e", "f"]
                ++ tiles true ["g", "h", "i", "j", "k"],
              source := ["position = a;"] } }] },
    { id := "life", stage := .update, blocks := [
        { id := "wear", type := "Wear", descriptor := some
            { attributes := tiles false ["b", "e", "h", "j"]
                ++ tiles true ["c", "f", "i", "k"] } }] },
    { id := "drawing", stage := .output, blocks := [
        { id := "shine", type := "Shine", descriptor := some
            { attributes := tiles false ["d", "e", "f", "j", "k"] } }] }]

theorem mosaic_options :
    (mosaic.compile ∅ ∅ {} .empty).result = .error (.tooManyBuffers 12 6) ∧
    (mosaic.compile ∅ ∅ {} .empty).options = {} ∧
    let o := mosaic.compile ∅ ∅ { phaseShift := true } .empty
    o.result = .error (.phaseShift "velocity") ∧ o.options = {} ∧
    let retry := mosaic.compile ∅ ∅ o.options .empty
    (∃ c, retry.result = .ok c) ∨
    (∃ name first second, retry.result = .error (.twoTypes name first second)) ∨
    ∃ used max, retry.result = .error (.tooManyBuffers used max) := by
  have crowded : (mosaic.compile ∅ ∅ {} .empty).result = .error (.tooManyBuffers 12 6) :=
    Outcome.rejection?_eq_some_iff.1 (by decide +kernel)
  have still : (mosaic.compile ∅ ∅ { phaseShift := true } .empty).result
      = .error (.phaseShift "velocity") :=
    Outcome.rejection?_eq_some_iff.1 (by decide +kernel)
  obtain ⟨kept, -⟩ := ParticleSystem.compile_options mosaic ∅ ∅ {} .empty
  obtain ⟨-, shifted⟩ := ParticleSystem.compile_options mosaic ∅ ∅ { phaseShift := true } .empty
  obtain ⟨-, -, left, retry⟩ := shifted _ still
  exact ⟨crowded, kept (by simp [crowded]), still, left, retry .empty⟩

end ParticleShaders
