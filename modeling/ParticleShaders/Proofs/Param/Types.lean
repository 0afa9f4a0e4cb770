import ParticleShaders.Proofs.Host.Pushes
import ParticleShaders.Proofs.Renaming.Planning
import ParticleShaders.Proofs.Usage.Rejections

namespace ParticleShaders

def ParamTable.TypedAlikeOn (params other : ParamTable) (ids : List String) : Prop :=
  ∀ id ∈ ids, (params.find? id).map (·.type) = (other.find? id).map (·.type)

instance (params other : ParamTable) (ids : List String) :
    Decidable (params.TypedAlikeOn other ids) :=
  inferInstanceAs (Decidable (∀ id ∈ ids, _))

variable {params other : ParamTable} {system : ParticleSystem} {library : Library}

theorem ParamTable.TypedAlikeOn.renamedOn {ids : List String} (h : params.TypedAlikeOn other ids) :
    params.RenamedOn (fun s => s) other ids := by
  intro id hid
  have param (table : ParamTable) :
      table.param? id = ((table.find? id).map (·.type)).map (Param.mk id) := by
    rw [ParamTable.param?, Option.map_map]
    rfl
  rw [param, param, h id hid]
  simp only [Param.rename_id, Option.map_id']

theorem Plan.ofSystem_congr (h : params.TypedAlikeOn other system.paramIds) :
    ofSystem system library other = ofSystem system library params := by
  have renamed := ofSystem_rename h.renamedOn library
  simpa using renamed

namespace Bake

theorem hasColor_eq (b : Bake) : b.hasColor = b.colorTexture?.isSome := by
  unfold hasColor colorTexture? texture?
  cases b.gradients <;> rfl

theorem hasFloat_eq (b : Bake) : b.hasFloat = b.floatTexture?.isSome := by
  unfold hasFloat floatTexture? texture?
  cases b.curves <;> rfl

end Bake

theorem Compilation.exists_by_types {options : Options}
    (s : Compilation system library params options)
    (h : params.TypedAlikeOn other system.paramIds) :
    ∃ t : Compilation system library other options, t.plan = s.plan ∧ t.ruled = s.ruled ∧
      t.buffers = s.buffers ∧ t.compiled = s.compiled := by
  have planned : Plan.ofSystem system library other = .ok s.plan :=
    (Plan.ofSystem_congr h).trans s.planned
  have r := Plan.resolved_of_ofSystem s.planned
  have r' := Plan.resolved_of_ofSystem planned
  obtain ⟨baked, signals, shown⟩ := r.bake_eq_ok
  obtain ⟨baked', signals', shown'⟩ := r'.bake_eq_ok
  obtain rfl : baked = s.baked := congrArg Prod.fst (signals.symm.trans s.signals)
  have color : baked'.hasColor = s.baked.hasColor := by
    rw [Bake.hasColor_eq, Bake.hasColor_eq, r.isSome_colorTexture? shown,
      r'.isSome_colorTexture? shown']
  have float : baked'.hasFloat = s.baked.hasFloat := by
    rw [Bake.hasFloat_eq, Bake.hasFloat_eq, r.isSome_floatTexture? shown,
      r'.isSome_floatTexture? shown']
  have blueprint : s.plan.blueprint s.ruled s.buffers options.phaseShift baked'
      = s.plan.blueprint s.ruled s.buffers options.phaseShift s.baked := by
    simp only [Plan.blueprint, Bake.code_congr color float]
  exact ⟨{ s with baked := baked', planned, signals := signals' }, rfl, rfl, rfl,
    congrArg (s.plan.compiled system) blueprint⟩

/-- Tables that give the parameters of a system the same types compile it alike. -/
theorem ParticleSystem.compile_by_types (h : params.TypedAlikeOn other system.paramIds)
    (library : Library) (options : Options) (before before' : Bake) :
    (system.compile library params options before).result
        = (system.compile library other options before').result ∧
      (system.compile library params options before).diagnostics
        = (system.compile library other options before').diagnostics ∧
      (system.compile library params options before).options
        = (system.compile library other options before').options := by
  have same : Plan.ofSystem system library other = Plan.ofSystem system library params :=
    Plan.ofSystem_congr h
  cases planned : Plan.ofSystem system library params with
  | error e =>
    rw [compile, compile, same, planned]
    exact ⟨rfl, rfl, rfl⟩
  | ok plan =>
    rcases compile_cases_of_planned planned options with ⟨s, -⟩ | ⟨e, told, left, -, failed⟩
    · obtain ⟨t, plan, ruled, buffers, compiled⟩ := s.exists_by_types h
      rw [s.compile_eq, t.compile_eq, plan, ruled, buffers, compiled]
      exact ⟨rfl, rfl, rfl⟩
    · rw [failed planned rfl, failed (same.trans planned) rfl]
      exact ⟨rfl, rfl, rfl⟩

def duskValues : ParamTable := .ofList
  [("drift", .float3 (.replicate 3 ParamValue.zero)),
   ("span", .float ParamValue.zero),
   ("glow", .colorGradient []),
   ("swell", .curve [⟨ParamValue.zero, ParamValue.one⟩]),
   ("grain", .texture2D ""),
   ("mask", .texture2D "mask.png"),
   ("paper", .texture2D ""),
   ("unused", .int 7)]

theorem dusk_by_types : ∃ c,
    (lanterns.compile ∅ lanternValues (.ofSystem lanterns) .empty).result = .ok c ∧
      (lanterns.compile ∅ duskValues (.ofSystem lanterns) .empty).result = .ok c := by
  have typed : lanternValues.TypedAlikeOn duskValues lanterns.paramIds := by
    decide +kernel
  have compiled :
      (lanterns.compile ∅ lanternValues (.ofSystem lanterns) .empty).result.toOption.map
        (·.blueprint.signals.hasColor) = some true := by
    decide +kernel
  obtain ⟨c, h, -⟩ := exists_of_toOption compiled
  have same := (ParticleSystem.compile_by_types typed ∅ (.ofSystem lanterns) .empty .empty).1
  exact ⟨c, h, same.symm.trans h⟩

end ParticleShaders
