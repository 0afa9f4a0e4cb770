import ParticleShaders.Proofs.Param.Resolution

namespace ParticleShaders

def lastSettings? (contexts : List Context) (stage : Stage) : Option Settings :=
  (contexts.filter (·.stage = stage)).getLast?.map (·.settings)

theorem lastSettings?_concat (contexts : List Context) (c : Context) (stage : Stage) :
    lastSettings? (contexts ++ [c]) stage
      = if c.stage = stage then some c.settings else lastSettings? contexts stage := by
  unfold lastSettings?
  split
  · next same => simp [List.filter_append, same]
  · next other => simp [List.filter_append, other]

namespace ParticleSystem

variable (system : ParticleSystem) (stage : Stage)

def contextsOf : List Context := system.contexts.filter (·.stage = stage)

def blocksOf : List Block := (system.contextsOf stage).flatMap (·.blocks)

variable {system stage}

theorem lastSettings?_congr {other : ParticleSystem}
    (same : system.contextsOf stage = other.contextsOf stage) :
    lastSettings? system.contexts stage = lastSettings? other.contexts stage :=
  congrArg (fun cs => cs.getLast?.map Context.settings) same

end ParticleSystem

namespace Plan

variable {system : ParticleSystem} {library : Library} {params : ParamTable} {plan : Plan}

theorem stagedBlocks_of_stage (contexts : List Context) (stage : Stage) :
    ((stagedBlocks contexts).filter (·.1 = stage)).map (·.2)
      = (contexts.filter (·.stage = stage)).flatMap (·.blocks) := by
  induction contexts with
  | nil => rfl
  | cons c rest ih =>
    simp only [stagedBlocks, List.flatMap_cons, List.filter_append, List.map_append] at ih ⊢
    rw [ih]
    by_cases same : c.stage = stage
    · rw [List.filter_cons_of_pos (by simpa using same), List.flatMap_cons]
      simp [List.filter_map, List.map_map, Function.comp_def, same]
    · rw [List.filter_cons_of_neg (by simpa using same)]
      simp [List.filter_map, Function.comp_def, same]

theorem mapM_bind_of_stage {staged : List (Stage × Block)} {found : List (Stage × BoundBlock)}
    (h : staged.mapM (bindStaged library params) = .ok found) (stage : Stage) :
    ((staged.filter (·.1 = stage)).map (·.2)).mapM (·.bind library params stage)
      = .ok (blocksOf stage found) := by
  induction staged generalizing found with
  | nil =>
    cases h
    rfl
  | cons b rest ih =>
    rw [List.mapM_cons] at h
    obtain ⟨_, staged_b, h⟩ := bind_eq_ok_iff.1 h
    obtain ⟨bound, bind_b, rfl⟩ := map_eq_ok_iff.1 staged_b
    obtain ⟨later, bind_rest, h⟩ := bind_eq_ok_iff.1 h
    cases h
    have ih := ih bind_rest
    unfold blocksOf at ih ⊢
    by_cases same : b.1 = stage
    · subst same
      rw [List.filter_cons_of_pos (by simp), List.filter_cons_of_pos (by simp), List.map_cons,
        List.mapM_cons, bind_b, ih]
      rfl
    · rw [List.filter_cons_of_neg (by simpa using same),
        List.filter_cons_of_neg (by simpa using same), ih]

structure Found.Made (found : Found) (contexts : List Context) (params : ParamTable) : Prop where
  init : ∀ g ∈ found.init,
    (lastSettings? contexts .init).map (InitGenerator.ofSettings · params) = some (.ok g)
  update : ∀ g ∈ found.update,
    (lastSettings? contexts .update).map UpdateGenerator.ofSettings = some g
  output : ∀ g ∈ found.output,
    (lastSettings? contexts .output).map (OutputGenerator.ofSettings · params) = some (.ok g)

theorem made_of_settle {found found' : Found} {contexts : List Context} {c : Context}
    (made : found.Made contexts params) (h : settle params found c = .ok found') :
    found'.Made (contexts ++ [c]) params := by
  obtain ⟨init, update, output⟩ := made
  have own : lastSettings? (contexts ++ [c]) c.stage = some c.settings := by
    rw [lastSettings?_concat, if_pos rfl]
  have kept (stage : Stage) (other : c.stage ≠ stage) :
      lastSettings? (contexts ++ [c]) stage = lastSettings? contexts stage := by
    rw [lastSettings?_concat, if_neg other]
  obtain ⟨id, stage, settings, blocks⟩ := c
  cases stage with
  | init =>
    obtain ⟨g, ofSettings, rfl⟩ := map_eq_ok_iff.1 h
    refine ⟨fun g' hg => ?_, kept .update nofun ▸ update, kept .output nofun ▸ output⟩
    cases hg
    rw [own]
    exact congrArg some ofSettings
  | update =>
    cases h
    refine ⟨kept .init nofun ▸ init, fun g' hg => ?_, kept .output nofun ▸ output⟩
    cases hg
    rw [own]
    rfl
  | output =>
    obtain ⟨g, ofSettings, rfl⟩ := map_eq_ok_iff.1 h
    refine ⟨kept .init nofun ▸ init, kept .update nofun ▸ update, fun g' hg => ?_⟩
    cases hg
    rw [own]
    exact congrArg some ofSettings

theorem made_of_foldlM {contexts : List Context} {found : Found}
    (h : contexts.foldlM (settle params) {} = .ok found) : found.Made contexts params := by
  induction contexts using List.reverseRecOn generalizing found with
  | nil =>
    cases h
    constructor <;> simp
  | append_singleton rest c ih =>
    rw [List.foldlM_append] at h
    obtain ⟨before, h, last⟩ := bind_eq_ok_iff.1 h
    rw [List.foldlM_cons] at last
    obtain ⟨after, step, last⟩ := bind_eq_ok_iff.1 last
    cases last
    exact made_of_settle (ih h) step

structure Staged (plan : Plan) (system : ParticleSystem) (library : Library)
    (params : ParamTable) : Prop where
  blocks : ∀ stage,
    (system.blocksOf stage).mapM (·.bind library params stage) = .ok (plan.blocks stage)
  init : (lastSettings? system.contexts .init).map (InitGenerator.ofSettings · params)
    = some (.ok plan.init)
  update : (lastSettings? system.contexts .update).map UpdateGenerator.ofSettings
    = some plan.update
  output : (lastSettings? system.contexts .output).map (OutputGenerator.ofSettings · params)
    = some (.ok plan.output)
  demands : plan.demands =
    { initRand := anyNeeds .rand plan.initBlocks
      updateRand := anyNeeds .rand plan.updateBlocks
      updateKill := anyNeeds .kill plan.updateBlocks }

theorem staged_of_ofSystem (h : ofSystem system library params = .ok plan) :
    plan.Staged system library params := by
  obtain ⟨s⟩ := exists_planning h
  have made := made_of_foldlM s.settled
  refine ⟨fun stage => ?_, made.init _ s.init, made.update _ s.update, made.output _ s.output,
    s.demands⟩
  rw [s.blocks, ← mapM_bind_of_stage s.bindings, stagedBlocks_of_stage]
  rfl

end Plan

end ParticleShaders
