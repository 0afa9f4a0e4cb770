import ParticleShaders.Proofs.Plan.Stages
/-! Systems by their stages. A plan is all that there is to know of the contexts of a system, and it
is made if each of them has settings that make a generator, and of each stage the blocks in order
and the settings that come last. So one context of each stage does as well as many, and contexts
of different stages may stand in any order. -/

namespace ParticleShaders

namespace Plan

variable {params : ParamTable} {library : Library} {plan : Plan} {system : ParticleSystem}

def Settles (params : ParamTable) (c : Context) : Prop :=
  ∃ found, settle params {} c = .ok found

theorem exists_settle_iff {c : Context} (found : Found) :
    (∃ found', settle params found c = .ok found') ↔ Settles params c := by
  obtain ⟨id, stage, settings, blocks⟩ := c
  cases stage with
  | update => exact ⟨fun _ => ⟨_, rfl⟩, fun _ => ⟨_, rfl⟩⟩
  | _ =>
    simp only [Settles, settle, map_eq_ok_iff]
    constructor
    all_goals
      rintro ⟨_, g, made, -⟩
      exact ⟨_, g, made, rfl⟩

theorem Settles.congr {c c' : Context} (stage : c.stage = c'.stage)
    (settings : c.settings = c'.settings) (h : Settles params c) : Settles params c' := by
  unfold Settles settle at h ⊢
  rwa [stage, settings] at h

theorem exists_foldlM_settle_iff {contexts : List Context} (start : Found) :
    (∃ found, contexts.foldlM (settle params) start = .ok found) ↔
      ∀ c ∈ contexts, Settles params c := by
  induction contexts generalizing start with
  | nil => simp [pure, Except.pure]
  | cons c rest ih =>
    rw [List.forall_mem_cons]
    constructor
    · rintro ⟨found, h⟩
      rw [List.foldlM_cons] at h
      obtain ⟨next, first, later⟩ := bind_eq_ok_iff.1 h
      exact ⟨(exists_settle_iff start).1 ⟨next, first⟩, (ih next).1 ⟨found, later⟩⟩
    · rintro ⟨first, later⟩
      obtain ⟨next, first⟩ := (exists_settle_iff start).2 first
      obtain ⟨found, later⟩ := (ih next).2 later
      refine ⟨found, ?_⟩
      rw [List.foldlM_cons]
      exact bind_eq_ok_iff.2 ⟨next, first, later⟩

def Found.has (found : Found) : Stage → Bool
  | .init => found.init.isSome
  | .update => found.update.isSome
  | .output => found.output.isSome

theorem has_of_settle {found found' : Found} {c : Context} {stage : Stage}
    (h : settle params found c = .ok found') :
    found'.has stage = (decide (c.stage = stage) || found.has stage) := by
  obtain ⟨id, own, settings, blocks⟩ := c
  cases own with
  | update =>
    cases h
    cases stage <;> rfl
  | _ =>
    obtain ⟨g, -, rfl⟩ := map_eq_ok_iff.1 h
    cases stage <;> rfl

theorem has_of_foldlM {contexts : List Context} {found : Found}
    (h : contexts.foldlM (settle params) {} = .ok found) (stage : Stage) :
    found.has stage = (lastSettings? contexts stage).isSome := by
  induction contexts using List.reverseRecOn generalizing found with
  | nil =>
    cases h
    cases stage <;> rfl
  | append_singleton rest c ih =>
    rw [List.foldlM_append] at h
    obtain ⟨before, h, last⟩ := bind_eq_ok_iff.1 h
    rw [List.foldlM_cons] at last
    obtain ⟨after, step, last⟩ := bind_eq_ok_iff.1 last
    cases last
    rw [has_of_settle step, ih h, lastSettings?_concat]
    by_cases same : c.stage = stage <;> simp [same]

theorem eq_some_of_made {α β : Type} {found : Option α} {settings : Option Settings} {g : α}
    {make : Settings → β} {wrap : α → β} (inj : Function.Injective wrap)
    (has : found.isSome = settings.isSome)
    (made : ∀ g ∈ found, settings.map make = some (wrap g))
    (staged : settings.map make = some (wrap g)) : found = some g := by
  cases found with
  | none =>
    rw [← Option.isSome_map (f := make), staged] at has
    cases has
  | some g' =>
    have same := (made g' rfl).symm.trans staged
    rw [inj (Option.some.inj same)]

theorem Staged.found_eq (staged : plan.Staged system library params) {found : Found}
    (h : system.contexts.foldlM (settle params) {} = .ok found) :
    found = ⟨some plan.init, some plan.update, some plan.output⟩ := by
  have made := made_of_foldlM h
  have ok {α : Type} : Function.Injective (Except.ok (ε := Rejection) (α := α)) :=
    fun _ _ => Except.ok.inj
  have init : found.init = some plan.init :=
    eq_some_of_made ok (has_of_foldlM h .init) made.init staged.init
  have update : found.update = some plan.update :=
    eq_some_of_made Function.injective_id (has_of_foldlM h .update) made.update
      staged.update
  have output : found.output = some plan.output :=
    eq_some_of_made ok (has_of_foldlM h .output) made.output staged.output
  cases found
  simp_all

theorem Staged.exists_bound (staged : plan.Staged system library params) :
    ∃ found, (stagedBlocks system.contexts).mapM (bindStaged library params) = .ok found ∧
      ∀ stage, blocksOf stage found = plan.blocks stage := by
  have bound : ∀ b ∈ stagedBlocks system.contexts,
      ∃ bound, bindStaged library params b = .ok bound ∧ True := by
    rintro ⟨stage, b⟩ hb
    have mem : b ∈ system.blocksOf stage := by
      rw [ParticleSystem.blocksOf, ParticleSystem.contextsOf, ← stagedBlocks_of_stage]
      exact List.mem_map.2 ⟨_, List.mem_filter.2 ⟨hb, by simp⟩, rfl⟩
    obtain ⟨made, -, h⟩ :=
      exists_of_mem_forall₂ (forall₂_of_mapM_eq_ok (staged.blocks stage)).flip mem
    exact ⟨_, map_eq_ok_iff.2 ⟨made, h, rfl⟩, trivial⟩
  obtain ⟨found, bindings, -⟩ := exists_mapM_eq_ok bound
  refine ⟨found, bindings, fun stage => ?_⟩
  have same := mapM_bind_of_stage bindings stage
  rw [stagedBlocks_of_stage] at same
  exact Except.ok.inj (same.symm.trans (staged.blocks stage))

/-- A plan is made of the contexts of each stage by themselves, of which all must have settings that
serve, and of which those of init and update must have a block. -/
theorem ofSystem_eq_ok_iff : ofSystem system library params = .ok plan ↔
    (∀ c ∈ system.contexts, Settles params c) ∧ plan.Staged system library params ∧
      ¬ (plan.initBlocks = [] ∧ plan.updateBlocks = []) := by
  constructor
  · intro h
    obtain ⟨s⟩ := exists_planning h
    exact ⟨(exists_foldlM_settle_iff {}).1 ⟨s.found, s.settled⟩, staged_of_ofSystem h, s.inhabited⟩
  · rintro ⟨settles, staged, inhabited⟩
    obtain ⟨found, settled⟩ := (exists_foldlM_settle_iff {}).2 settles
    obtain rfl := staged.found_eq settled
    obtain ⟨bound, bindings, blocks⟩ := staged.exists_bound
    have init : blocksOf .init bound = plan.initBlocks := blocks .init
    have update : blocksOf .update bound = plan.updateBlocks := blocks .update
    have output : blocksOf .output bound = plan.outputBlocks := blocks .output
    have demands := staged.demands
    unfold ofSystem
    rw [settled, bindings]
    simp only [orMissing, bind, Except.bind, init, update, output]
    rw [if_neg (by simpa using inhabited), ← demands]
    rfl

theorem ofSystem_withContexts (planned : ofSystem system library params = .ok plan)
    {contexts : List Context}
    (given : ∀ c ∈ contexts, ∃ c' ∈ system.contexts, c'.stage = c.stage ∧ c'.settings = c.settings)
    (blocks : ∀ stage, (contexts.filter (·.stage = stage)).flatMap (·.blocks)
      = system.blocksOf stage)
    (settings : ∀ stage, lastSettings? contexts stage = lastSettings? system.contexts stage) :
    ofSystem { system with contexts } library params = .ok plan := by
  obtain ⟨settles, staged, inhabited⟩ := ofSystem_eq_ok_iff.1 planned
  refine ofSystem_eq_ok_iff.2 ⟨fun c hc => ?_, ?_, inhabited⟩
  · obtain ⟨c', hc', stage, same⟩ := given c hc
    exact (settles c' hc').congr stage same
  · refine ⟨fun stage => ?_, ?_, ?_, ?_, staged.demands⟩
    · rw [← staged.blocks stage, ← blocks stage]
      rfl
    · rw [← staged.init, ← settings .init]
    · rw [← staged.update, ← settings .update]
    · rw [← staged.output, ← settings .output]

end Plan

namespace ParticleSystem

variable {system : ParticleSystem} {library : Library} {params : ParamTable} {plan : Plan}
  {contexts : List Context}

section

variable (system)

def gathered (ids : Stage → String) (stage : Stage) : Context where
  id := ids stage
  stage
  settings := (lastSettings? system.contexts stage).getD ∅
  blocks := system.blocksOf stage

/-- One context of each stage, in some order and under any names. -/
def IsNormalForm (contexts : List Context) : Prop :=
  ∃ ids, contexts.Perm (Stage.all.map (system.gathered ids))

/-- The contexts of each stage, in the order that they have among themselves. -/
def IsInterleaving (contexts : List Context) : Prop :=
  ∀ stage, contexts.filter (·.stage = stage) = system.contextsOf stage

end

theorem IsNormalForm.exists_filter_eq (h : system.IsNormalForm contexts) (stage : Stage) :
    ∃ ids, contexts.filter (·.stage = stage) = [system.gathered ids stage] := by
  obtain ⟨ids, same⟩ := h
  refine ⟨ids, List.perm_singleton.1 ?_⟩
  have gathered : (Stage.all.map (system.gathered ids)).filter (·.stage = stage)
      = [system.gathered ids stage] := by
    cases stage <;> rfl
  rw [← gathered]
  exact same.filter _

theorem lastSettings?_of_planned (planned : Plan.ofSystem system library params = .ok plan)
    (stage : Stage) : ∃ c ∈ system.contexts, c.stage = stage ∧
      lastSettings? system.contexts stage = some c.settings := by
  have staged := Plan.staged_of_ofSystem planned
  have found : ∃ settings, lastSettings? system.contexts stage = some settings := by
    cases stage with
    | init => exact (Option.map_eq_some_iff.1 staged.init).imp fun _ => And.left
    | update => exact (Option.map_eq_some_iff.1 staged.update).imp fun _ => And.left
    | output => exact (Option.map_eq_some_iff.1 staged.output).imp fun _ => And.left
  obtain ⟨settings, found⟩ := found
  obtain ⟨c, last, same⟩ := Option.map_eq_some_iff.1 found
  obtain ⟨mem, own⟩ := List.mem_filter.1 (List.mem_of_getLast? last)
  exact ⟨c, mem, by simpa using own, same ▸ found⟩

theorem IsNormalForm.planned (h : system.IsNormalForm contexts)
    (planned : Plan.ofSystem system library params = .ok plan) :
    Plan.ofSystem { system with contexts } library params = .ok plan := by
  refine Plan.ofSystem_withContexts planned (fun c hc => ?_) (fun stage => ?_) fun stage => ?_
  · obtain ⟨ids, own⟩ := h.exists_filter_eq c.stage
    have mem : c ∈ contexts.filter (·.stage = c.stage) := List.mem_filter.2 ⟨hc, by simp⟩
    rw [own, List.mem_singleton] at mem
    obtain ⟨c', hc', stage, settings⟩ := lastSettings?_of_planned planned c.stage
    refine ⟨c', hc', stage, ?_⟩
    rw [mem, gathered, settings]
    rfl
  · obtain ⟨ids, own⟩ := h.exists_filter_eq stage
    rw [own, List.flatMap_singleton]
    rfl
  · obtain ⟨ids, own⟩ := h.exists_filter_eq stage
    obtain ⟨c, -, -, settings⟩ := lastSettings?_of_planned planned stage
    rw [lastSettings?, own, settings]
    simp [gathered, settings]

theorem IsInterleaving.planned (h : system.IsInterleaving contexts)
    (planned : Plan.ofSystem system library params = .ok plan) :
    Plan.ofSystem { system with contexts } library params = .ok plan := by
  refine Plan.ofSystem_withContexts planned (fun c hc => ?_) (fun stage => ?_) fun stage => ?_
  · have mem : c ∈ contexts.filter (·.stage = c.stage) := List.mem_filter.2 ⟨hc, by simp⟩
    rw [h c.stage] at mem
    exact ⟨c, (List.mem_filter.1 mem).1, rfl, rfl⟩
  · rw [h stage]
    rfl
  · rw [lastSettings?, h stage]
    rfl

theorem compile_withContexts
    (same : Plan.ofSystem { system with contexts } library params
      = Plan.ofSystem system library params) (options : Options) (before : Bake) :
    ({ system with contexts } : ParticleSystem).compile library params options before
      = system.compile library params options before := by
  unfold compile
  rw [same]
  rfl

/-- A system that has a plan has the same plan when the contexts of each stage are gathered into
one, or stand otherwise among those of other stages; and it is compiled in the same way. -/
theorem compile_by_stages (planned : Plan.ofSystem system library params = .ok plan)
    (arranged : system.IsNormalForm contexts ∨ system.IsInterleaving contexts) :
    Plan.ofSystem { system with contexts } library params = .ok plan ∧
      ∀ options before,
        ({ system with contexts } : ParticleSystem).compile library params options before
          = system.compile library params options before := by
  have same : Plan.ofSystem { system with contexts } library params = .ok plan :=
    arranged.elim (·.planned planned) (·.planned planned)
  exact ⟨same, compile_withContexts (same.trans planned.symm)⟩

end ParticleSystem

def gusts : ParticleSystem where
  version := "1"
  metadata := { name := "Gusts" }
  id := "gusts"
  contexts := [
    { id := "still", stage := .output, settings := .ofList [("kind", ⟨.string "point", trivial⟩)] },
    { id := "seeds", stage := .init, blocks := [
        { id := "place", type := "Place", descriptor := some
            { attributes := [⟨"position", .float3, true⟩], source := ["position = 0.0;"] } }] },
    { id := "air", stage := .update, settings := .ofList [("integrate", ⟨.bool true, trivial⟩)],
      blocks := [
        { id := "lift", type := "Lift", descriptor := some
            { attributes := [⟨"velocity", .float3, true⟩], source := ["velocity.y += 0.1;"] } }] },
    { id := "leaves", stage := .init,
      settings := .ofList [("lifetime", ⟨.number (.int 3), trivial⟩)],
      blocks := [
        { id := "push", type := "Push", descriptor := some
            { attributes := [⟨"velocity", .float3, true⟩], source := ["velocity = 1.0;"] } }] },
    { id := "drag", stage := .update, settings := .ofList [("age", ⟨.bool true, trivial⟩)] },
    { id := "sky", stage := .output,
      settings := .ofList [("kind", ⟨.string "billboard", trivial⟩)] }]

def gatheredGusts : List Context :=
  [.output, .update, .init].map (gusts.gathered Stage.label)

def sortedGusts : List Context :=
  [.init, .update, .output].flatMap fun stage => gusts.contexts.filter (·.stage = stage)

theorem gusts_by_stages : ∃ plan, Plan.ofSystem gusts ∅ ∅ = .ok plan ∧
    (plan.initBlocks ++ plan.updateBlocks).map (·.id) = ["place", "push", "lift"] ∧
    (∃ c, (gusts.compile ∅ ∅ {} .empty).result = .ok c) ∧
    Plan.ofSystem { gusts with contexts := gatheredGusts } ∅ ∅ = .ok plan ∧
    Plan.ofSystem { gusts with contexts := sortedGusts } ∅ ∅ = .ok plan ∧
    ({ gusts with contexts := gatheredGusts } : ParticleSystem).compile ∅ ∅ {} .empty
      = gusts.compile ∅ ∅ {} .empty ∧
    ({ gusts with contexts := sortedGusts } : ParticleSystem).compile ∅ ∅ {} .empty
      = gusts.compile ∅ ∅ {} .empty := by
  have made : (Plan.ofSystem gusts ∅ ∅).toOption.map
      (fun plan => (plan.initBlocks ++ plan.updateBlocks).map (·.id))
        = some ["place", "push", "lift"] := by
    decide +kernel
  have succeeded : (gusts.compile ∅ ∅ {} .empty).result.toOption.map (·.systemId)
      = some "gusts" := by
    decide +kernel
  obtain ⟨plan, planned, blocks⟩ := exists_of_toOption made
  obtain ⟨c, ok, -⟩ := exists_of_toOption succeeded
  have normal : gusts.IsNormalForm gatheredGusts :=
    ⟨Stage.label, List.Perm.map _ (by decide)⟩
  have interleaved : gusts.IsInterleaving sortedGusts := by
    intro stage
    cases stage <;> rfl
  obtain ⟨same, compiled⟩ := ParticleSystem.compile_by_stages planned (.inl normal)
  obtain ⟨same', compiled'⟩ := ParticleSystem.compile_by_stages planned (.inr interleaved)
  exact ⟨plan, planned, blocks, ⟨c, ok⟩, same, same', compiled _ _, compiled' _ _⟩

end ParticleShaders
