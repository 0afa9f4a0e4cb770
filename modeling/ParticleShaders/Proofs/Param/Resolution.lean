import Mathlib.Data.List.Induction
import ParticleShaders.Proofs.Compilation

namespace ParticleShaders

theorem keeps_of_foldlM {ε σ α : Type} {P : σ → Prop} {f : σ → α → Except ε σ} {xs : List α}
    {s s' : σ} (step : ∀ s x s', P s → f s x = .ok s' → P s') (h : xs.foldlM f s = .ok s')
    (start : P s) : P s' := by
  induction xs generalizing s with
  | nil =>
    cases h
    exact start
  | cons x rest ih =>
    rw [List.foldlM_cons] at h
    obtain ⟨t, first, h⟩ := bind_eq_ok_iff.1 h
    exact ih h (step s x t start first)

variable {params : ParamTable} {type : ValueType} {p q : Param} {a : Argument}

theorem ParamTable.id_of_param? {id : String} (h : params.param? id = some p) : p.id = id := by
  obtain ⟨_, -, rfl⟩ := Option.map_eq_some_iff.1 h
  rfl

theorem ParamTable.exists_value (h : params.param? p.id = some p) :
    ∃ v, params.find? p.id = some v ∧ v.type = p.type := by
  obtain ⟨v, found, same⟩ := Option.map_eq_some_iff.1 h
  exact ⟨v, found, congrArg Param.type same⟩

def Argument.Fits (params : ParamTable) (type : ValueType) : Argument → Prop
  | .param p => params.param? p.id = some p ∧ p.type = type
  | .expr _ => True

theorem Binding.resolve_eq_ok {b : Binding} {owner property : String}
    (h : b.resolve params owner property type = .ok a) : a.Fits params type := by
  cases b with
  | expr source =>
    cases h
    trivial
  | param id =>
    simp only [resolve] at h
    split at h
    · cases h
    · next p found =>
      split at h
      · next same =>
        cases h
        exact ⟨(ParamTable.id_of_param? found).symm ▸ found, same⟩
      · cases h

theorem Block.argument_eq_ok {b : Block} {d : PropertyDecl} (h : b.argument params d = .ok a) :
    a.Fits params d.type := by
  unfold Block.argument at h
  split at h
  · exact Binding.resolve_eq_ok h
  · cases h
    trivial
  · cases h

theorem InitGenerator.ofSettings_eq_ok {settings : Settings} {g : InitGenerator}
    (h : ofSettings settings params = .ok g) : ∀ a ∈ g.lifetime, a.Fits params .float := by
  unfold ofSettings at h
  split at h
  · cases h
  · cases h
    simp
  · obtain ⟨a, bound, rfl⟩ := map_eq_ok_iff.1 h
    intro c hc
    cases hc
    exact Binding.resolve_eq_ok bound

theorem OutputGenerator.ofSettings_eq_ok {settings : Settings} {g : OutputGenerator}
    (h : ofSettings settings params = .ok g) :
    ∀ p ∈ g.texture, (Argument.param p).Fits params .texture2D := by
  obtain ⟨_, -, h⟩ := bind_eq_ok_iff.1 h
  obtain ⟨texture, bound, h⟩ := bind_eq_ok_iff.1 h
  cases h
  show ∀ p ∈ texture, (Argument.param p).Fits params .texture2D
  unfold texture? at bound
  split at bound
  · cases bound
  · cases bound
    simp
  · obtain ⟨a, resolved, bound⟩ := bind_eq_ok_iff.1 bound
    cases a with
    | expr source => cases bound
    | param q =>
      cases bound
      intro p hp
      cases hp
      exact Binding.resolve_eq_ok resolved

namespace Plan

structure Resolved (plan : Plan) (params : ParamTable) : Prop where
  arguments : ∀ stage, ∀ b ∈ plan.blocks stage, List.Forall₂ (fun d a => a.Fits params d.type)
    b.descriptor.properties b.arguments
  lifetime : ∀ a ∈ plan.init.lifetime, a.Fits params .float
  texture : ∀ p ∈ plan.output.texture, (Argument.param p).Fits params .texture2D

structure Found.Fits (found : Found) (params : ParamTable) : Prop where
  init : ∀ g ∈ found.init, ∀ a ∈ g.lifetime, a.Fits params .float
  output : ∀ g ∈ found.output, ∀ p ∈ g.texture, (Argument.param p).Fits params .texture2D

theorem fits_of_settle {found found' : Found} {c : Context} (fits : found.Fits params)
    (h : settle params found c = .ok found') : found'.Fits params := by
  unfold settle at h
  split at h
  · obtain ⟨g, made, rfl⟩ := map_eq_ok_iff.1 h
    refine ⟨fun _ hg => ?_, fits.output⟩
    cases hg
    exact InitGenerator.ofSettings_eq_ok made
  · cases h
    exact ⟨fits.init, fits.output⟩
  · obtain ⟨g, made, rfl⟩ := map_eq_ok_iff.1 h
    refine ⟨fits.init, fun _ hg => ?_⟩
    cases hg
    exact OutputGenerator.ofSettings_eq_ok made

variable {system : ParticleSystem} {library : Library} {plan : Plan}

theorem resolved_of_ofSystem (h : ofSystem system library params = .ok plan) :
    plan.Resolved params := by
  obtain ⟨s⟩ := exists_planning h
  have fits : s.found.Fits params :=
    keeps_of_foldlM (P := (·.Fits params)) (fun _ _ _ => fits_of_settle) s.settled
      ⟨by simp, by simp⟩
  refine ⟨fun stage b hb => ?_, fits.init _ s.init, fits.output _ s.output⟩
  rw [s.blocks] at hb
  obtain ⟨_, -, bound⟩ := bound_of_mem_blocksOf s.bindings hb
  exact (forall₂_of_mapM_eq_ok (Block.bind_eq_ok bound).2.2.1).imp fun _ _ => Block.argument_eq_ok

def generatorParams (plan : Plan) : Stage → List Param
  | .init => plan.init.params
  | .update => []
  | .output => plan.output.params

def mentions (plan : Plan) (stage : Stage) : List Param :=
  blockParams (plan.blocks stage) ++ plan.generatorParams stage

def references (plan : Plan) (stage : Stage) : List Param := (plan.mentions stage).eraseDups

def paramsOf (plan : Plan) : Stage → ParamSet
  | .init => plan.initParams
  | .update => plan.updateParams
  | .output => plan.outputParams

end Plan

namespace Plan.Resolved

variable {plan : Plan} (r : plan.Resolved params) {stage : Stage}

include r

theorem param?_of_mem_blockParams (hp : p ∈ blockParams (plan.blocks stage)) :
    params.param? p.id = some p := by
  obtain ⟨b, hb, mem⟩ := List.mem_flatMap.1 hp
  obtain ⟨a, ha, same⟩ := List.mem_filterMap.1 mem
  cases a with
  | expr source => cases same
  | param q =>
    cases same
    obtain ⟨_, -, fits⟩ := exists_of_mem_forall₂ (r.arguments stage b hb) ha
    exact fits.1

theorem param?_of_mem_generatorParams (hp : p ∈ plan.generatorParams stage) :
    params.param? p.id = some p := by
  cases stage with
  | init =>
    obtain ⟨a, ha, same⟩ := Option.bind_eq_some_iff.1 (Option.mem_toList.1 hp)
    cases a with
    | expr source => cases same
    | param q =>
      cases same
      exact (r.lifetime _ ha).1
  | update => cases hp
  | output => exact (r.texture p (Option.mem_toList.1 hp)).1

theorem param?_of_mem_mentions (hp : p ∈ plan.mentions stage) : params.param? p.id = some p :=
  (List.mem_append.1 hp).elim r.param?_of_mem_blockParams r.param?_of_mem_generatorParams

theorem param?_of_mem_references (hp : p ∈ plan.references stage) :
    params.param? p.id = some p :=
  r.param?_of_mem_mentions (List.mem_eraseDups.1 hp)

end Plan.Resolved

theorem ParamSet.params_ofList {ps : List Param}
    (known : ∀ p ∈ ps, params.param? p.id = some p) : (ofList ps).params = ps.eraseDups := by
  induction ps using List.reverseRecOn with
  | nil => rfl
  | append_singleton ps p ih =>
    have ih := ih fun q hq => known q (List.mem_append_left _ hq)
    have repeated : p.id ∈ (ofList ps).ids ↔ p ∈ ps := by
      rw [ParamSet.ids, ih]
      simp only [List.mem_map, List.mem_eraseDups]
      constructor
      · rintro ⟨q, hq, same⟩
        have other := known q (List.mem_append_left _ hq)
        rw [same, known p (by simp)] at other
        cases other
        exact hq
      · intro hp
        exact ⟨p, hp, rfl⟩
    have last : ofList (ps ++ [p]) = (ofList ps).insert p := List.foldl_concat ..
    rw [last, List.eraseDups_append, ← ih, ParamSet.insert]
    by_cases hp : p ∈ ps
    · simp [repeated, hp, List.removeAll]
    · simp [repeated, hp, List.removeAll, List.eraseDups_cons]

theorem Plan.Resolved.params_paramsOf {plan : Plan} (r : plan.Resolved params) (stage : Stage) :
    (plan.paramsOf stage).params = plan.references stage := by
  have made : plan.paramsOf stage = .ofList (plan.mentions stage) := by
    cases stage with
    | update => exact congrArg ParamSet.ofList (List.append_nil _).symm
    | _ => rfl
  rw [made]
  exact ParamSet.params_ofList fun _ => r.param?_of_mem_mentions

end ParticleShaders
