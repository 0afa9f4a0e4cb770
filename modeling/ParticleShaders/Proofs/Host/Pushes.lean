import ParticleShaders.Host.Push
import ParticleShaders.Proofs.Shader.Uniforms

namespace ParticleShaders

theorem map_flatten_of_forall₂ {α γ δ : Type} {g : γ → δ} {spec : α → List δ} {xs : List α}
    {ys : List (List γ)} (h : List.Forall₂ (fun x y => y.map g = spec x) xs ys) :
    ys.flatten.map g = xs.flatMap spec := by
  induction h with
  | nil => rfl
  | cons same _ ih => rw [List.flatten_cons, List.map_append, same, ih, List.flatMap_cons]

namespace Push

theorem occursIn_iff {part text : List Char} : occursIn part text ↔ part <:+: text := by
  induction text with
  | nil => simp [occursIn]
  | cons c rest ih =>
    rw [occursIn, Bool.or_eq_true_iff, List.isPrefixOf_iff_prefix, ih, List.infix_cons_iff]

theorem occursIn_numbered {stem : String} {part : List Char} {n : Nat} (h : Naming.IsStem stem)
    (word : part.all (!·.isDigit)) :
    occursIn part (stem ++ toString n).toList = occursIn part stem.toList := by
  rw [Bool.eq_iff_iff, occursIn_iff, occursIn_iff]
  constructor
  · intro occurs
    have letters : part.filter (!·.isDigit) = part :=
      List.filter_eq_self.2 (List.all_eq_true.1 word)
    have occurs := occurs.filter (!·.isDigit)
    rwa [Naming.letters_numbered h, letters] at occurs
  · intro occurs
    rw [String.toList_append]
    exact occurs.trans (List.prefix_append ..).isInfix

theorem samplerKernels_numbered {stem : String} {n : Nat} (h : Naming.IsStem stem) :
    samplerKernels (stem ++ toString n) = samplerKernels stem := by
  have same (part : String) (word : part.toList.all (!·.isDigit)) :
      occursIn part.toList (stem ++ toString n).toList = occursIn part.toList stem.toList :=
    occursIn_numbered h word
  simp only [samplerKernels, same "global" (by decide), same "init" (by decide),
    same "update" (by decide)]

def address (p : Push) : PushTarget × String := (p.target, p.name)

end Push

def ParamTable.isPathless (params : ParamTable) (id : String) : Bool :=
  match params.find? id with
  | some (.texture2D path) | some (.texture3D path) => path = ""
  | _ => false

namespace Push

variable {params : ParamTable} {bake : Bake} {id : String} {v : ParamValue} (name : String)

theorem address_ofTexture (targets : List PushTarget) (path : String) :
    (ofTexture targets name path).map (·.address) =
      if path = "" then [] else targets.map (·, name) := by
  unfold ofTexture
  split
  · rfl
  · rw [List.map_map]
    rfl

theorem exists_ofCompute (found : params.find? id = some v)
    (gradient : v.type = .colorGradient → ∃ x, bake.gradientUniform? id = some x)
    (curve : v.type = .curve → ∃ x, bake.curveUniform? id = some x) :
    ∃ ps, ofCompute params bake id name = .ok ps ∧ ps.map (·.address) =
      if params.isPathless id then []
      else (if v.type.isTexture then (samplerKernels name).map .kernel else [.compute]).map
        (·, name) := by
  unfold ParamTable.isPathless ofCompute
  rw [found]
  cases v with
  | texture2D path =>
    refine ⟨_, rfl, ?_⟩
    simp [address_ofTexture, ParamValue.type, ValueType.isTexture]
  | texture3D path =>
    refine ⟨_, rfl, ?_⟩
    simp [address_ofTexture, ParamValue.type, ValueType.isTexture]
  | colorGradient keys =>
    obtain ⟨x, baked⟩ := gradient rfl
    rw [baked]
    exact ⟨_, rfl, rfl⟩
  | curve keys =>
    obtain ⟨x, baked⟩ := curve rfl
    rw [baked]
    exact ⟨_, rfl, rfl⟩
  | _ => exact ⟨_, rfl, rfl⟩

theorem exists_ofMaterial (found : params.find? id = some v) (plain : ¬ v.type.isSignal) :
    ∃ ps, ofMaterial params id name = .ok ps ∧ ps.map (·.address) =
      if params.isPathless id then [] else [(.material, name)] := by
  unfold ParamTable.isPathless ofMaterial
  rw [found]
  cases v with
  | texture2D path =>
    refine ⟨_, rfl, ?_⟩
    simp [address_ofTexture]
  | texture3D path =>
    refine ⟨_, rfl, ?_⟩
    simp [address_ofTexture]
  | colorGradient keys => exact absurd rfl plain
  | curve keys => exact absurd rfl plain
  | _ => exact ⟨_, rfl, rfl⟩

theorem ofMaterial_signal (found : params.find? id = some v) (signal : v.type.isSignal) :
    ofMaterial params id name = .error (.outputSignal id v.type) := by
  unfold ofMaterial
  rw [found]
  cases v with
  | colorGradient keys => rfl
  | curve keys => rfl
  | _ => cases signal

end Push

def lookupAddresses (gradients curves : Bool) : List (PushTarget × String) :=
  let toBoth (name : String) : List (PushTarget × String) :=
    [(.kernel .init, name), (.kernel .update, name)]
  (if gradients then toBoth "gradientTexture" else [])
    ++ if curves then toBoth "curveTexture" else []

theorem name_of_mem_lookupAddresses {gradients curves : Bool} {a : PushTarget × String}
    (h : a ∈ lookupAddresses gradients curves) :
    a.2 = "gradientTexture" ∨ a.2 = "curveTexture" := by
  revert a
  cases gradients <;> cases curves <;> decide

theorem Push.address_ofBake (b : Bake) : (ofBake b).map (·.address) =
    lookupAddresses b.colorTexture?.isSome b.floatTexture?.isSome := by
  unfold ofBake
  cases b.colorTexture? <;> cases b.floatTexture? <;> rfl

def UniformSet.targets : UniformSet → List PushTarget
  | ⟨_, .output⟩ => [.material]
  | ⟨false, _⟩ => [.compute]
  | ⟨true, .both⟩ => [.kernel .init, .kernel .update]
  | ⟨true, .init⟩ => [.kernel .init]
  | ⟨true, .update⟩ => [.kernel .update]

namespace UniformSet

theorem targets_simulation :
    ∀ k ∈ ofStage .init, k.targets =
      if k.isSampler then (Push.samplerKernels k.stem).map .kernel else [.compute] := by
  decide

theorem targets_output : ∀ k ∈ ofStage .output, k.targets = [.material] := by
  decide

end UniformSet

structure Numbered where
  set : UniformSet
  position : Nat
  param : Param

namespace Numbered

def name (m : Numbered) : String := m.set.stem ++ toString m.position

def addresses (m : Numbered) (params : ParamTable) : List (PushTarget × String) :=
  if params.isPathless m.param.id then [] else m.set.targets.map (·, m.name)

end Numbered

namespace Plan

variable (plan : Plan)

def numbered (stage : Stage) : List Numbered :=
  (UniformSet.ofStage stage).flatMap fun k =>
    (plan.uniforms.set k).params.mapIdx fun i p => ⟨k, i, p⟩

def simulates (type : ValueType) : Bool :=
  (blockParams plan.initBlocks ++ blockParams plan.updateBlocks).any (·.type = type)

def addresses (params : ParamTable) : List (PushTarget × String) :=
  (plan.numbered .init ++ plan.numbered .output).flatMap (·.addresses params)
    ++ lookupAddresses (plan.simulates .colorGradient) (plan.simulates .curve)

variable {plan}

theorem mem_numbered {stage : Stage} {m : Numbered} : m ∈ plan.numbered stage ↔
    m.set ∈ UniformSet.ofStage stage ∧
      (plan.uniforms.set m.set).params[m.position]? = some m.param := by
  simp only [numbered, List.mem_flatMap, List.mem_mapIdx, List.getElem?_eq_some_iff]
  constructor
  · rintro ⟨k, hk, i, bound, rfl⟩
    exact ⟨hk, bound, rfl⟩
  · rintro ⟨hk, bound, same⟩
    exact ⟨m.set, hk, m.position, bound, by rw [same]⟩

end Plan

namespace Plan.Resolved

variable {params : ParamTable} {plan : Plan} (r : plan.Resolved params) {stage : Stage}
  {m : Numbered}

include r

theorem entries_eq (stage : Stage) : (plan.uniforms.namingOf stage).entries =
    (plan.numbered stage).map fun m => (m.param.id, m.name) := by
  rw [r.entries_namingOf, numbered, List.map_flatMap]
  apply List.flatMap_congr
  intro k _
  simp only [Naming.number, List.mapIdx_eq_zipIdx_map, List.map_map]
  rfl

theorem refers_of_mem_numbered (hm : m ∈ plan.numbered stage) :
    plan.ShaderRefersTo stage m.param ∧ plan.setOf stage m.param = m.set := by
  obtain ⟨hk, found⟩ := mem_numbered.1 hm
  exact (r.mem_set hk).1 (List.mem_of_getElem? found)

theorem isSampler_of_mem_numbered (hm : m ∈ plan.numbered stage) :
    m.set.isSampler = m.param.type.isTexture := by
  rw [← (r.refers_of_mem_numbered hm).2]
  rfl

theorem exists_value_of_mem_numbered (hm : m ∈ plan.numbered stage) :
    ∃ v, params.find? m.param.id = some v ∧ v.type = m.param.type :=
  ParamTable.exists_value (r.param?_of_shaderRefersTo (r.refers_of_mem_numbered hm).1)

theorem mapM_entries {f : String → String → Except Rejection (List Push)}
    (each : ∀ m ∈ plan.numbered stage, ∃ ps, f m.param.id m.name = .ok ps ∧
      ps.map (·.address) = m.addresses params) :
    ∃ pushes, (plan.uniforms.namingOf stage).entries.mapM (fun e => f e.1 e.2) = .ok pushes ∧
      pushes.flatten.map (·.address) = (plan.numbered stage).flatMap (·.addresses params) := by
  obtain ⟨pushes, pushed, addresses⟩ := exists_mapM_eq_ok
    (R := fun (m : Numbered) (ps : List Push) => ps.map (·.address) = m.addresses params) each
  refine ⟨pushes, ?_, map_flatten_of_forall₂ addresses⟩
  rw [r.entries_eq, List.mapM_map]
  exact pushed

theorem exists_ofMaterial (hm : m ∈ plan.numbered .output)
    (plain : ¬ m.param.type.isSignal) :
    ∃ ps, Push.ofMaterial params m.param.id m.name = .ok ps ∧
      ps.map (·.address) = m.addresses params := by
  obtain ⟨v, found, same⟩ := r.exists_value_of_mem_numbered hm
  obtain ⟨ps, pushed, addresses⟩ := Push.exists_ofMaterial m.name found (same ▸ plain)
  refine ⟨ps, pushed, addresses.trans ?_⟩
  rw [Numbered.addresses, UniformSet.targets_output m.set (mem_numbered.1 hm).1]
  rfl

theorem ofMaterial_signal (hm : m ∈ plan.numbered .output)
    (signal : m.param.type.isSignal) : Push.ofMaterial params m.param.id m.name =
      .error (.outputSignal m.param.id m.param.type) := by
  obtain ⟨v, found, same⟩ := r.exists_value_of_mem_numbered hm
  rw [Push.ofMaterial_signal m.name found (same ▸ signal), same]

theorem mapM_ofMaterial_signal
    (first : (plan.numbered .output).find? (·.param.type.isSignal) = some m) :
    (plan.uniforms.namingOf .output).entries.mapM (fun e => Push.ofMaterial params e.1 e.2) =
      .error (.outputSignal m.param.id m.param.type) := by
  have hm := List.mem_of_find?_eq_some first
  obtain ⟨signal, before, after, split, plain⟩ := List.find?_eq_some_iff_append.1 first
  rw [r.entries_eq, List.mapM_map, split]
  refine mapM_eq_error (fun n hn => ?_) (r.ofMaterial_signal hm signal)
  have within : n ∈ plan.numbered .output := split ▸ List.mem_append_left _ hn
  obtain ⟨ps, pushed, -⟩ := r.exists_ofMaterial within (by simpa using plain n hn)
  exact ⟨ps, pushed⟩

section Signals

variable {type : ValueType} {baked : Bake} (shown : ∀ id s, (id, s) ∈ baked.shown ↔
  id ∈ plan.signals.map (·.id) ∧ params.signal? id = some s)

theorem simulates_iff (signal : type.isSignal) :
    plan.simulates type ↔ ∃ p ∈ plan.signals, p.type = type := by
  have generated (p : Param) (hp : p ∈ plan.generatorParams .init) : ¬ p.type.isSignal := by
    obtain ⟨a, ha, same⟩ := Option.bind_eq_some_iff.1 (Option.mem_toList.1 hp)
    cases a with
    | expr source => cases same
    | param q =>
      cases same
      rw [(r.lifetime _ ha).2]
      decide
  simp only [simulates, List.any_eq_true, decide_eq_true_eq, List.mem_append]
  constructor
  · rintro ⟨p, hp, rfl⟩
    refine ⟨p, r.mem_signals.2 ⟨hp.imp ?_ ?_, signal⟩, rfl⟩ <;>
      exact fun hp => List.mem_eraseDups.2 (List.mem_append_left _ hp)
  · rintro ⟨p, hp, rfl⟩
    refine ⟨p, (r.mem_signals.1 hp).1.imp (fun hp => ?_) (fun hp => ?_), rfl⟩
    · exact (List.mem_append.1 (List.mem_eraseDups.1 hp)).resolve_right
        fun mem => generated p mem signal
    · exact (List.mem_append.1 (List.mem_eraseDups.1 hp)).resolve_right List.not_mem_nil

include shown

theorem simulates_iff_shown (signal : type.isSignal) :
    plan.simulates type ↔ ∃ e ∈ baked.shown, e.2.type = type := by
  rw [r.simulates_iff signal]
  constructor
  · rintro ⟨p, hp, rfl⟩
    obtain ⟨s, mem, same⟩ := r.exists_shown shown hp
    exact ⟨_, mem, same⟩
  · rintro ⟨⟨id, s⟩, mem, rfl⟩
    obtain ⟨given, found⟩ := (shown _ _).1 mem
    obtain ⟨p, hp, rfl⟩ := List.mem_map.1 given
    exact ⟨p, hp, (ParamTable.type_of_signal? (r.param?_of_mem_signals hp) found).symm⟩

theorem isSome_colorTexture? : baked.colorTexture?.isSome = plan.simulates .colorGradient := by
  rw [Bool.eq_iff_iff, Bake.colorTexture?_isSome_iff, r.simulates_iff_shown shown rfl]

theorem isSome_floatTexture? : baked.floatTexture?.isSome = plan.simulates .curve := by
  rw [Bool.eq_iff_iff, Bake.floatTexture?_isSome_iff, r.simulates_iff_shown shown rfl]

theorem address_ofBake : (Push.ofBake baked).map (·.address) =
    lookupAddresses (plan.simulates .colorGradient) (plan.simulates .curve) := by
  rw [Push.address_ofBake, r.isSome_colorTexture? shown, r.isSome_floatTexture? shown]

theorem exists_ofCompute (hm : m ∈ plan.numbered .init) :
    ∃ ps, Push.ofCompute params baked m.param.id m.name = .ok ps ∧
      ps.map (·.address) = m.addresses params := by
  obtain ⟨v, found, same⟩ := r.exists_value_of_mem_numbered hm
  have row (signal : v.type.isSignal) :
      ∃ s, (m.param.id, s) ∈ baked.shown ∧ s.type = v.type := by
    rw [same] at signal ⊢
    exact r.exists_shown shown (r.mem_signals.2 ⟨(r.refers_of_mem_numbered hm).1, signal⟩)
  have gradient (h : v.type = .colorGradient) :
      ∃ x, baked.gradientUniform? m.param.id = some x := by
    obtain ⟨s, mem, type⟩ := row (h ▸ rfl)
    cases s with
    | gradient keys => exact Bake.exists_gradientUniform? mem
    | curve keys => cases type.trans h
  have curve (h : v.type = .curve) : ∃ x, baked.curveUniform? m.param.id = some x := by
    obtain ⟨s, mem, type⟩ := row (h ▸ rfl)
    cases s with
    | gradient keys => cases type.trans h
    | curve keys => exact Bake.exists_curveUniform? mem
  obtain ⟨ps, pushed, addresses⟩ := Push.exists_ofCompute m.name found gradient curve
  refine ⟨ps, pushed, addresses.trans ?_⟩
  have targets := UniformSet.targets_simulation m.set (mem_numbered.1 hm).1
  rw [← Push.samplerKernels_numbered m.set.isStem_stem (n := m.position),
    r.isSampler_of_mem_numbered hm, ← same] at targets
  rw [Numbered.addresses, targets]
  rfl

end Signals

end Plan.Resolved

namespace Numbered

variable {m n : Numbered} {params : ParamTable}

theorem name_eq_of_mem_addresses {a : PushTarget × String} (h : a ∈ m.addresses params) :
    a.2 = m.name := by
  unfold addresses at h
  split at h
  · cases h
  · obtain ⟨_, -, rfl⟩ := List.mem_map.1 h
    rfl

theorem set_eq_of_name_eq (same : m.name = n.name) : m.set = n.set :=
  UniformSet.stem_inj (Naming.numbered_inj m.set.isStem_stem n.set.isStem_stem same).1

theorem nodup_addresses (m : Numbered) (params : ParamTable) : (m.addresses params).Nodup := by
  have targets (k : UniformSet) : k.targets.Nodup := by
    obtain ⟨isSampler, part⟩ := k
    cases isSampler <;> cases part <;> decide
  unfold addresses
  split
  · exact .nil
  · exact (targets m.set).map fun _ _ same => congrArg Prod.fst same

end Numbered

namespace Plan.Resolved

variable {params : ParamTable} {plan : Plan} (r : plan.Resolved params)

include r

theorem nodup_names_numbered (stage : Stage) : ((plan.numbered stage).map (·.name)).Nodup := by
  have names := r.nodup_names stage
  rwa [r.entries_eq, List.map_map] at names

theorem nodup_names_all :
    ((plan.numbered .init ++ plan.numbered .output).map (·.name)).Nodup := by
  rw [List.map_append, List.nodup_append]
  refine ⟨r.nodup_names_numbered .init, r.nodup_names_numbered .output, fun a ha b hb same => ?_⟩
  obtain ⟨m, hm, rfl⟩ := List.mem_map.1 ha
  obtain ⟨n, hn, rfl⟩ := List.mem_map.1 hb
  have apart : ∀ k ∈ UniformSet.ofStage .init, k ∉ UniformSet.ofStage .output := by decide
  exact apart m.set (mem_numbered.1 hm).1 (Numbered.set_eq_of_name_eq same ▸ (mem_numbered.1 hn).1)

theorem nodup_addresses : (plan.addresses params).Nodup := by
  rw [addresses, List.nodup_append]
  refine ⟨?_, ?_, ?_⟩
  · rw [List.nodup_flatMap]
    refine ⟨fun m _ => m.nodup_addresses params, ?_⟩
    refine (List.pairwise_map.1 r.nodup_names_all).imp fun other => ?_
    show List.Disjoint _ _
    rw [List.disjoint_left]
    intro a here there
    exact other ((Numbered.name_eq_of_mem_addresses here).symm.trans
      (Numbered.name_eq_of_mem_addresses there))
  · cases plan.simulates .colorGradient <;> cases plan.simulates .curve <;> decide
  · rintro a ha _ hb rfl
    obtain ⟨m, hm, ha⟩ := List.mem_flatMap.1 ha
    obtain ⟨stage, hk⟩ : ∃ stage, m.set ∈ UniformSet.ofStage stage := by
      rcases List.mem_append.1 hm with hm | hm
      · exact ⟨_, (mem_numbered.1 hm).1⟩
      · exact ⟨_, (mem_numbered.1 hm).1⟩
    have named : a.2 = m.name := Numbered.name_eq_of_mem_addresses ha
    have fixed : a.2 ∈ Blueprint.fixedNames := by
      rcases name_of_mem_lookupAddresses hb with lookup | lookup <;> rw [lookup] <;> decide
    exact (Blueprint.foreign_of_mem_fixedNames _ fixed).ne hk named

end Plan.Resolved

namespace HostLayout

/-- What comes of pushing by the layout of a plan. The uniforms are named as the plan numbers them.
The first signal of the drawing is refused, and nothing is pushed then; without one everything is
pushed, each to a place of its own. -/
structure Pushes (l : HostLayout) (plan : Plan) (params : ParamTable) (bake : Bake) : Prop where
  uniforms : l.uniforms.entries = (plan.numbered .init).map fun m => (m.param.id, m.name)
  outputUniforms : l.outputUniforms.entries =
    (plan.numbered .output).map fun m => (m.param.id, m.name)
  refuses : ∀ records m, (plan.numbered .output).find? (·.param.type.isSignal) = some m →
    l.pushTo params bake records = (records, .error (.outputSignal m.param.id m.param.type))
  succeeds : ∀ records, (∀ m ∈ plan.numbered .output, ¬ m.param.type.isSignal) →
    ∃ pushes, l.pushTo params bake records = (records ++ pushes, .ok ()) ∧
      pushes.map (·.address) = plan.addresses params
  distinct : (plan.addresses params).Nodup

end HostLayout

theorem ParticleSystem.compile_pushes {system : ParticleSystem} {library : Library}
    {params : ParamTable} {options : Options} {before : Bake} {c : Compiled}
    (h : (system.compile library params options before).result = .ok c) :
    ∃ plan, Plan.ofSystem system library params = .ok plan ∧
      c.layout.Pushes plan params (system.compile library params options before).bake := by
  obtain ⟨s, rfl⟩ := Compilation.result_eq_ok_iff.1 h
  have r := Plan.resolved_of_ofSystem s.planned
  obtain ⟨baked, signals, shown⟩ := r.bake_eq_ok
  obtain rfl : baked = s.baked := congrArg Prod.fst (signals.symm.trans s.signals)
  have uniforms : s.compiled.layout.uniforms = s.plan.uniforms.namingOf .init := rfl
  have outputUniforms : s.compiled.layout.outputUniforms = s.plan.uniforms.namingOf .output := rfl
  obtain ⟨compute, computed, computeAddresses⟩ :=
    r.mapM_entries fun _ => r.exists_ofCompute shown
  refine ⟨s.plan, s.planned, ?_⟩
  rw [s.compile_eq]
  constructor
  case uniforms => rw [uniforms, r.entries_eq]
  case outputUniforms => rw [outputUniforms, r.entries_eq]
  case refuses =>
    intro records m first
    unfold HostLayout.pushTo HostLayout.pushes
    rw [uniforms, outputUniforms, computed, r.mapM_ofMaterial_signal first]
    rfl
  case succeeds =>
    intro records plain
    obtain ⟨material, drawn, materialAddresses⟩ :=
      r.mapM_entries fun m hm => r.exists_ofMaterial hm (plain m hm)
    refine ⟨compute.flatten ++ material.flatten ++ Push.ofBake s.baked, ?_, ?_⟩
    · unfold HostLayout.pushTo HostLayout.pushes
      rw [uniforms, outputUniforms, computed, drawn]
      rfl
    · rw [List.map_append, List.map_append, computeAddresses, materialAddresses,
        r.address_ofBake shown, ← List.flatMap_append]
      rfl
  case distinct => exact r.nodup_addresses

theorem lanterns_pushes :
    ∃ c, (lanterns.compile ∅ lanternValues (.ofSystem lanterns) .empty).result = .ok c ∧
      ∃ plan, Plan.ofSystem lanterns ∅ lanternValues = .ok plan ∧
        plan.addresses lanternValues =
          [(.compute, "globalUniform0"), (.compute, "initUniform0"), (.compute, "updateUniform0"),
           (.compute, "updateUniform1"), (.kernel .init, "globalSampler0"),
           (.kernel .update, "globalSampler0"), (.material, "outputUniform0"),
           (.material, "outputSampler0"), (.kernel .init, "gradientTexture"),
           (.kernel .update, "gradientTexture"), (.kernel .init, "curveTexture"),
           (.kernel .update, "curveTexture")] ∧
        c.layout.Pushes plan lanternValues
          (lanterns.compile ∅ lanternValues (.ofSystem lanterns) .empty).bake := by
  have compiled :
      (lanterns.compile ∅ lanternValues (.ofSystem lanterns) .empty).result.toOption.map
        (·.blueprint.initBlocks.length) = some 1 := by
    decide +kernel
  have planned : (Plan.ofSystem lanterns ∅ lanternValues).toOption.map
      (·.addresses lanternValues) = some
        [(.compute, "globalUniform0"), (.compute, "initUniform0"), (.compute, "updateUniform0"),
         (.compute, "updateUniform1"), (.kernel .init, "globalSampler0"),
         (.kernel .update, "globalSampler0"), (.material, "outputUniform0"),
         (.material, "outputSampler0"), (.kernel .init, "gradientTexture"),
         (.kernel .update, "gradientTexture"), (.kernel .init, "curveTexture"),
         (.kernel .update, "curveTexture")] := by
    decide +kernel
  obtain ⟨c, h, -⟩ := exists_of_toOption compiled
  obtain ⟨plan, made, addresses⟩ := exists_of_toOption planned
  obtain ⟨plan', made', pushes⟩ := ParticleSystem.compile_pushes h
  obtain rfl := Except.ok.inj (made.symm.trans made')
  exact ⟨c, h, plan, made, addresses, pushes⟩

end ParticleShaders
