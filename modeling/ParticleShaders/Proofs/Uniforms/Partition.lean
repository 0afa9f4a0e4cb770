import ParticleShaders.Proofs.Signal.Baking

namespace ParticleShaders

inductive Part
  | both
  | init
  | update
  | output
  deriving DecidableEq, Repr

def Sharing.part (s : Sharing) : Part → ParamSet
  | .both => s.both
  | .init => s.init
  | .update => s.update
  | .output => s.output

structure UniformSet where
  isSampler : Bool
  part : Part
  deriving DecidableEq, Repr

namespace UniformSet

def ofStage : Stage → List UniformSet
  | .output => [⟨false, .output⟩, ⟨true, .output⟩]
  | _ =>
    [⟨false, .both⟩, ⟨false, .init⟩, ⟨false, .update⟩,
      ⟨true, .both⟩, ⟨true, .init⟩, ⟨true, .update⟩]

def stem : UniformSet → String
  | ⟨false, .both⟩ => "globalUniform"
  | ⟨false, .init⟩ => "initUniform"
  | ⟨false, .update⟩ => "updateUniform"
  | ⟨false, .output⟩ => "outputUniform"
  | ⟨true, .both⟩ => "globalSampler"
  | ⟨true, .init⟩ => "initSampler"
  | ⟨true, .update⟩ => "updateSampler"
  | ⟨true, .output⟩ => "outputSampler"

theorem nodup_ofStage (stage : Stage) : (ofStage stage).Nodup := by
  cases stage <;> decide

theorem isStem_stem (k : UniformSet) : Naming.IsStem k.stem := by
  obtain ⟨isSampler, part⟩ := k
  unfold Naming.IsStem
  cases isSampler <;> cases part <;> decide

theorem stem_inj {j k : UniformSet} (same : j.stem = k.stem) : j = k := by
  obtain ⟨_, _⟩ := j
  obtain ⟨_, _⟩ := k
  revert same
  unfold stem
  split <;> split <;> simp_all

end UniformSet

namespace Uniforms

def set (u : Uniforms) (k : UniformSet) : ParamSet :=
  (if k.isSampler then u.samplers else u.plain).part k.part

def namingOf (u : Uniforms) : Stage → Naming
  | .output => u.outputNaming
  | _ => u.naming

theorem namingOf_eq (u : Uniforms) (stage : Stage) : u.namingOf stage =
    (∅ : Naming).nameSets ((UniformSet.ofStage stage).map fun k => (u.set k, k.stem)) := by
  cases stage <;> rfl

end Uniforms

def ParamSet.kind (s : ParamSet) (isTexture : Bool) : ParamSet :=
  s.filter (·.type.isTexture = isTexture)

namespace Plan

variable (plan : Plan)

theorem sharing_eq (t : Bool) :
    (if t then plan.uniforms.samplers else plan.uniforms.plain) =
      .split ((plan.paramsOf .init).kind t) ((plan.paramsOf .update).kind t)
        ((plan.paramsOf .output).kind t) := by
  have kind (s : ParamSet) : s.withoutTextures = s.kind false ∧ s.textures = s.kind true := by
    constructor
    · exact ParamSet.ext (List.filter_congr fun p _ => by cases p.type.isTexture <;> rfl)
    · exact ParamSet.ext (List.filter_congr fun p _ => by cases p.type.isTexture <;> rfl)
  cases t <;> simp only [uniforms, kind] <;> rfl

def ShaderRefersTo : Stage → Param → Prop
  | .output, p => p ∈ plan.references .output
  | _, p => p ∈ plan.references .init ∨ p ∈ plan.references .update

theorem shaderRefersTo_of_mem_mentions {stage : Stage} {p : Param} (hp : p ∈ plan.mentions stage) :
    plan.ShaderRefersTo stage p := by
  have hp : p ∈ plan.references stage := List.mem_eraseDups.2 hp
  cases stage with
  | init => exact .inl hp
  | update => exact .inr hp
  | output => exact hp

def setOf (stage : Stage) (p : Param) : UniformSet where
  isSampler := p.type.isTexture
  part :=
    match stage with
    | .output => .output
    | _ =>
      if p ∈ plan.references .init then if p ∈ plan.references .update then .both else .init
      else .update

theorem setOf_mem (stage : Stage) (p : Param) :
    plan.setOf stage p ∈ UniformSet.ofStage stage := by
  unfold setOf
  cases stage <;> cases p.type.isTexture <;> simp only [UniformSet.ofStage] <;> grind

structure Partitioned : Prop where
  both : ∀ t, (plan.uniforms.set ⟨t, .both⟩).params = (plan.references .init).filter
    fun p => p.type.isTexture = t ∧ p ∈ plan.references .update
  init : ∀ t, (plan.uniforms.set ⟨t, .init⟩).params = (plan.references .init).filter
    fun p => p.type.isTexture = t ∧ p ∉ plan.references .update
  update : ∀ t, (plan.uniforms.set ⟨t, .update⟩).params = (plan.references .update).filter
    fun p => p.type.isTexture = t ∧ p ∉ plan.references .init
  output : ∀ t, (plan.uniforms.set ⟨t, .output⟩).params = (plan.references .output).filter
    fun p => p.type.isTexture = t
  placed : ∀ stage p, plan.ShaderRefersTo stage p →
    ∃! k, k ∈ UniformSet.ofStage stage ∧ p ∈ (plan.uniforms.set k).params
  named : ∀ stage id name, (plan.uniforms.namingOf stage).find? id = some name ↔
    ∃ k ∈ UniformSet.ofStage stage, ∃ (i : Nat) (p : Param),
      (plan.uniforms.set k).params[i]? = some p ∧ p.id = id ∧ name = k.stem ++ toString i
  distinct : ∀ stage, ((plan.uniforms.namingOf stage).entries.map (·.2)).Nodup

end Plan

namespace Plan.Resolved

variable {params : ParamTable} {plan : Plan} (r : plan.Resolved params) {stage other : Stage}
  {p q : Param} {k : UniformSet}

include r

theorem contains_kind {t : Bool} (known : params.param? p.id = some p) :
    ((plan.paramsOf stage).kind t).contains p.id
      = decide (p.type.isTexture = t ∧ p ∈ plan.references stage) := by
  rw [Bool.eq_iff_iff, decide_eq_true_eq, ParamSet.contains, List.contains_iff_mem, ParamSet.ids,
    ParamSet.kind, ParamSet.params_filter, r.params_paramsOf]
  simp only [List.mem_map, List.mem_filter, decide_eq_true_eq]
  constructor
  · rintro ⟨q, ⟨hq, texture⟩, same⟩
    have found := r.param?_of_mem_references hq
    rw [same, known] at found
    cases found
    exact ⟨texture, hq⟩
  · rintro ⟨texture, hp⟩
    exact ⟨p, ⟨hp, texture⟩, rfl⟩

theorem params_kind (t : Bool) : ((plan.paramsOf stage).kind t).params =
    (plan.references stage).filter fun p => p.type.isTexture = t := by
  rw [ParamSet.kind, ParamSet.params_filter, r.params_paramsOf]

theorem params_inter (t : Bool) :
    (((plan.paramsOf stage).kind t).inter ((plan.paramsOf other).kind t)).params =
      (plan.references stage).filter
        fun p => p.type.isTexture = t ∧ p ∈ plan.references other := by
  rw [ParamSet.inter, ParamSet.params_filter, r.params_kind, List.filter_filter]
  apply List.filter_congr
  intro p hp
  rw [r.contains_kind (r.param?_of_mem_references hp)]
  by_cases texture : p.type.isTexture = t <;> simp [texture]

theorem params_diff (t : Bool) :
    (((plan.paramsOf stage).kind t).diff ((plan.paramsOf other).kind t)).params =
      (plan.references stage).filter
        fun p => p.type.isTexture = t ∧ p ∉ plan.references other := by
  rw [ParamSet.diff, ParamSet.params_filter, r.params_kind, List.filter_filter]
  apply List.filter_congr
  intro p hp
  rw [r.contains_kind (r.param?_of_mem_references hp)]
  by_cases texture : p.type.isTexture = t <;> simp [texture]

theorem params_both (t : Bool) : (plan.uniforms.set ⟨t, .both⟩).params =
    (plan.references .init).filter
      fun p => p.type.isTexture = t ∧ p ∈ plan.references .update := by
  rw [Uniforms.set, plan.sharing_eq]
  exact r.params_inter t

theorem params_init (t : Bool) : (plan.uniforms.set ⟨t, .init⟩).params =
    (plan.references .init).filter
      fun p => p.type.isTexture = t ∧ p ∉ plan.references .update := by
  rw [Uniforms.set, plan.sharing_eq]
  exact r.params_diff t

theorem params_update (t : Bool) : (plan.uniforms.set ⟨t, .update⟩).params =
    (plan.references .update).filter
      fun p => p.type.isTexture = t ∧ p ∉ plan.references .init := by
  rw [Uniforms.set, plan.sharing_eq]
  exact r.params_diff t

theorem params_output (t : Bool) : (plan.uniforms.set ⟨t, .output⟩).params =
    (plan.references .output).filter fun p => p.type.isTexture = t := by
  rw [Uniforms.set, plan.sharing_eq]
  exact r.params_kind t

theorem mem_set (hk : k ∈ UniformSet.ofStage stage) : p ∈ (plan.uniforms.set k).params ↔
    plan.ShaderRefersTo stage p ∧ plan.setOf stage p = k := by
  obtain ⟨t, part⟩ := k
  cases stage <;> cases part <;>
    simp [UniformSet.ofStage, ShaderRefersTo, setOf, r.params_both, r.params_init, r.params_update,
      r.params_output] at hk ⊢
  all_goals grind

theorem param?_of_shaderRefersTo (refers : plan.ShaderRefersTo stage p) :
    params.param? p.id = some p := by
  cases stage with
  | output => exact r.param?_of_mem_references refers
  | _ => exact refers.elim r.param?_of_mem_references r.param?_of_mem_references

theorem nodup_ids (stage : Stage) :
    ((UniformSet.ofStage stage).flatMap fun k => (plan.uniforms.set k).ids).Nodup := by
  rw [List.nodup_flatMap]
  refine ⟨fun k _ => (plan.uniforms.set k).distinct,
    (UniformSet.nodup_ofStage stage).pairwise_of_forall_ne fun j hj k hk other => ?_⟩
  show List.Disjoint _ _
  rw [List.disjoint_left]
  intro id here there
  obtain ⟨p, hp, rfl⟩ := List.mem_map.1 here
  obtain ⟨q, hq, same⟩ := List.mem_map.1 there
  obtain ⟨refers, at_j⟩ := (r.mem_set hj).1 hp
  obtain ⟨refers', at_k⟩ := (r.mem_set hk).1 hq
  have found := r.param?_of_shaderRefersTo refers'
  rw [same, r.param?_of_shaderRefersTo refers] at found
  cases found
  exact other (at_j.symm.trans at_k)

theorem entries_namingOf (stage : Stage) : (plan.uniforms.namingOf stage).entries =
    (UniformSet.ofStage stage).flatMap
      fun k => Naming.number k.stem (plan.uniforms.set k).params := by
  rw [Uniforms.namingOf_eq, Naming.entries_nameSets, List.flatMap_map]
  · rfl
  · rw [List.flatMap_map]
    exact r.nodup_ids stage

theorem mem_entries {id name : String} : (id, name) ∈ (plan.uniforms.namingOf stage).entries ↔
    ∃ k ∈ UniformSet.ofStage stage, ∃ (i : Nat) (p : Param),
      (plan.uniforms.set k).params[i]? = some p ∧ p.id = id ∧ name = k.stem ++ toString i := by
  rw [r.entries_namingOf, List.mem_flatMap]
  simp only [Naming.mem_number]

theorem nodup_names (stage : Stage) :
    ((plan.uniforms.namingOf stage).entries.map (·.2)).Nodup := by
  rw [r.entries_namingOf, List.map_flatMap, List.nodup_flatMap]
  refine ⟨fun k _ => Naming.nodup_names_number k.isStem_stem _,
    (UniformSet.nodup_ofStage stage).pairwise_of_forall_ne fun j _ k _ other => ?_⟩
  show List.Disjoint _ _
  rw [List.disjoint_left]
  intro name here there
  obtain ⟨e, he, rfl⟩ := List.mem_map.1 here
  obtain ⟨f, hf, same⟩ := List.mem_map.1 there
  obtain ⟨m, -, -, -, he⟩ := Naming.mem_number.1 he
  obtain ⟨n, -, -, -, hf⟩ := Naming.mem_number.1 hf
  rw [he, hf] at same
  exact other (UniformSet.stem_inj (Naming.numbered_inj k.isStem_stem j.isStem_stem same).1).symm

theorem partitioned : plan.Partitioned := by
  constructor
  case both => exact r.params_both
  case init => exact r.params_init
  case update => exact r.params_update
  case output => exact r.params_output
  case placed =>
    intro stage p refers
    refine ⟨plan.setOf stage p, ⟨plan.setOf_mem stage p, ?_⟩, fun k ⟨hk, mem⟩ => ?_⟩
    · exact (r.mem_set (plan.setOf_mem stage p)).2 ⟨refers, rfl⟩
    · exact ((r.mem_set hk).1 mem).2.symm
  case named =>
    intro stage id name
    rw [Naming.find?_eq_some_iff, r.mem_entries]
  case distinct => exact r.nodup_names

end Plan.Resolved

/-- The parameters of any plan are split and named exactly, and its signals are baked, whatever was
baked before. -/
theorem Plan.partition {system : ParticleSystem} {library : Library} {params : ParamTable}
    {plan : Plan} (h : Plan.ofSystem system library params = .ok plan) (before : Bake) :
    (∃ after, plan.bake params before = (after, .ok ())) ∧ plan.Partitioned := by
  have r := Plan.resolved_of_ofSystem h
  obtain ⟨after, baked, -⟩ := r.bake_eq_ok
  exact ⟨⟨after, baked⟩, r.partitioned⟩

def lanternValues : ParamTable := .ofList
  [("drift", .float3 (.replicate 3 ParamValue.one)),
   ("span", .float ParamValue.one),
   ("glow", .colorGradient [⟨ParamValue.zero, Signal.white⟩]),
   ("swell", .curve []),
   ("grain", .texture2D "grain.png"),
   ("mask", .texture2D ""),
   ("paper", .texture2D "paper.png")]

/-- Lanterns drift from birth on through a grain; they glow and swell while they live, and are drawn
as billboards of paper. -/
def lanterns : ParticleSystem where
  version := "1"
  metadata := { name := "Lanterns" }
  id := "lanterns"
  contexts := [
    { id := "birth", stage := .init,
      settings := .ofList
        [("lifetime", ⟨.object [("param", .string "span")], by simp, trivial, trivial⟩)],
      blocks := [
        { id := "place", type := "UniformSet",
          slots := .ofList [("offset", .param "drift"), ("field", .param "grain")],
          descriptor := some
            { attributes := [⟨"position", .float3, true⟩],
              properties := [⟨"offset", .float3, none⟩, ⟨"field", .texture2D, none⟩],
              source := ["position = offset;"] } }] },
    { id := "life", stage := .update,
      blocks := [
        { id := "blow", type := "Blow",
          slots := .ofList
            [("wind", .param "drift"), ("size", .param "swell"), ("tint", .param "glow"),
             ("field", .param "grain"), ("holes", .param "mask")],
          descriptor := some
            { attributes := [⟨"position", .float3, true⟩, ⟨"color", .float3, true⟩],
              properties :=
                [⟨"tint", .colorGradient, none⟩, ⟨"wind", .float3, none⟩, ⟨"size", .curve, none⟩,
                 ⟨"holes", .texture2D, none⟩, ⟨"field", .texture2D, none⟩],
              source := ["position += wind * SAMPLE(size, 0.5);"] } }] },
    { id := "drawing", stage := .output,
      settings := .ofList
        [("kind", ⟨.string "billboard", trivial⟩),
         ("texture", ⟨.object [("param", .string "paper")], by simp, trivial, trivial⟩)],
      blocks := [
        { id := "lean", type := "Lean", slots := .ofList [("by", .param "drift")],
          descriptor := some { properties := [⟨"by", .float3, none⟩] } }] }]

theorem lanterns_partition : ∃ plan, Plan.ofSystem lanterns ∅ lanternValues = .ok plan ∧
    plan.uniforms.naming.entries =
      [("drift", "globalUniform0"), ("span", "initUniform0"), ("glow", "updateUniform0"),
       ("swell", "updateUniform1"), ("grain", "globalSampler0"), ("mask", "updateSampler0")] ∧
    plan.uniforms.outputNaming.entries =
      [("drift", "outputUniform0"), ("paper", "outputSampler0")] ∧
    (∃ after, plan.bake lanternValues (Bake.empty.store "glow" (.curve [])) = (after, .ok ())) ∧
    plan.Partitioned := by
  have named : (Plan.ofSystem lanterns ∅ lanternValues).toOption.map
      (fun plan => (plan.uniforms.naming.entries, plan.uniforms.outputNaming.entries)) = some
        ([("drift", "globalUniform0"), ("span", "initUniform0"), ("glow", "updateUniform0"),
          ("swell", "updateUniform1"), ("grain", "globalSampler0"), ("mask", "updateSampler0")],
         [("drift", "outputUniform0"), ("paper", "outputSampler0")]) := by
    decide +kernel
  obtain ⟨plan, h, same⟩ := exists_of_toOption named
  obtain ⟨simulated, drawn⟩ := Prod.mk.inj same
  exact ⟨plan, h, simulated, drawn, Plan.partition h _⟩

end ParticleShaders
