import ParticleShaders.Host.Push
import ParticleShaders.Proofs.Renaming.Naming
import ParticleShaders.Proofs.Signal.Baking

namespace ParticleShaders

namespace Bake

variable (ρ : String ↪ String) (b : Bake) (id : String)

def rename : Bake where
  stored := b.stored.map fun e => (ρ e.1, e.2)
  shown := b.shown.map fun e => (ρ e.1, e.2)
  stored_distinct := nodup_map_key ρ.injective b.stored_distinct
  shown_distinct := nodup_map_key ρ.injective b.shown_distinct

theorem mem_stored_rename :
    ρ id ∈ (b.rename ρ).stored.map (·.1) ↔ id ∈ b.stored.map (·.1) := by
  simp [rename]

theorem store_rename (signal : Signal) :
    (b.rename ρ).store (ρ id) signal = (b.store id signal).rename ρ := by
  unfold store
  by_cases known : id ∈ b.stored.map (·.1)
  · rw [dif_pos known, dif_pos ((mem_stored_rename ρ b id).2 known)]
  · rw [dif_neg known, dif_neg ((mem_stored_rename ρ b id).not.2 known)]
    simp only [rename, List.map_append, List.map_singleton]

theorem add_rename (params : ParamTable) (ps : List Param) :
    (b.rename ρ).add (params.rename ρ) (ps.map (·.rename ρ))
      = ((b.add params ps).1.rename ρ, renameResult ρ (fun u => u) (b.add params ps).2) := by
  induction ps generalizing b with
  | nil => rfl
  | cons p rest ih =>
    have known : ((b.rename ρ).stored.map (·.1)).contains (p.rename ρ).id
        = (b.stored.map (·.1)).contains p.id := by
      rw [Bool.eq_iff_iff, List.contains_iff_mem, List.contains_iff_mem]
      exact mem_stored_rename ρ b p.id
    rw [List.map_cons, add, add, known]
    split
    · exact ih b
    · rw [show (params.rename ρ).find? (p.rename ρ).id = params.find? p.id from
        ParamTable.find?_rename ρ.injective params p.id]
      cases params.find? p.id >>= Signal.ofValue? with
      | some signal =>
        show ((b.rename ρ).store (ρ p.id) signal).add _ _ = _
        rw [store_rename, ih]
      | none => rfl

theorem gradients_rename : (b.rename ρ).gradients = b.gradients.map fun e => (ρ e.1, e.2) := by
  simp only [gradients, rename, List.filterMap_map, List.map_filterMap]
  refine List.filterMap_congr fun e _ => ?_
  obtain ⟨_, _ | _⟩ := e <;> rfl

theorem curves_rename : (b.rename ρ).curves = b.curves.map fun e => (ρ e.1, e.2) := by
  simp only [curves, rename, List.filterMap_map, List.map_filterMap]
  refine List.filterMap_congr fun e _ => ?_
  obtain ⟨_, _ | _⟩ := e <;> rfl

@[simp] theorem colorTexture?_rename : (b.rename ρ).colorTexture? = b.colorTexture? := by
  simp only [colorTexture?, gradients_rename, List.map_map]
  rfl

@[simp] theorem floatTexture?_rename : (b.rename ρ).floatTexture? = b.floatTexture? := by
  simp only [floatTexture?, curves_rename, List.map_map]
  rfl

theorem code_rename : (b.rename ρ).code = b.code := by
  refine code_congr ?_ ?_
  · rw [hasColor, gradients_rename, List.isEmpty_map, hasColor]
  · rw [hasFloat, curves_rename, List.isEmpty_map, hasFloat]

theorem findIdx?_rename {α : Type} (entries : List (String × α)) :
    (entries.map fun e => (ρ e.1, e.2)).findIdx? (·.1 = ρ id) = entries.findIdx? (·.1 = id) := by
  simp only [List.findIdx?_map, Function.comp_def, ρ.injective.eq_iff]

theorem gradientUniform?_rename :
    (b.rename ρ).gradientUniform? (ρ id) = b.gradientUniform? id := by
  rw [gradientUniform?, gradients_rename, findIdx?_rename, List.length_map, gradientUniform?]

theorem curveUniform?_rename : (b.rename ρ).curveUniform? (ρ id) = b.curveUniform? id := by
  rw [curveUniform?_eq, curves_rename, findIdx?_rename, lookup_map_key ρ.injective,
    List.length_map, curveUniform?_eq]

end Bake

theorem Plan.bake_rename (ρ : String ↪ String) (plan : Plan) (params : ParamTable)
    (before before' : Bake) : (plan.rename ρ).bake (params.rename ρ) before'
      = ((plan.bake params before).1.rename ρ,
          renameResult ρ (fun u => u) (plan.bake params before).2) := by
  have added : Bake.empty.add (params.rename ρ) (plan.signals.map (·.rename ρ)) = _ :=
    Bake.add_rename ρ .empty params plan.signals
  unfold bake
  rw [signals_rename, Bake.clear, Bake.clear, added]
  rcases Bake.empty.add params plan.signals with ⟨b, _ | _⟩ <;> rfl

namespace Push

variable (ρ : String ↪ String) (values : ParamTable) (bake : Bake) (id name : String)

theorem ofCompute_rename : ofCompute (values.rename ρ) (bake.rename ρ) (ρ id) name
    = renameResult ρ (fun ps => ps) (ofCompute values bake id name) := by
  simp only [ofCompute, ParamTable.find?_rename ρ.injective, Bake.gradientUniform?_rename,
    Bake.curveUniform?_rename]
  cases values.find? id with
  | none => rfl
  | some v =>
    cases v with
    | colorGradient keys => cases bake.gradientUniform? id <;> rfl
    | curve keys => cases bake.curveUniform? id <;> rfl
    | _ => rfl

theorem ofMaterial_rename : ofMaterial (values.rename ρ) (ρ id) name
    = renameResult ρ (fun ps => ps) (ofMaterial values id name) := by
  simp only [ofMaterial, ParamTable.find?_rename ρ.injective]
  cases values.find? id with
  | none => rfl
  | some v => cases v <;> rfl

theorem ofBake_rename : ofBake (bake.rename ρ) = ofBake bake := by
  simp only [ofBake, Bake.colorTexture?_rename, Bake.floatTexture?_rename]

end Push

namespace HostLayout

variable (ρ : String ↪ String) (l : HostLayout)

def rename : HostLayout :=
  { l with uniforms := l.uniforms.rename ρ, outputUniforms := l.outputUniforms.rename ρ }

theorem pushes_rename (values : ParamTable) (bake : Bake) :
    (l.rename ρ).pushes (values.rename ρ) (bake.rename ρ)
      = renameResult ρ (fun ps => ps) (l.pushes values bake) := by
  have compute : (l.rename ρ).uniforms.entries.mapM
        (fun e => Push.ofCompute (values.rename ρ) (bake.rename ρ) e.1 e.2)
      = renameResult ρ (List.map fun ps => ps)
        (l.uniforms.entries.mapM fun e => Push.ofCompute values bake e.1 e.2) :=
    mapM_rename fun e _ => Push.ofCompute_rename ρ values bake e.1 e.2
  have material : (l.rename ρ).outputUniforms.entries.mapM
        (fun e => Push.ofMaterial (values.rename ρ) e.1 e.2)
      = renameResult ρ (List.map fun ps => ps)
        (l.outputUniforms.entries.mapM fun e => Push.ofMaterial values e.1 e.2) :=
    mapM_rename fun e _ => Push.ofMaterial_rename ρ values e.1 e.2
  unfold pushes
  rw [compute, material]
  refine renameResult_bind fun compute => renameResult_bind fun material => ?_
  rw [List.map_id', List.map_id', Push.ofBake_rename]
  rfl

end HostLayout

end ParticleShaders
