import Mathlib.Logic.Embedding.Basic
import ParticleShaders.Proofs.Renaming.Planning
import ParticleShaders.Uniforms

namespace ParticleShaders

namespace ParamSet

variable (ρ : String ↪ String) (s t : ParamSet)

def rename : ParamSet where
  params := s.params.map (·.rename ρ)
  distinct := by
    have distinct := s.distinct.map ρ.injective
    rw [List.map_map] at distinct ⊢
    exact distinct

@[simp] theorem ids_rename : (s.rename ρ).ids = s.ids.map ρ := by
  simp only [ids, rename, List.map_map]
  rfl

@[simp] theorem contains_rename (id : String) : (s.rename ρ).contains (ρ id) = s.contains id := by
  rw [Bool.eq_iff_iff]
  simp [contains]

@[simp] theorem size_rename : (s.rename ρ).size = s.size := List.length_map ..

theorem insert_rename (p : Param) : (s.rename ρ).insert (p.rename ρ) = (s.insert p).rename ρ := by
  have known : (p.rename ρ).id ∈ (s.rename ρ).ids ↔ p.id ∈ s.ids := by
    simp [Param.rename]
  unfold insert
  by_cases h : p.id ∈ s.ids
  · rw [dif_pos h, dif_pos (known.2 h)]
  · rw [dif_neg h, dif_neg (known.not.2 h)]
    apply ParamSet.ext
    show s.params.map _ ++ [p.rename ρ] = (s.params ++ [p]).map _
    rw [List.map_append, List.map_singleton]

theorem insertAll_rename (ps : List Param) :
    (s.rename ρ).insertAll (ps.map (·.rename ρ)) = (s.insertAll ps).rename ρ := by
  unfold insertAll
  induction ps generalizing s with
  | nil => rfl
  | cons p rest ih => rw [List.map_cons, List.foldl_cons, List.foldl_cons, insert_rename, ih]

theorem ofList_rename (ps : List Param) :
    ofList (ps.map (·.rename ρ)) = (ofList ps).rename ρ :=
  insertAll_rename ρ ∅ ps

theorem filter_rename {test test' : Param → Bool} (h : ∀ p, test' (p.rename ρ) = test p) :
    (s.rename ρ).filter test' = (s.filter test).rename ρ := by
  apply ParamSet.ext
  simp only [filter, rename, List.filter_map]
  congr 1
  exact List.filter_congr fun p _ => h p

@[simp] theorem textures_rename : (s.rename ρ).textures = s.textures.rename ρ :=
  filter_rename ρ s fun _ => rfl

@[simp] theorem withoutTextures_rename :
    (s.rename ρ).withoutTextures = s.withoutTextures.rename ρ :=
  filter_rename ρ s fun _ => rfl

@[simp] theorem signals_rename : (s.rename ρ).signals = s.signals.rename ρ :=
  filter_rename ρ s fun _ => rfl

@[simp] theorem inter_rename : (s.rename ρ).inter (t.rename ρ) = (s.inter t).rename ρ :=
  filter_rename ρ s fun p => contains_rename ρ t p.id

@[simp] theorem diff_rename : (s.rename ρ).diff (t.rename ρ) = (s.diff t).rename ρ :=
  filter_rename ρ s fun p => congrArg (!·) (contains_rename ρ t p.id)

end ParamSet

namespace Naming

variable (ρ : String ↪ String) (n : Naming)

def rename : Naming where
  entries := n.entries.map fun e => (ρ e.1, e.2)
  distinct := nodup_map_key ρ.injective n.distinct

@[simp] theorem ids_rename : (n.rename ρ).ids = n.ids.map ρ := by
  simp only [ids, rename, List.map_map]
  rfl

@[simp] theorem find?_rename (id : String) : (n.rename ρ).find? (ρ id) = n.find? id :=
  lookup_map_key ρ.injective n.entries id

theorem unnamed_rename (s : ParamSet) :
    (n.rename ρ).unnamed (s.rename ρ) = (n.unnamed s).map (·.rename ρ) := by
  simp only [unnamed, ParamSet.rename, List.filter_map]
  congr 1
  refine List.filter_congr fun p _ => congrArg (!·) ?_
  rw [Bool.eq_iff_iff]
  simp [Param.rename]

theorem number_rename (stem : String) (ps : List Param) :
    number stem (ps.map (·.rename ρ)) = (number stem ps).map fun e => (ρ e.1, e.2) := by
  simp only [number, List.mapIdx_eq_zipIdx_map, List.zipIdx_map, List.map_map]
  rfl

@[simp] theorem nameAll_rename (s : ParamSet) (stem : String) :
    (n.rename ρ).nameAll (s.rename ρ) stem = (n.nameAll s stem).rename ρ := by
  apply Naming.ext
  show (n.rename ρ).entries ++ number stem ((n.rename ρ).unnamed (s.rename ρ))
    = (n.entries ++ number stem (n.unnamed s)).map _
  rw [unnamed_rename, number_rename, List.map_append]
  rfl

@[simp] theorem empty_rename : (∅ : Naming).rename ρ = ∅ := rfl

end Naming

namespace Sharing

def rename (ρ : String ↪ String) (s : Sharing) : Sharing :=
  ⟨s.both.rename ρ, s.init.rename ρ, s.update.rename ρ, s.output.rename ρ⟩

theorem split_rename (ρ : String ↪ String) (init update output : ParamSet) :
    split (init.rename ρ) (update.rename ρ) (output.rename ρ)
      = (split init update output).rename ρ := by
  simp [split, rename]

end Sharing

namespace Uniforms

variable (ρ : String ↪ String) (u : Uniforms)

def rename : Uniforms := ⟨u.plain.rename ρ, u.samplers.rename ρ⟩

theorem naming_rename : (u.rename ρ).naming = u.naming.rename ρ := by
  rw [naming, ← Naming.empty_rename ρ]
  simp only [rename, Sharing.rename, Naming.nameAll_rename]
  rfl

theorem outputNaming_rename : (u.rename ρ).outputNaming = u.outputNaming.rename ρ := by
  rw [outputNaming, ← Naming.empty_rename ρ]
  simp only [rename, Sharing.rename, Naming.nameAll_rename]
  rfl

end Uniforms

theorem BoundBlock.params_rename (ρ : String → String) (b : BoundBlock) :
    (b.rename ρ).params = b.params.map (·.rename ρ) := by
  simp only [params, rename, List.filterMap_map, List.map_filterMap]
  refine List.filterMap_congr fun a _ => ?_
  cases a <;> rfl

namespace Plan

variable (ρ : String ↪ String) (plan : Plan)

theorem blockParams_rename (blocks : List BoundBlock) :
    blockParams (blocks.map (·.rename ρ)) = (blockParams blocks).map (·.rename ρ) := by
  simp only [blockParams, List.flatMap_map, List.map_flatMap, BoundBlock.params_rename]

theorem initParams_rename : (plan.rename ρ).initParams = plan.initParams.rename ρ := by
  have lifetime : (plan.init.rename ρ).params = plan.init.params.map (·.rename ρ) := by
    unfold InitGenerator.params InitGenerator.rename
    cases plan.init.lifetime with
    | none => rfl
    | some a => cases a <;> rfl
  rw [initParams, initParams, ← ParamSet.ofList_rename, List.map_append, ← blockParams_rename,
    ← lifetime]
  rfl

theorem updateParams_rename : (plan.rename ρ).updateParams = plan.updateParams.rename ρ := by
  rw [updateParams, updateParams, ← ParamSet.ofList_rename, ← blockParams_rename]
  rfl

theorem outputParams_rename : (plan.rename ρ).outputParams = plan.outputParams.rename ρ := by
  have texture : (plan.output.rename ρ).params = plan.output.params.map (·.rename ρ) := by
    unfold OutputGenerator.params OutputGenerator.rename
    cases plan.output.texture <;> rfl
  rw [outputParams, outputParams, ← ParamSet.ofList_rename, List.map_append, ← blockParams_rename,
    ← texture]
  rfl

theorem uniforms_rename : (plan.rename ρ).uniforms = plan.uniforms.rename ρ := by
  simp only [uniforms, initParams_rename, updateParams_rename, outputParams_rename,
    ParamSet.textures_rename, ParamSet.withoutTextures_rename, Sharing.split_rename]
  rfl

theorem signals_rename : (plan.rename ρ).signals = plan.signals.map (·.rename ρ) := by
  simp only [signals, initParams_rename, updateParams_rename, ParamSet.signals_rename,
    List.map_append]
  rfl

end Plan

end ParticleShaders
