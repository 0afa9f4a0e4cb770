import ParticleShaders.Proofs.Plan.FirstFault

namespace ParticleShaders

def FailsOnly {ε α : Type} (P : ε → Prop) (x : Except ε α) : Prop := ∀ e, x = .error e → P e

namespace FailsOnly

variable {ε α β : Type} {P : ε → Prop}

theorem ok (a : α) : FailsOnly P (.ok a) := fun _ h => nomatch h

theorem bind {x : Except ε α} {f : α → Except ε β} (first : FailsOnly P x)
    (later : ∀ a, FailsOnly P (f a)) : FailsOnly P (x >>= f) := by
  intro e h
  rcases bind_eq_error_iff.1 h with h | ⟨a, -, h⟩
  · exact first e h
  · exact later a e h

theorem of_reports {x : Except ε α} {faults : List ε} (reports : Reports x faults)
    (h : ∀ e ∈ faults, P e) : FailsOnly P x :=
  fun e failed => h e (List.mem_of_mem_head? (reports.eq_error_iff.1 failed))

end FailsOnly

def Rejection.IsAboutPlan : Rejection → Prop
  | twoTypes .. | phaseShift .. | unmetNeed .. | tooManyBuffers .. | outputSignal ..
  | missingValue .. => False
  | _ => True

open Rejection (IsAboutPlan)

section

variable {params : ParamTable} {library : Library}

theorem Binding.isAboutPlan_of_mem_faults (b : Binding) (owner property : String)
    (type : ValueType) : ∀ e ∈ b.faults params owner property type, e.IsAboutPlan := by
  cases b with
  | expr source => simp [faults]
  | param id =>
    unfold faults
    split
    · simp [IsAboutPlan]
    · split <;> simp [IsAboutPlan]

theorem Block.isAboutPlan_of_mem_faults (b : Block) (stage : Stage) :
    ∀ e ∈ b.faults params library stage, e.IsAboutPlan := by
  have properties (p : PropertyDecl) : ∀ e ∈ b.propertyFaults params p, e.IsAboutPlan := by
    unfold propertyFaults
    split
    · exact Binding.isAboutPlan_of_mem_faults _ _ _ _
    · split <;> simp [IsAboutPlan]
  unfold faults
  split
  · simp [IsAboutPlan]
  · simp only [Descriptor.faults, List.forall_mem_append, List.forall_mem_map,
      List.forall_mem_flatMap]
    exact ⟨⟨⟨fun _ _ => trivial, fun _ _ => trivial⟩, fun p _ => properties p⟩,
      fun _ _ => trivial⟩

theorem Settings.isAboutPlan_of_mem_bindingFaults (settings : Settings) (stage : Stage)
    (key : String) {faults : Binding → List Rejection}
    (bound : ∀ b, ∀ e ∈ faults b, e.IsAboutPlan) :
    ∀ e ∈ settings.bindingFaults stage key faults, e.IsAboutPlan := by
  unfold bindingFaults
  split
  · simp [IsAboutPlan]
  · exact List.forall_mem_flatMap.2 fun b _ => bound b

theorem Context.isAboutPlan_of_mem_settingsFaults (c : Context) :
    ∀ e ∈ c.settingsFaults params, e.IsAboutPlan := by
  unfold settingsFaults
  split
  · exact Settings.isAboutPlan_of_mem_bindingFaults _ _ _ fun b =>
      b.isAboutPlan_of_mem_faults _ _ _
  · simp
  · refine List.forall_mem_append.2 ⟨?_, ?_⟩
    · unfold Settings.kindFaults
      dsimp only
      split <;> simp [IsAboutPlan]
    · refine Settings.isAboutPlan_of_mem_bindingFaults _ _ _ fun b => ?_
      cases b with
      | expr source => simp [Binding.textureFaults, IsAboutPlan]
      | param id => exact Binding.isAboutPlan_of_mem_faults (.param id) _ _ _

theorem ParticleSystem.isAboutPlan_of_mem_faults (system : ParticleSystem) :
    ∀ e ∈ system.faults library params, e.IsAboutPlan := by
  simp only [faults, missingStage, List.forall_mem_append, List.forall_mem_flatMap]
  refine ⟨⟨⟨?_, ?_⟩, ?_⟩, ?_⟩
  · exact fun c _ => c.isAboutPlan_of_mem_settingsFaults
  · intro stage _
    split <;> simp [IsAboutPlan]
  · exact fun c _ b _ => b.isAboutPlan_of_mem_faults c.stage
  · split <;> simp [IsAboutPlan]

end

theorem Plan.ofSystem_failsOnly (system : ParticleSystem) (library : Library)
    (params : ParamTable) : FailsOnly IsAboutPlan (ofSystem system library params) :=
  .of_reports (ofSystem_reports system library params) system.isAboutPlan_of_mem_faults

end ParticleShaders
