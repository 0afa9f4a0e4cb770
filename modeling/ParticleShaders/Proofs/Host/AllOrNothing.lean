import ParticleShaders.Proofs.Host.Pushes

namespace ParticleShaders

section Chains

variable {ε α β : Type} {f : α → Except ε β} {g : α → β} {xs : List α}

theorem mapM_eq_ok_map (h : ∀ x ∈ xs, f x = .ok (g x)) : xs.mapM f = .ok (xs.map g) := by
  induction xs with
  | nil => rfl
  | cons x rest ih =>
    obtain ⟨first, later⟩ := List.forall_mem_cons.1 h
    rw [List.mapM_cons, first, ih later]
    rfl

theorem exists_of_mapM_eq_error {e : ε} (h : xs.mapM f = .error e) :
    ∃ before x after, xs = before ++ x :: after ∧ (∀ y ∈ before, ∃ z, f y = .ok z) ∧
      f x = .error e := by
  induction xs with
  | nil => cases h
  | cons x rest ih =>
    rw [List.mapM_cons] at h
    rcases bind_eq_error_iff.1 h with failed | ⟨y, fine, h⟩
    · exact ⟨[], x, rest, rfl, by simp, failed⟩
    · rcases bind_eq_error_iff.1 h with failed | ⟨ys, -, h⟩
      · obtain ⟨before, z, after, rfl, fines, failed⟩ := ih failed
        exact ⟨x :: before, z, after, rfl, List.forall_mem_cons.2 ⟨⟨y, fine⟩, fines⟩, failed⟩
      · cases h

end Chains

namespace Bake

variable {b : Bake} {id : String}

def HasRow (b : Bake) (id : String) (type : ValueType) : Prop :=
  ∃ s, (id, s) ∈ b.shown ∧ s.type = type

theorem gradientUniform?_eq_none_iff :
    b.gradientUniform? id = none ↔ ¬ b.HasRow id .colorGradient := by
  constructor
  · rintro none ⟨s, mem, type⟩
    cases s with
    | gradient keys =>
      obtain ⟨x, found⟩ := exists_gradientUniform? mem
      cases none.symm.trans found
    | curve keys => cases type
  · intro rowless
    rw [gradientUniform?, Option.map_eq_none_iff, List.findIdx?_eq_none_iff]
    rintro ⟨other, keys⟩ mem
    have apart : other ≠ id := by
      rintro rfl
      exact rowless ⟨_, mem_gradients.1 mem, rfl⟩
    simpa using apart

theorem curveUniform?_eq_none_iff : b.curveUniform? id = none ↔ ¬ b.HasRow id .curve := by
  constructor
  · rintro none ⟨s, mem, type⟩
    cases s with
    | gradient keys => cases type
    | curve keys =>
      obtain ⟨x, found⟩ := exists_curveUniform? mem
      cases none.symm.trans found
  · intro rowless
    have unlisted : b.curves.findIdx? (·.1 = id) = none := by
      rw [List.findIdx?_eq_none_iff]
      rintro ⟨other, keys⟩ mem
      have apart : other ≠ id := by
        rintro rfl
        exact rowless ⟨_, mem_curves.1 mem, rfl⟩
      simpa using apart
    rw [curveUniform?_eq, unlisted, Option.bind_none]

end Bake

def Kernel.word : Kernel → String
  | .init => "init"
  | .update => "update"

def Kernel.IsNamedIn (k : Kernel) (name : String) : Prop :=
  "global".toList <:+: name.toList ∨ k.word.toList <:+: name.toList

instance (k : Kernel) (name : String) : Decidable (k.IsNamedIn name) :=
  inferInstanceAs (Decidable (_ ∨ _))

theorem Push.ofTexture_eq (targets : List PushTarget) (name path : String) :
    ofTexture targets name path
      = (if path = "" then [] else targets).map (⟨·, name, .texture path⟩) := by
  unfold ofTexture
  split <;> rfl

theorem Push.samplerKernels_eq (name : String) :
    samplerKernels name = [Kernel.init, .update].filter (·.IsNamedIn name) := by
  have named (k : Kernel) : decide (k.IsNamedIn name)
      = (occursIn "global".toList name.toList || occursIn k.word.toList name.toList) := by
    rw [Bool.eq_iff_iff, decide_eq_true_iff, Bool.or_eq_true, occursIn_iff, occursIn_iff]
    rfl
  rw [List.filter_cons, List.filter_cons, List.filter_nil, named, named]
  unfold samplerKernels Kernel.word
  dsimp only
  split <;> split <;> rfl

theorem Push.ofBake_eq (bake : Bake) : ofBake bake =
    (bake.colorTexture?.toList.flatMap fun t =>
      [Kernel.init, .update].map (⟨.kernel ·, "gradientTexture", .baked t⟩))
    ++ bake.floatTexture?.toList.flatMap fun t =>
      [Kernel.init, .update].map (⟨.kernel ·, "curveTexture", .baked t⟩) :=
  rfl

namespace ParamValue

def simulated? (bake : Bake) (id : String) : ParamValue → Option PushValue
  | .float x => some (.float x)
  | .float2 v => some (.floats v.toList)
  | .float3 v => some (.floats v.toList)
  | .float4 v => some (.vector v)
  | .int i => some (.int i)
  | .uint n => some (.int n.toInt32)
  | .texture2D path | .texture3D path => some (.texture path)
  | .transform m => some (.floats m.toList)
  | .colorGradient _ => (bake.gradientUniform? id).map .float
  | .curve _ => (bake.curveUniform? id).map .vector

def widen {n : Nat} (v : Vector Float32 n) : Vector Float32 4 := .ofFn (v.toList.getD · zero)

/-- What the drawing gets of a value: vectors of four numbers, and nothing of a signal. -/
def drawn? : ParamValue → Option PushValue
  | .float x => some (.float x)
  | .float2 v => some (.vector (widen v))
  | .float3 v => some (.vector (widen v))
  | .float4 v => some (.vector v)
  | .int i => some (.int i)
  | .uint n => some (.int n.toInt32)
  | .texture2D path | .texture3D path => some (.texture path)
  | .transform m => some (.matrix m)
  | _ => none

end ParamValue

structure Ask where
  id : String
  name : String
  isDrawn : Bool
  deriving DecidableEq, Repr

namespace Ask

variable (params : ParamTable) (bake : Bake) (a : Ask)

def targets : ParamValue → List PushTarget
  | .texture2D path | .texture3D path =>
    if path = "" then []
    else if a.isDrawn then [.material]
    else ([Kernel.init, .update].filter (·.IsNamedIn a.name)).map .kernel
  | _ => if a.isDrawn then [.material] else [.compute]

def value? (v : ParamValue) : Option PushValue :=
  if a.isDrawn then v.drawn? else v.simulated? bake a.id

def pushes : List Push :=
  (params.find? a.id).toList.flatMap fun v =>
    (a.value? bake v).toList.flatMap fun x => (a.targets v).map (⟨·, a.name, x⟩)

inductive Refused : Rejection → Prop
  | missing (unknown : params.find? a.id = none) : Refused (.missingValue a.id)
  | drawn {v : ParamValue} (drawn : a.isDrawn) (known : params.find? a.id = some v)
    (signal : v.type.isSignal) : Refused (.outputSignal a.id v.type)
  | rowless {v : ParamValue} (simulated : ¬ a.isDrawn) (known : params.find? a.id = some v)
    (signal : v.type.isSignal) (rowless : ¬ bake.HasRow a.id v.type) :
    Refused (.missingValue a.id)

def push : Except Rejection (List Push) :=
  if a.isDrawn then Push.ofMaterial params a.id a.name
  else Push.ofCompute params bake a.id a.name

variable {params bake a}

theorem push_of_refused {e : Rejection} (h : a.Refused params bake e) :
    a.push params bake = .error e := by
  unfold push
  cases h with
  | missing unknown =>
    split
    · rw [Push.ofMaterial, unknown]
    · rw [Push.ofCompute, unknown]
  | drawn drawn known signal => rw [if_pos drawn, Push.ofMaterial_signal a.name known signal]
  | @rowless v simulated known signal rowless =>
    rw [if_neg simulated, Push.ofCompute, known]
    cases v with
    | colorGradient keys =>
      dsimp only
      rw [Bake.gradientUniform?_eq_none_iff.2 rowless]
    | curve keys =>
      dsimp only
      rw [Bake.curveUniform?_eq_none_iff.2 rowless]
    | _ => cases signal

theorem exists_refused {v : ParamValue} (known : params.find? a.id = some v)
    (none : a.value? bake v = none) : ∃ e, a.Refused params bake e := by
  unfold value? at none
  split at none
  · next drawn =>
    cases v with
    | colorGradient keys | curve keys => exact ⟨_, .drawn drawn known rfl⟩
    | _ => cases none
  · next simulated =>
    cases v with
    | colorGradient keys =>
      have rowless := Bake.gradientUniform?_eq_none_iff.1 (Option.map_eq_none_iff.1 none)
      exact ⟨_, .rowless simulated known rfl rowless⟩
    | curve keys =>
      have rowless := Bake.curveUniform?_eq_none_iff.1 (Option.map_eq_none_iff.1 none)
      exact ⟨_, .rowless simulated known rfl rowless⟩
    | _ => cases none

theorem push_of_value? {v : ParamValue} {x : PushValue} (known : params.find? a.id = some v)
    (given : a.value? bake v = some x) : a.push params bake = .ok (a.pushes params bake) := by
  have pushes : a.pushes params bake = (a.targets v).map (⟨·, a.name, x⟩) := by
    simp [pushes, known, given]
  rw [pushes]
  obtain ⟨id, name, isDrawn⟩ := a
  unfold push
  cases isDrawn with
  | true =>
    rw [if_pos rfl, Push.ofMaterial, known]
    cases v with
    | float2 v | float3 v =>
      cases given
      let pushed (w : Vector Float32 4) : Push := ⟨.material, name, .vector w⟩
      refine congrArg (fun w => Except.ok [pushed w]) (Vector.ext fun i hi => ?_)
      obtain rfl | rfl | rfl | rfl : i = 0 ∨ i = 1 ∨ i = 2 ∨ i = 3 := by omega
      all_goals simp [ParamValue.widen]
    | texture2D path | texture3D path =>
      cases given
      simp only [Push.ofTexture_eq]
      rfl
    | colorGradient keys | curve keys => cases given
    | _ =>
      cases given
      rfl
  | false =>
    rw [if_neg Bool.false_ne_true, Push.ofCompute, known]
    cases v with
    | texture2D path | texture3D path =>
      cases given
      simp only [Push.ofTexture_eq, Push.samplerKernels_eq]
      rfl
    | colorGradient keys | curve keys =>
      obtain ⟨y, found, rfl⟩ := Option.map_eq_some_iff.1 given
      dsimp only at found ⊢
      rw [found]
      rfl
    | _ =>
      cases given
      rfl

theorem push_cases (a : Ask) (params : ParamTable) (bake : Bake) :
    (∃ e, a.Refused params bake e) ∨ a.push params bake = .ok (a.pushes params bake) := by
  cases known : params.find? a.id with
  | none => exact .inl ⟨_, .missing known⟩
  | some v =>
    cases given : a.value? bake v with
    | none => exact .inl (exists_refused known given)
    | some x => exact .inr (push_of_value? known given)

theorem refused_iff {e : Rejection} : a.Refused params bake e ↔ a.push params bake = .error e := by
  refine ⟨push_of_refused, fun failed => ?_⟩
  rcases push_cases a params bake with ⟨e', refused⟩ | pushed
  · obtain rfl := Except.error.inj (failed.symm.trans (push_of_refused refused))
    exact refused
  · cases failed.symm.trans pushed

end Ask

namespace HostLayout

variable (l : HostLayout) (params : ParamTable) (bake : Bake)

def asks : List Ask :=
  l.uniforms.entries.map (fun e => ⟨e.1, e.2, false⟩)
    ++ l.outputUniforms.entries.map fun e => ⟨e.1, e.2, true⟩

theorem pushes_eq : l.pushes params bake
    = (l.asks.mapM (Ask.push params bake)).map (·.flatten ++ Push.ofBake bake) := by
  have asked : l.asks.mapM (Ask.push params bake) = (do
      let compute ← l.uniforms.entries.mapM fun e => Push.ofCompute params bake e.1 e.2
      let material ← l.outputUniforms.entries.mapM fun e => Push.ofMaterial params e.1 e.2
      return compute ++ material) := by
    rw [asks, List.mapM_append, List.mapM_map, List.mapM_map]
    rfl
  rw [asked, pushes]
  cases l.uniforms.entries.mapM fun e => Push.ofCompute params bake e.1 e.2 with
  | error e => rfl
  | ok compute =>
    cases l.outputUniforms.entries.mapM fun e => Push.ofMaterial params e.1 e.2 with
    | error e => rfl
    | ok material => simp [bind, Except.bind, Except.map, pure, Except.pure]

theorem pushes_cases :
    (∃ before a after e, l.asks = before ++ a :: after ∧
      (∀ b ∈ before, ∀ e', ¬ b.Refused params bake e') ∧ a.Refused params bake e ∧
      l.pushes params bake = .error e) ∨
    (∀ a ∈ l.asks, ∀ e, ¬ a.Refused params bake e) ∧
      l.pushes params bake
        = .ok (l.asks.flatMap (·.pushes params bake) ++ Push.ofBake bake) := by
  rw [pushes_eq]
  cases asked : l.asks.mapM (Ask.push params bake) with
  | error e =>
    obtain ⟨before, a, after, split, fine, failed⟩ := exists_of_mapM_eq_error asked
    refine .inl ⟨before, a, after, e, split, fun b hb e' refused => ?_,
      Ask.refused_iff.2 failed, rfl⟩
    obtain ⟨pushed, fine⟩ := fine b hb
    cases fine.symm.trans (Ask.push_of_refused refused)
  | ok pushed =>
    have fine (a) (ha : a ∈ l.asks) (e) : ¬ a.Refused params bake e := fun refused => by
      obtain ⟨_, -, given⟩ := exists_of_mem_forall₂ (forall₂_of_mapM_eq_ok asked).flip ha
      cases given.symm.trans (Ask.push_of_refused refused)
    have every : l.asks.mapM (Ask.push params bake) = .ok (l.asks.map (Ask.pushes params bake)) :=
      mapM_eq_ok_map fun a ha =>
        (a.push_cases params bake).resolve_left fun ⟨e, refused⟩ => fine a ha e refused
    obtain rfl := Except.ok.inj (asked.symm.trans every)
    exact .inr ⟨fine, rfl⟩

/-- The first uniform that is refused tells why, and the host receives nothing then. Without one it
receives what each uniform is pushed as, in order, and then each lookup texture that there is, for
both kernels. -/
theorem pushTo_allOrNothing (records : List Push) :
    ((∃ e, (l.pushTo params bake records).2 = .error e) ↔
      ∃ a ∈ l.asks, ∃ e, a.Refused params bake e) ∧
    (∀ e, (l.pushTo params bake records).2 = .error e →
      (l.pushTo params bake records).1 = records ∧
        ∃ before a after, l.asks = before ++ a :: after ∧
          (∀ b ∈ before, ∀ e', ¬ b.Refused params bake e') ∧ a.Refused params bake e) ∧
    ((l.pushTo params bake records).2 = .ok () →
      (l.pushTo params bake records).1 = records ++ l.asks.flatMap (·.pushes params bake)
        ++ (bake.colorTexture?.toList.flatMap fun t =>
          [Kernel.init, .update].map (⟨.kernel ·, "gradientTexture", .baked t⟩))
        ++ bake.floatTexture?.toList.flatMap fun t =>
          [Kernel.init, .update].map (⟨.kernel ·, "curveTexture", .baked t⟩)) := by
  unfold pushTo
  rcases l.pushes_cases params bake with
    ⟨before, a, after, e, split, fine, refused, failed⟩ | ⟨fine, pushed⟩
  · rw [failed]
    refine ⟨⟨fun _ => ⟨a, by simp [split], e, refused⟩, fun _ => ⟨e, rfl⟩⟩, fun e' same => ?_,
      fun no => (by cases no)⟩
    cases same
    exact ⟨rfl, before, a, after, split, fine, refused⟩
  · rw [pushed, Push.ofBake_eq]
    refine ⟨⟨?_, ?_⟩, fun e no => (by cases no), fun _ => ?_⟩
    · rintro ⟨e, no⟩
      cases no
    · rintro ⟨a, ha, e, refused⟩
      exact absurd refused (fine a ha e)
    · rw [List.append_assoc, List.append_assoc]

theorem pushTo_ok (records : List Push) (h : (l.pushes params bake).isOk) :
    (l.pushTo params bake records).2 = .ok () := by
  unfold pushTo
  cases pushed : l.pushes params bake with
  | ok new => rfl
  | error e =>
    rw [pushed] at h
    cases h

end HostLayout

theorem lanterns_allOrNothing :
    let outcome := lanterns.compile ∅ lanternValues (.ofSystem lanterns) .empty
    ∃ c color float, outcome.result = .ok c ∧ outcome.bake.colorTexture? = some color ∧
      outcome.bake.floatTexture? = some float ∧ ∀ records,
        c.layout.pushTo lanternValues outcome.bake records =
          (records ++ c.layout.asks.flatMap (·.pushes lanternValues outcome.bake)
            ++ [⟨.kernel .init, "gradientTexture", .baked color⟩,
                ⟨.kernel .update, "gradientTexture", .baked color⟩]
            ++ [⟨.kernel .init, "curveTexture", .baked float⟩,
                ⟨.kernel .update, "curveTexture", .baked float⟩], .ok ()) ∧
        ∃ e, c.layout.pushTo lanternValues .empty records = (records, .error e) := by
  intro outcome
  have compiled : outcome.result.toOption.map (fun c =>
      (c.layout.asks[2]?, (c.layout.pushes lanternValues outcome.bake).isOk))
        = some (some ⟨"glow", "updateUniform0", false⟩, true) := by
    decide +kernel
  have baked : outcome.bake.colorTexture?.isSome ∧ outcome.bake.floatTexture?.isSome := by
    decide +kernel
  obtain ⟨c, h, both⟩ := exists_of_toOption compiled
  obtain ⟨glow, pushes⟩ := Prod.ext_iff.1 both
  obtain ⟨color, hasColor⟩ := Option.isSome_iff_exists.1 baked.1
  obtain ⟨float, hasFloat⟩ := Option.isSome_iff_exists.1 baked.2
  have known : lanternValues.find? "glow"
      = some (.colorGradient [⟨ParamValue.zero, Signal.white⟩]) := rfl
  refine ⟨c, color, float, h, hasColor, hasFloat, fun records => ⟨?_, ?_⟩⟩
  · have fine := c.layout.pushTo_ok lanternValues outcome.bake records pushes
    obtain ⟨-, -, all⟩ := c.layout.pushTo_allOrNothing lanternValues outcome.bake records
    have pushed := all fine
    rw [hasColor, hasFloat] at pushed
    exact Prod.ext pushed fine
  · obtain ⟨refuses, nothing, -⟩ := c.layout.pushTo_allOrNothing lanternValues .empty records
    obtain ⟨e, failed⟩ := refuses.2
      ⟨_, List.mem_of_getElem? glow, _, .rowless Bool.false_ne_true known rfl nofun⟩
    exact ⟨e, Prod.ext (nothing e failed).1 failed⟩

end ParticleShaders
