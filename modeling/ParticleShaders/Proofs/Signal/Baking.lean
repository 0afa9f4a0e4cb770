import ParticleShaders.Proofs.Param.Numbering
import ParticleShaders.Proofs.Param.Resolution

namespace ParticleShaders

def ParamTable.signal? (params : ParamTable) (id : String) : Option Signal :=
  params.find? id >>= Signal.ofValue?

namespace Signal

def type : Signal → ValueType
  | gradient _ => .colorGradient
  | curve _ => .curve

theorem type_of_ofValue? {v : ParamValue} {s : Signal} (h : ofValue? v = some s) :
    s.type = v.type := by
  cases v <;> cases h <;> rfl

theorem exists_ofValue? {v : ParamValue} (h : v.type.isSignal) : ∃ s, ofValue? v = some s := by
  cases v with
  | colorGradient keys => exact ⟨_, rfl⟩
  | curve keys => exact ⟨_, rfl⟩
  | _ => cases h

end Signal

namespace ParamTable

variable {params : ParamTable} {p : Param}

theorem exists_signal? (known : params.param? p.id = some p) (h : p.type.isSignal) :
    ∃ s, params.signal? p.id = some s := by
  obtain ⟨v, found, same⟩ := exists_value known
  obtain ⟨s, described⟩ := Signal.exists_ofValue? (same ▸ h)
  exact ⟨s, Option.bind_eq_some_iff.2 ⟨v, found, described⟩⟩

theorem type_of_signal? {s : Signal} (known : params.param? p.id = some p)
    (h : params.signal? p.id = some s) : s.type = p.type := by
  obtain ⟨v, found, same⟩ := exists_value known
  obtain ⟨w, found', described⟩ := Option.bind_eq_some_iff.1 h
  obtain rfl := Option.some.inj (found.symm.trans found')
  rw [Signal.type_of_ofValue? described, same]

end ParamTable

namespace Bake

variable {params : ParamTable} {ps : List Param} {b : Bake} {id : String} {s : Signal}

theorem stored_store (fresh : id ∉ b.stored.map (·.1)) :
    (b.store id s).stored = b.stored ++ [(id, s)] := by
  rw [store, dif_neg fresh]

theorem add_eq_ok (valued : ∀ p ∈ ps, ∃ s, params.signal? p.id = some s) :
    ∃ b', b.add params ps = (b', .ok ()) ∧ ∀ id s, (id, s) ∈ b'.stored ↔
      (id, s) ∈ b.stored ∨
        (id ∉ b.stored.map (·.1) ∧ id ∈ ps.map (·.id) ∧ params.signal? id = some s) := by
  induction ps generalizing b with
  | nil => exact ⟨b, rfl, by simp⟩
  | cons p rest ih =>
    obtain ⟨signal, found⟩ := valued p List.mem_cons_self
    have later : ∀ q ∈ rest, ∃ s, params.signal? q.id = some s :=
      fun q hq => valued q (List.mem_cons_of_mem _ hq)
    unfold add
    split
    · next known =>
      obtain ⟨b', added, stored⟩ := ih (b := b) later
      refine ⟨b', added, fun id s => ?_⟩
      rw [stored, List.map_cons, List.mem_cons]
      have known : p.id ∈ b.stored.map (·.1) := List.contains_iff_mem.1 known
      grind
    · next fresh =>
      have fresh : p.id ∉ b.stored.map (·.1) := fun h => fresh (List.contains_iff_mem.2 h)
      obtain ⟨b', added, stored⟩ := ih (b := b.store p.id signal) later
      rw [show (params.find? p.id >>= Signal.ofValue?) = some signal from found]
      refine ⟨b', added, fun id s => ?_⟩
      rw [stored, stored_store fresh]
      simp only [List.map_append, List.map_cons, List.map_nil, List.mem_append,
        List.mem_cons, List.not_mem_nil, or_false, Prod.mk.injEq]
      grind

theorem mem_gradients {keys : List (Key Color)} :
    (id, keys) ∈ b.gradients ↔ (id, .gradient keys) ∈ b.shown := by
  simp only [gradients, List.mem_filterMap]
  constructor
  · rintro ⟨⟨_, _ | _⟩, mem, same⟩
    · cases same
      exact mem
    · cases same
  · intro mem
    exact ⟨_, mem, rfl⟩

theorem mem_curves {keys : List (Key Float32)} :
    (id, keys) ∈ b.curves ↔ (id, .curve keys) ∈ b.shown := by
  simp only [curves, List.mem_filterMap]
  constructor
  · rintro ⟨⟨_, _ | _⟩, mem, same⟩
    · cases same
    · cases same
      exact mem
  · intro mem
    exact ⟨_, mem, rfl⟩

theorem exists_gradientUniform? {keys : List (Key Color)} (h : (id, .gradient keys) ∈ b.shown) :
    ∃ x, b.gradientUniform? id = some x := by
  have row : (b.gradients.findIdx? (·.1 = id)).isSome := by
    rw [List.findIdx?_isSome, List.any_eq_true]
    exact ⟨_, mem_gradients.2 h, by simp⟩
  obtain ⟨row, found⟩ := Option.isSome_iff_exists.1 row
  exact ⟨_, by rw [gradientUniform?, found]; rfl⟩

def placeInRow (keys : List (Key Float32)) (row rows : Nat) : Vector Float32 4 :=
  let (low, range) := Signal.extent keys
  #v[ParamValue.one / range, -low / range, rowCenter row rows, ParamValue.zero]

theorem curveUniform?_eq : b.curveUniform? id = (b.curves.findIdx? (·.1 = id)).bind fun row =>
    (b.curves.lookup id).map (placeInRow · row b.curves.length) := by
  unfold curveUniform?
  cases b.curves.findIdx? (·.1 = id) with
  | none => rfl
  | some row => cases b.curves.lookup id <;> rfl

theorem exists_curveUniform? {keys : List (Key Float32)} (h : (id, .curve keys) ∈ b.shown) :
    ∃ x, b.curveUniform? id = some x := by
  have row : (b.curves.findIdx? (·.1 = id)).isSome := by
    rw [List.findIdx?_isSome, List.any_eq_true]
    exact ⟨_, mem_curves.2 h, by simp⟩
  have valued : (b.curves.lookup id).isSome :=
    List.lookup_isSome_iff.2 ⟨_, mem_curves.2 h, by simp⟩
  obtain ⟨row, found⟩ := Option.isSome_iff_exists.1 row
  obtain ⟨keys, known⟩ := Option.isSome_iff_exists.1 valued
  exact ⟨_, by rw [curveUniform?, found, known]; rfl⟩

theorem code_congr {b c : Bake} (color : b.hasColor = c.hasColor)
    (float : b.hasFloat = c.hasFloat) : b.code = c.code := by
  rw [code, functions, color, float]
  rfl

theorem texture?_isSome_iff {channels : Nat} {rows : List (List Float32)} :
    (texture? channels rows).isSome ↔ ∃ row, row ∈ rows := by
  cases rows with
  | nil => simp [texture?]
  | cons row rest => simp [texture?]

theorem colorTexture?_isSome_iff :
    b.colorTexture?.isSome ↔ ∃ e ∈ b.shown, e.2.type = .colorGradient := by
  rw [colorTexture?, texture?_isSome_iff]
  constructor
  · rintro ⟨_, mem⟩
    obtain ⟨_, mem, -⟩ := List.mem_map.1 mem
    exact ⟨_, mem_gradients.1 mem, rfl⟩
  · rintro ⟨⟨id, _ | _⟩, mem, same⟩
    · exact ⟨_, List.mem_map_of_mem (mem_gradients.2 mem)⟩
    · cases same

theorem floatTexture?_isSome_iff :
    b.floatTexture?.isSome ↔ ∃ e ∈ b.shown, e.2.type = .curve := by
  rw [floatTexture?, texture?_isSome_iff]
  constructor
  · rintro ⟨_, mem⟩
    obtain ⟨_, mem, -⟩ := List.mem_map.1 mem
    exact ⟨_, mem_curves.1 mem, rfl⟩
  · rintro ⟨⟨id, _ | _⟩, mem, same⟩
    · cases same
    · exact ⟨_, List.mem_map_of_mem (mem_curves.2 mem)⟩

end Bake

namespace Plan.Resolved

variable {params : ParamTable} {plan : Plan} (r : plan.Resolved params) {p : Param}

include r

theorem mem_signals : p ∈ plan.signals ↔
    (p ∈ plan.references .init ∨ p ∈ plan.references .update) ∧ p.type.isSignal := by
  rw [← r.params_paramsOf, ← r.params_paramsOf]
  simp only [signals, paramsOf, ParamSet.signals, ParamSet.params_filter, List.mem_append,
    List.mem_filter, or_and_right]

theorem param?_of_mem_signals (hp : p ∈ plan.signals) : params.param? p.id = some p :=
  (r.mem_signals.1 hp).1.elim r.param?_of_mem_references r.param?_of_mem_references

theorem bake_eq_ok : ∃ baked, plan.bake params .empty = (baked, .ok ()) ∧
    ∀ id s, (id, s) ∈ baked.shown ↔
      id ∈ plan.signals.map (·.id) ∧ params.signal? id = some s := by
  have valued : ∀ p ∈ plan.signals, ∃ s, params.signal? p.id = some s := fun p hp =>
    ParamTable.exists_signal? (r.param?_of_mem_signals hp) (r.mem_signals.1 hp).2
  obtain ⟨b, added, stored⟩ := Bake.add_eq_ok (b := .empty) valued
  refine ⟨b.generate, ?_, fun id s => ?_⟩
  · unfold bake
    rw [Bake.clear, added]
  · rw [Bake.generate, stored]
    simp [Bake.empty]

theorem exists_shown {baked : Bake} (shown : ∀ id s, (id, s) ∈ baked.shown ↔
      id ∈ plan.signals.map (·.id) ∧ params.signal? id = some s) (hp : p ∈ plan.signals) :
    ∃ s, (p.id, s) ∈ baked.shown ∧ s.type = p.type := by
  have known := r.param?_of_mem_signals hp
  obtain ⟨s, found⟩ := ParamTable.exists_signal? known (r.mem_signals.1 hp).2
  exact ⟨s, (shown _ _).2 ⟨List.mem_map_of_mem hp, found⟩, ParamTable.type_of_signal? known found⟩

end Plan.Resolved

end ParticleShaders
