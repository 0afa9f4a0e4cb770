import ParticleShaders.Proofs.Host.Report
import ParticleShaders.Proofs.Param.Loading
import ParticleShaders.Proofs.Param.Types
import ParticleShaders.Proofs.Signal.History

namespace ParticleShaders

/-- The same keys in another order, no two of them at one time. Times are compared by their bits, so
`-0.0` and `0.0` are two times. -/
structure Key.Reordered {α : Type} (keys keys' : List (Key α)) : Prop where
  perm : keys.Perm keys'
  apart : (keys.map (·.time.toBits)).Nodup

theorem Number.orderKey_injective : Function.Injective orderKey := by
  intro x y same
  apply singleBits_injective
  unfold orderKey at same
  generalize singleBits x = a at same ⊢
  generalize singleBits y = b at same ⊢
  obtain ⟨_ | _, m⟩ := a <;> obtain ⟨_ | _, n⟩ := b <;> grind

namespace Signal

variable {α : Type} {keys keys' : List (Key α)}

theorem sortKeys_perm (keys : List (Key α)) : (sortKeys keys).Perm keys := List.mergeSort_perm ..

theorem pairwise_sortKeys (keys : List (Key α)) : (sortKeys keys).Pairwise fun a b =>
    Number.orderKey a.time ≤ Number.orderKey b.time := by
  refine (List.pairwise_mergeSort (fun a b c first second => ?_) (fun a b => ?_) keys).imp
    fun before => of_decide_eq_true before
  · rw [decide_eq_true_eq] at first second ⊢
    exact Int.le_trans first second
  · rw [Bool.or_eq_true, decide_eq_true_eq, decide_eq_true_eq]
    exact Int.le_total ..

/-- Keys at distinct times can be sorted in one way only. -/
theorem sortKeys_reordered (h : Key.Reordered keys keys') : sortKeys keys = sortKeys keys' := by
  refine List.Perm.eq_of_pairwise (fun a b ha hb first second => ?_) (pairwise_sortKeys keys)
    (pairwise_sortKeys keys')
    (((sortKeys_perm keys).trans h.perm).trans (sortKeys_perm keys').symm)
  have time : a.time = b.time := Number.orderKey_injective (Int.le_antisymm first second)
  exact List.inj_on_of_nodup_map h.apart ((sortKeys_perm keys).subset ha)
    (h.perm.symm.subset ((sortKeys_perm keys').subset hb)) (congrArg Float32.toBits time)

end Signal

inductive ParamValue.Reordered : ParamValue → ParamValue → Prop
  | same (v : ParamValue) : Reordered v v
  | gradient {keys keys' : List (Key Color)} (h : Key.Reordered keys keys') :
    Reordered (.colorGradient keys) (.colorGradient keys')
  | curve {keys keys' : List (Key Float32)} (h : Key.Reordered keys keys') :
    Reordered (.curve keys) (.curve keys')

def ParamTable.Reordered (params params' : ParamTable) : Prop :=
  ∀ id, Option.Rel ParamValue.Reordered (params.find? id) (params'.find? id)

namespace ParamValue.Reordered

variable {v v' : ParamValue}

theorem ofValue?_eq (h : v.Reordered v') : Signal.ofValue? v = Signal.ofValue? v' := by
  cases h with
  | same => rfl
  | gradient h => rw [Signal.ofValue?, Signal.sortKeys_reordered h, Signal.ofValue?]
  | curve h => rw [Signal.ofValue?, Signal.sortKeys_reordered h, Signal.ofValue?]

theorem type_eq (h : v.Reordered v') : v.type = v'.type := by
  cases h <;> rfl

end ParamValue.Reordered

namespace ParamTable.Reordered

variable {params params' : ParamTable} (h : params.Reordered params')

include h

@[elab_as_elim] theorem find?_rec {motive : Option ParamValue → Option ParamValue → Prop}
    (id : String) (absent : motive none none)
    (found : ∀ v v', v.Reordered v' → motive (some v) (some v')) :
    motive (params.find? id) (params'.find? id) := by
  have related := h id
  generalize params.find? id = x at related ⊢
  generalize params'.find? id = x' at related ⊢
  cases related with
  | none => exact absent
  | some related => exact found _ _ related

theorem signal?_eq (id : String) : params.signal? id = params'.signal? id := by
  unfold signal?
  exact h.find?_rec id rfl fun _ _ related => related.ofValue?_eq

theorem typedAlikeOn (ids : List String) : params.TypedAlikeOn params' ids :=
  fun id _ => h.find?_rec id rfl fun _ _ related => congrArg some related.type_eq

theorem contains_eq (id : String) : params.contains id = params'.contains id := by
  unfold Dict.contains
  exact h.find?_rec id rfl fun _ _ _ => rfl

theorem add_eq (b : Bake) (ps : List Param) : b.add params ps = b.add params' ps := by
  induction ps generalizing b with
  | nil => rfl
  | cons p rest ih =>
    have signal : (params.find? p.id >>= Signal.ofValue?)
        = (params'.find? p.id >>= Signal.ofValue?) :=
      h.signal?_eq p.id
    simp only [Bake.add, ih, signal]

theorem bake_eq (plan : Plan) (before : Bake) :
    plan.bake params before = plan.bake params' before := by
  rw [Plan.bake, Plan.bake, h.add_eq]

theorem ofCompute_eq (bake : Bake) (id name : String) :
    Push.ofCompute params bake id name = Push.ofCompute params' bake id name := by
  unfold Push.ofCompute
  refine h.find?_rec id rfl fun v v' related => ?_
  cases related <;> rfl

theorem ofMaterial_eq (id name : String) :
    Push.ofMaterial params id name = Push.ofMaterial params' id name := by
  unfold Push.ofMaterial
  refine h.find?_rec id rfl fun v v' related => ?_
  cases related <;> rfl

theorem pushes_eq (l : HostLayout) (bake : Bake) :
    l.pushes params bake = l.pushes params' bake := by
  simp only [HostLayout.pushes, h.ofCompute_eq, h.ofMaterial_eq]

theorem compile_eq (system : ParticleSystem) (library : Library) (options : Options)
    (before : Bake) : system.compile library params options before
      = system.compile library params' options before := by
  have planned : Plan.ofSystem system library params' = Plan.ofSystem system library params :=
    Plan.ofSystem_congr (h.typedAlikeOn _)
  simp only [ParticleSystem.compile, ParticleSystem.finish, planned, h.bake_eq]

theorem insert {v v' : ParamValue} (related : v.Reordered v') (id : String) :
    ParamTable.Reordered (params.insert id v) (params'.insert id v') := by
  intro other
  rw [Dict.find?_insert, Dict.find?_insert]
  split
  · exact .some related
  · exact h other

end ParamTable.Reordered

namespace Bake

inductive Call.Reordered : Call → Call → Prop
  | clear : Reordered .clear .clear
  | add {params params' : ParamTable} (h : params.Reordered params') (signals : ParamSet) :
    Reordered (.add params signals) (.add params' signals)
  | generate : Reordered .generate .generate

theorem Call.Reordered.apply_eq {call call' : Call} (h : call.Reordered call') (b : Bake) :
    call.apply b = call'.apply b := by
  cases h with
  | clear | generate => rfl
  | add h signals => exact congrArg Prod.fst (h.add_eq b signals.params)

theorem after_reordered {calls calls' : List Call} (h : List.Forall₂ Call.Reordered calls calls') :
    after calls = after calls' := by
  induction h with
  | nil => rfl
  | cons latest _ ih => rw [after, after, ih, latest.apply_eq]

end Bake

section Loading

inductive Alike {ε α β : Type} (r : α → β → Prop) : Except ε α → Except ε β → Prop
  | error (e : ε) : Alike r (.error e) (.error e)
  | ok {x : α} {y : β} (h : r x y) : Alike r (.ok x) (.ok y)

variable {ε α β σ τ : Type} {r : σ → τ → Prop} {R : α → β → Prop}

theorem Alike.bind {x : Except ε α} {y : Except ε β} (h : Alike R x y) {f : α → Except ε σ}
    {g : β → Except ε τ} (later : ∀ a b, R a b → Alike r (f a) (g b)) :
    Alike r (x >>= f) (y >>= g) := by
  cases h with
  | error e => exact .error e
  | ok h => exact later _ _ h

theorem Alike.mono {r' : σ → τ → Prop} {x : Except ε σ} {y : Except ε τ} (h : Alike r x y)
    (weaken : ∀ s t, r s t → r' s t) : Alike r' x y := by
  cases h with
  | error e => exact .error e
  | ok h => exact .ok (weaken _ _ h)

theorem Alike.of_ok {x : Except ε σ} {y : Except ε τ} {s : σ} (h : Alike r x y) (hx : x = .ok s) :
    ∃ t, y = .ok t ∧ r s t := by
  cases h with
  | error e => cases hx
  | ok h =>
    cases hx
    exact ⟨_, rfl, h⟩

theorem Alike.foldlM {f : σ → α → Except ε σ} {g : τ → β → Except ε τ} {xs : List α} {ys : List β}
    (step : ∀ s t x y, r s t → R x y → Alike r (f s x) (g t y)) (h : List.Forall₂ R xs ys) {s : σ}
    {t : τ} (start : r s t) : Alike r (xs.foldlM f s) (ys.foldlM g t) := by
  induction h generalizing s t with
  | nil => exact .ok start
  | cons first _ ih =>
    rw [List.foldlM_cons, List.foldlM_cons]
    exact (step _ _ _ _ start first).bind fun _ _ => ih

theorem filterMap_of_mapM_eq_some {f : α → Option β} {xs : List α} {ys : List β}
    (h : xs.mapM f = some ys) : xs.filterMap f = ys := by
  have each := forall₂_of_mapM_eq_some h
  clear h
  induction each with
  | nil => rfl
  | cons first _ ih => rw [List.filterMap_cons_some first, ih]

theorem mapM_cases_of_perm {xs ys : List α} (h : xs.Perm ys) (f : α → Option β) :
    (xs.mapM f = none ∧ ys.mapM f = none) ∨
      ∃ us vs, xs.mapM f = some us ∧ ys.mapM f = some vs ∧ us.Perm vs := by
  have same : (xs.mapM f).isSome ↔ (ys.mapM f).isSome := by
    rw [isSome_mapM, isSome_mapM]
    exact forall_congr' fun x => imp_congr_left h.mem_iff
  cases read : xs.mapM f with
  | none =>
    rw [read] at same
    exact .inl ⟨rfl, Option.not_isSome_iff_eq_none.1 fun some => nomatch same.2 some⟩
  | some us =>
    obtain ⟨vs, read'⟩ := Option.isSome_iff_exists.1 (same.1 (Option.isSome_of_eq_some read))
    refine .inr ⟨us, vs, rfl, read', ?_⟩
    rw [← filterMap_of_mapM_eq_some read, ← filterMap_of_mapM_eq_some read']
    exact h.filterMap f

def ParamValue.times : ParamValue → List UInt32
  | .colorGradient keys => keys.map (·.time.toBits)
  | .curve keys => keys.map (·.time.toBits)
  | _ => []

inductive ParamDecl.Reordered : ParamDecl → ParamDecl → Prop
  | same (d : ParamDecl) : Reordered d d
  | keys {id : String} {type : ValueType} {v v' : Json.Value}
    {elements elements' : List (Json Number)} (signal : type.isSignal)
    (left : v.json = .array elements) (right : v'.json = .array elements')
    (perm : elements.Perm elements')
    (apart : ∀ x, ParamValue.ofJson type v = .ok x → x.times.Nodup) :
    Reordered ⟨id, type, v⟩ ⟨id, type, v'⟩

variable {d d' : ParamDecl} {params params' : ParamTable} {decls decls' : List ParamDecl}

theorem ParamDecl.Reordered.id_eq (h : d.Reordered d') : d.id = d'.id := by
  cases h <;> rfl

theorem ParamDecl.Reordered.ofJson_alike (h : d.Reordered d') : Alike ParamValue.Reordered
    (ParamValue.ofJson d.type d.value) (ParamValue.ofJson d'.type d'.value) := by
  cases h with
  | same =>
    cases ParamValue.ofJson d.type d.value with
    | error e => exact .error e
    | ok x => exact .ok (.same x)
  | @keys _ type _ _ _ _ signal left right perm apart =>
    cases type with
    | colorGradient =>
      simp only [ParamValue.ofJson, left, right, Json.list?] at apart ⊢
      obtain ⟨bad, bad'⟩ | ⟨us, vs, read, read', perm⟩ :=
        mapM_cases_of_perm perm ParamValue.gradientKey?
      · rw [bad, bad']
        exact .error _
      · rw [read] at apart
        rw [read, read']
        exact .ok (.gradient ⟨perm, apart _ rfl⟩)
    | curve =>
      simp only [ParamValue.ofJson, left, right, Json.list?] at apart ⊢
      obtain ⟨bad, bad'⟩ | ⟨us, vs, read, read', perm⟩ :=
        mapM_cases_of_perm perm ParamValue.curveKey?
      · rw [bad, bad']
        exact .error _
      · rw [read] at apart
        rw [read, read']
        exact .ok (.curve ⟨perm, apart _ rfl⟩)
    | _ => cases signal

theorem ParamTable.Reordered.declare_alike (h : params.Reordered params') (hd : d.Reordered d') :
    Alike ParamTable.Reordered (params.declare d) (params'.declare d') := by
  have read := hd.ofJson_alike
  unfold ParamTable.declare
  rw [← hd.id_eq, ← h.contains_eq]
  generalize ParamValue.ofJson d.type d.value = value at read ⊢
  generalize ParamValue.ofJson d'.type d'.value = value' at read ⊢
  cases read with
  | error e => exact .error _
  | ok related =>
    dsimp only
    split
    · exact .error _
    · exact .ok (h.insert related d.id)

theorem ParamTable.ofDecls_alike (h : List.Forall₂ ParamDecl.Reordered decls decls') :
    Alike ParamTable.Reordered (ofDecls decls) (ofDecls decls') :=
  Alike.foldlM (fun _ _ _ _ h hd => h.declare_alike hd) h fun _ => .none

end Loading

/-- The order of keys makes no difference. Calls that differ in it leave the same bake, and with it
the same textures and uniforms. Systems that differ in it are refused alike, or they have the same
outcome, and the same is pushed for them. -/
theorem keys_in_any_order :
    (∀ calls calls' : List Bake.Call, List.Forall₂ Bake.Call.Reordered calls calls' →
      Bake.after calls = Bake.after calls' ∧
      ∀ (params params' : ParamTable) (signals : ParamSet), params.Reordered params' →
        (Bake.after calls).add params signals.params
          = (Bake.after calls').add params' signals.params) ∧
    ∀ (system : ParticleSystem) (decls : List ParamDecl),
      List.Forall₂ ParamDecl.Reordered system.params decls →
      ∀ (library : Library) (options : Options) (before : Bake),
        Alike (fun params params' =>
            let outcome := system.compile library params options before
            outcome = ({ system with params := decls }).compile library params' options before ∧
            ∀ layout : HostLayout,
              layout.pushes params outcome.bake = layout.pushes params' outcome.bake)
          (ParamTable.ofDecls system.params) (ParamTable.ofDecls decls) := by
  refine ⟨fun calls calls' h => ⟨Bake.after_reordered h, fun params params' signals related => ?_⟩,
    fun system decls h library options before => ?_⟩
  · rw [Bake.after_reordered h, related.add_eq]
  · refine (ParamTable.ofDecls_alike h).mono fun params params' related => ?_
    exact ⟨related.compile_eq system library options before, fun layout => related.pushes_eq layout _⟩

def keyAt (time : Number) (value : Json Number) : Json Number := .array [.number time, value]

def grey (level : Int) : Json Number := .array (List.replicate 4 (.number (.int level)))

def lampGlow : List (Json Number) :=
  [keyAt (.double (.ofBits 0x8000000000000000)) (grey 0), keyAt (.int 0) (grey 1)]

def lampSwell : List (Json Number) :=
  [keyAt (.double (.ofBits 0xc8078287f49c4a1d)) (.number (.int 1)),
   keyAt (.int 3) (.number (.int 2)),
   keyAt (.double (.ofBits 0x48078287f49c4a1d)) (.number (.int 3))]

theorem canonical_lampGlow : Json.CanonicalElements lampGlow := by
  simp [lampGlow, keyAt, grey, Json.Canonical, Json.CanonicalElements]

theorem canonical_lampSwell : Json.CanonicalElements lampSwell := by
  simp [lampSwell, keyAt, Json.Canonical, Json.CanonicalElements]

def lampParams (glow swell : Json.Value) : List ParamDecl :=
  [⟨"drift", .float3, .null⟩, ⟨"span", .float, .null⟩, ⟨"glow", .colorGradient, glow⟩,
   ⟨"swell", .curve, swell⟩, ⟨"grain", .texture2D, .null⟩, ⟨"mask", .texture2D, .null⟩,
   ⟨"paper", .texture2D, .null⟩]

def lamps : ParticleSystem :=
  { lanterns with
    params := lampParams ⟨.array lampGlow, canonical_lampGlow⟩
      ⟨.array lampSwell, canonical_lampSwell⟩ }

def turned {elements : List (Json Number)} (canonical : Json.CanonicalElements elements) :
    Json.Value :=
  ⟨.array elements.reverse, Json.canonicalElements_iff.2 fun j mem =>
    Json.canonicalElements_iff.1 canonical j (List.mem_reverse.1 mem)⟩

def turnedLampParams : List ParamDecl :=
  lampParams (turned canonical_lampGlow) (turned canonical_lampSwell)

theorem lampParams_reordered : List.Forall₂ ParamDecl.Reordered lamps.params turnedLampParams := by
  have glow : (ParamValue.ofJson .colorGradient ⟨.array lampGlow, canonical_lampGlow⟩).toOption.map
      (·.times) = some [0x80000000, 0] := by
    decide +kernel
  have swell : (ParamValue.ofJson .curve ⟨.array lampSwell, canonical_lampSwell⟩).toOption.map
      (·.times) = some [0xff800000, 0x40400000, 0x7f800000] := by
    decide +kernel
  obtain ⟨glow, reads, times⟩ := exists_of_toOption glow
  obtain ⟨swell, reads', times'⟩ := exists_of_toOption swell
  refine .cons (.same _) (.cons (.same _) (.cons ?_ (.cons ?_ (.cons (.same _)
    (.cons (.same _) (.cons (.same _) .nil))))))
  · refine .keys rfl rfl rfl (List.reverse_perm _).symm fun x read => ?_
    cases reads.symm.trans read
    rw [times]
    decide
  · refine .keys rfl rfl rfl (List.reverse_perm _).symm fun x read => ?_
    cases reads'.symm.trans read
    rw [times']
    decide

theorem lamps_in_either_order : ∃ params params',
    ParamTable.ofDecls lamps.params = .ok params ∧
    ParamTable.ofDecls turnedLampParams = .ok params' ∧
    Bake.after [.generate, .add params (.ofList [⟨"glow", .colorGradient⟩])]
      = Bake.after [.generate, .add params' (.ofList [⟨"glow", .colorGradient⟩])] ∧
    ∃ c baked, (lamps.compile ∅ params {} .empty).result = .ok c ∧
      (({ lamps with params := turnedLampParams }).compile ∅ params' {} .empty).result = .ok c ∧
      (lamps.compile ∅ params {} .empty).bake = baked ∧
      c.layout.pushes params baked = c.layout.pushes params' baked := by
  have compiled : (ParamTable.ofDecls lamps.params).toOption.map
      (fun params => (lamps.compile ∅ params {} .empty).result.toOption.map (·.systemId))
        = some (some "lanterns") := by
    decide +kernel
  obtain ⟨params, loaded, compiled⟩ := exists_of_toOption compiled
  obtain ⟨c, result, -⟩ := exists_of_toOption compiled
  obtain ⟨params', loaded', related⟩ := (ParamTable.ofDecls_alike lampParams_reordered).of_ok loaded
  obtain ⟨other, again, outcome, pushes⟩ :=
    (keys_in_any_order.2 lamps turnedLampParams lampParams_reordered ∅ {} .empty).of_ok loaded
  obtain rfl : params' = other := Except.ok.inj (loaded'.symm.trans again)
  have bakes := (keys_in_any_order.1 _ _ (.cons .generate
    (.cons (.add related (.ofList [⟨"glow", .colorGradient⟩])) .nil))).1
  exact ⟨params, params', loaded, loaded', bakes, c, _, result, outcome ▸ result, rfl,
    pushes c.layout⟩

end ParticleShaders
