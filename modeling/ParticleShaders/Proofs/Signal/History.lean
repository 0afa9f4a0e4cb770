import ParticleShaders.Proofs.Signal.Rows

namespace ParticleShaders

section Firsts

variable {α : Type} {entries others : List (String × α)} {known known' : List String}

def firsts (known : List String) : List (String × α) → List (String × α)
  | [] => []
  | e :: rest => if e.1 ∈ known then firsts known rest else e :: firsts (e.1 :: known) rest

theorem firsts_congr (same : ∀ id, id ∈ known ↔ id ∈ known') :
    firsts known entries = firsts known' entries := by
  induction entries generalizing known known' with
  | nil => rfl
  | cons e rest ih =>
    have later : ∀ id, id ∈ e.1 :: known ↔ id ∈ e.1 :: known' := fun id => by
      rw [List.mem_cons, List.mem_cons, same]
    rw [firsts, firsts, if_congr (same e.1) rfl rfl, ih same, ih later]

end Firsts

namespace Bake

inductive Call
  | clear
  | add (params : ParamTable) (signals : ParamSet)
  | generate

def Call.apply (b : Bake) : Call → Bake
  | .clear => b.clear
  | .add params signals => (b.add params signals.params).1
  | .generate => b.generate

def after : List Call → Bake
  | [] => .empty
  | call :: earlier => call.apply (after earlier)

def passes (params : ParamTable) (known : List String) (p : Param) : Bool :=
  known.contains p.id || (params.signal? p.id).isSome

def offered (params : ParamTable) (known : List String) (ps : List Param) :
    List (String × Signal) :=
  (ps.takeWhile (passes params known)).filterMap fun p => (params.signal? p.id).map (p.id, ·)

section Add

variable {params : ParamTable} {ps rest : List Param} {p : Param} {known known' : List String}
  {b : Bake} {s : Signal}

theorem offered_congr (same : ∀ p ∈ ps, passes params known p = passes params known' p) :
    offered params known ps = offered params known' ps := by
  unfold offered
  congr 1
  induction ps with
  | nil => rfl
  | cons p rest ih =>
    rw [List.takeWhile_cons, List.takeWhile_cons, same p List.mem_cons_self,
      ih fun q hq => same q (List.mem_cons_of_mem _ hq)]

theorem offered_cons_of_value (found : params.signal? p.id = some s) :
    offered params known (p :: rest) = (p.id, s) :: offered params known rest := by
  unfold offered
  rw [List.takeWhile_cons_of_pos (by simp [passes, found]), List.filterMap_cons, found]
  rfl

theorem offered_cons_of_known (h : p.id ∈ known) (missing : params.signal? p.id = none) :
    offered params known (p :: rest) = offered params known rest := by
  unfold offered
  rw [List.takeWhile_cons_of_pos (by simp [passes, h]), List.filterMap_cons, missing]
  rfl

theorem add_cons_of_known (h : p.id ∈ b.stored.map (·.1)) :
    b.add params (p :: rest) = b.add params rest := by
  rw [add, if_pos (List.contains_iff_mem.2 h)]

theorem add_cons_of_value (fresh : p.id ∉ b.stored.map (·.1))
    (found : params.signal? p.id = some s) :
    b.add params (p :: rest) = (b.store p.id s).add params rest := by
  rw [add, if_neg fun h => fresh (List.contains_iff_mem.1 h),
    show (params.find? p.id >>= Signal.ofValue?) = some s from found]

theorem add_cons_of_missing (fresh : p.id ∉ b.stored.map (·.1))
    (missing : params.signal? p.id = none) :
    b.add params (p :: rest) = (b, .error (.missingValue p.id)) := by
  rw [add, if_neg fun h => fresh (List.contains_iff_mem.1 h),
    show (params.find? p.id >>= Signal.ofValue?) = none from missing]

theorem add_eq (b : Bake) (params : ParamTable) (ps : List Param) :
    let known := b.stored.map (·.1)
    (b.add params ps).1.stored = b.stored ++ firsts known (offered params known ps) ∧
      (b.add params ps).1.shown = b.shown ∧
      (b.add params ps).2 = match ps.find? (!passes params known ·) with
        | none => .ok ()
        | some p => .error (.missingValue p.id) := by
  intro known
  induction ps generalizing b with
  | nil => simp [add, offered, firsts]
  | cons p rest ih =>
    by_cases old : p.id ∈ known
    · have passed : passes params known p := by simp [passes, old]
      obtain ⟨grown, shown, result⟩ := ih b
      rw [add_cons_of_known old, grown, List.find?_cons_of_neg (by simp [passed])]
      refine ⟨?_, shown, result⟩
      cases found : params.signal? p.id with
      | none => rw [offered_cons_of_known old found]
      | some s => rw [offered_cons_of_value found, firsts, if_pos old]
    · cases found : params.signal? p.id with
      | none =>
        have blocked : passes params known p = false := by simp [passes, old, found]
        rw [add_cons_of_missing old found, List.find?_cons_of_pos (by simp [blocked])]
        refine ⟨?_, rfl, rfl⟩
        simp [offered, blocked, firsts]
      | some s =>
        have passed : passes params known p := by simp [passes, found]
        have stored : (b.store p.id s).stored = b.stored ++ [(p.id, s)] := stored_store old
        have known' : (b.store p.id s).stored.map (·.1) = known ++ [p.id] := by
          rw [stored, List.map_append]
          rfl
        -- What has just been stored has a value, so it would be passed in any case.
        have alike : passes params (known ++ [p.id]) = passes params known := by
          funext q
          by_cases same : q.id = p.id
          · simp [passes, same, found]
          · simp [passes, same]
        obtain ⟨grown, shown, result⟩ := ih (b.store p.id s)
        rw [known', offered_congr fun q _ => congrFun alike q, stored, List.append_assoc] at grown
        rw [known', alike] at result
        rw [add_cons_of_value old found, grown, List.find?_cons_of_neg (by simp [passed]),
          offered_cons_of_value found, firsts, if_neg old]
        refine ⟨?_, shown.trans ?_, result⟩
        · have moved : ∀ id, id ∈ known ++ [p.id] ↔ id ∈ p.id :: known := fun id => by grind
          rw [List.singleton_append, firsts_congr moved]
        · rw [store, dif_neg old]

end Add

end Bake

end ParticleShaders
