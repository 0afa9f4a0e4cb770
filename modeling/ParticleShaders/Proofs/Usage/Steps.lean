import ParticleShaders.Proofs.Compilation
import ParticleShaders.Proofs.Usage.Grants
/-! What generators and rules add to a table. Each of them adds uses, so all that has to be known of
a step is which ones, and that what it requires was there. -/

namespace ParticleShaders

namespace Need

variable {t t' : UsageTable} {stage : Stage} {a : Attribute}

theorem missing?_eq_none_iff {n : Need} :
    n.missing? t = none ↔ ∀ a ∈ n.requires, a ∈ t.attributes := by
  simp [missing?, UsageTable.contains]

theorem requires_of_missing?_eq_none {n : Need} (h : n.missing? t = none) (mem : a ∈ n.requires) :
    a ∈ t.attributes :=
  missing?_eq_none_iff.1 h a mem

theorem mem_attributes_addTo {n : Need} :
    a ∈ (n.addTo t).attributes ↔ a ∈ (t.addAll n.uses).attributes := by
  unfold addTo
  rw [UsageTable.mem_attributes_addAll, or_iff_left_of_imp]
  intro mem
  obtain ⟨use, hu, rfl⟩ := List.mem_map.1 mem
  simpa [UsageTable.contains] using (List.mem_filter.1 hu).2

theorem grants_addTo {n : Need} {x : Access} : UsageTable.Grants (n.addTo t).entries x a ↔
    UsageTable.Grants (t.addAll n.uses).entries x a ∨
      (a ∈ (t.addAll n.uses).attributes ∧ UsageTable.Grants n.usesIfPresent x a) := by
  unfold addTo
  rw [UsageTable.grants_addAll]
  apply or_congr_right
  simp only [UsageTable.Grants, List.mem_filter, UsageTable.contains, List.contains_iff_mem]
  constructor
  · rintro ⟨u, ⟨mem, present⟩, granted⟩
    exact ⟨present, u, mem, granted⟩
  · rintro ⟨present, u, mem, granted⟩
    exact ⟨u, ⟨mem, present⟩, granted⟩

theorem addTo_eq_addAll {n : Need} (h : n.usesIfPresent = []) : n.addTo t = t.addAll n.uses := by
  unfold addTo
  rw [h]
  rfl

theorem meetAll_cons_eq_ok {n : Need} {rest : List Need} {taken : List Capability}
    (h : meetAll stage (n :: rest) t = (t', .ok taken)) : n.missing? t = none ∧
      ∃ later, meetAll stage rest (n.addTo t) = (t', .ok later) ∧
        taken = n.capabilities ++ later := by
  unfold meetAll at h
  split at h
  · cases h
  · next met =>
    obtain ⟨same, mapped⟩ := Prod.mk.inj h
    obtain ⟨later, found, rfl⟩ := map_eq_ok_iff.1 mapped
    exact ⟨met, later, Prod.ext same found, rfl⟩

theorem meetAll_eq_ok {needs : List Need} {taken : List Capability}
    (certain : ∀ n ∈ needs, n.usesIfPresent = [])
    (h : meetAll stage needs t = (t', .ok taken)) :
    t' = t.addAll (needs.flatMap (·.uses)) ∧ taken = needs.flatMap (·.capabilities) := by
  induction needs generalizing t taken with
  | nil =>
    cases h
    exact ⟨rfl, rfl⟩
  | cons n rest ih =>
    obtain ⟨-, later, further, rfl⟩ := meetAll_cons_eq_ok h
    obtain ⟨rfl, rfl⟩ := ih (fun m hm => certain m (List.mem_cons_of_mem _ hm)) further
    rw [addTo_eq_addAll (certain n List.mem_cons_self), List.flatMap_cons,
      UsageTable.addAll_append]
    exact ⟨rfl, rfl⟩

def IsFrugal (n : Need) : Prop := n.usesIfPresent = [] ∧ ∀ use ∈ n.uses, use.1 ∈ n.requires

theorem IsFrugal.mem_attributes_addTo {n : Need} (frugal : n.IsFrugal) (met : n.missing? t = none) :
    a ∈ (n.addTo t).attributes ↔ a ∈ t.attributes := by
  rw [addTo_eq_addAll frugal.1, UsageTable.mem_attributes_addAll, or_iff_left_of_imp]
  intro mem
  obtain ⟨use, hu, rfl⟩ := List.mem_map.1 mem
  exact requires_of_missing?_eq_none met (frugal.2 use hu)

theorem mem_attributes_meetAll {needs : List Need} {taken : List Capability}
    (frugal : ∀ n ∈ needs, n.IsFrugal) (h : meetAll stage needs t = (t', .ok taken)) :
    a ∈ t'.attributes ↔ a ∈ t.attributes := by
  induction needs generalizing t taken with
  | nil =>
    cases h
    rfl
  | cons n rest ih =>
    obtain ⟨met, later, further, -⟩ := meetAll_cons_eq_ok h
    rw [ih (fun m hm => frugal m (List.mem_cons_of_mem _ hm)) further,
      (frugal n List.mem_cons_self).mem_attributes_addTo met]

theorem requires_of_meetAll_eq_ok {needs : List Need} {taken : List Capability}
    (frugal : ∀ n ∈ needs, n.IsFrugal) (h : meetAll stage needs t = (t', .ok taken)) :
    ∀ n ∈ needs, ∀ a ∈ n.requires, a ∈ t.attributes := by
  induction needs generalizing t taken with
  | nil => simp
  | cons n rest ih =>
    obtain ⟨met, later, further, -⟩ := meetAll_cons_eq_ok h
    intro m hm a ha
    rcases List.mem_cons.1 hm with rfl | hm
    · exact requires_of_missing?_eq_none met ha
    · rw [← (frugal n List.mem_cons_self).mem_attributes_addTo met]
      exact ih (fun m hm => frugal m (List.mem_cons_of_mem _ hm)) further m hm a ha

/-- Needs only add to a table, so they are met if what they require is there to begin with. -/
theorem exists_meetAll_eq_ok (stage : Stage) {needs : List Need}
    (present : ∀ n ∈ needs, ∀ a ∈ n.requires, a ∈ t.attributes) :
    ∃ t' taken, meetAll stage needs t = (t', .ok taken) := by
  induction needs generalizing t with
  | nil => exact ⟨t, [], rfl⟩
  | cons n rest ih =>
    have met : n.missing? t = none := missing?_eq_none_iff.2 (present n List.mem_cons_self)
    have kept (a : Attribute) (ha : a ∈ t.attributes) : a ∈ (n.addTo t).attributes :=
      mem_attributes_addTo.2 (UsageTable.mem_attributes_addAll.2 (.inl ha))
    obtain ⟨t', later, done⟩ := ih fun m hm a ha =>
      kept a (present m (List.mem_cons_of_mem _ hm) a ha)
    refine ⟨t', n.capabilities ++ later, ?_⟩
    simp only [meetAll, met, done, Except.map]

theorem meetAll_eq_error {needs : List Need} {e : Rejection}
    (h : (meetAll stage needs t).2 = .error e) : ∃ reason, e = .unmetNeed stage reason := by
  induction needs generalizing t with
  | nil => cases h
  | cons n rest ih =>
    unfold meetAll at h
    split at h
    · cases h
      exact ⟨_, rfl⟩
    · exact ih (map_eq_error_iff.1 h)

end Need

theorem InitGenerator.usesIfPresent_needs (g : InitGenerator) :
    ∀ n ∈ g.needs, n.usesIfPresent = [] := by
  unfold needs
  split <;> simp

theorem InitGenerator.requires_needs (g : InitGenerator) : ∀ n ∈ g.needs, n.requires = [] := by
  unfold needs
  split <;> simp

theorem UpdateGenerator.needs_frugal (g : UpdateGenerator) : ∀ n ∈ g.needs, n.IsFrugal := by
  obtain ⟨integrate, age, reap⟩ := g
  cases integrate <;> cases age <;> cases reap <;>
    simp [needs, Need.IsFrugal, or_imp, forall_and]

theorem InitGenerator.capabilities_needs (g : InitGenerator) :
    g.needs.flatMap (·.capabilities) = [] := by
  unfold needs
  split <;> rfl

theorem UpdateGenerator.capabilities_needs (g : UpdateGenerator) :
    g.needs.flatMap (·.capabilities) = if g.reap then [.kill] else [] := by
  obtain ⟨integrate, age, reap⟩ := g
  cases integrate <;> cases age <;> cases reap <;> rfl

theorem OutputGenerator.meetAll_needs_eq_ok {g : OutputGenerator} {t t' : UsageTable}
    {taken : List Capability} (h : Need.meetAll .output g.needs t = (t', .ok taken)) :
    Attribute.position ∈ t.attributes ∧ (∀ a, a ∈ t'.attributes ↔ a ∈ t.attributes) ∧
      ∀ x a, UsageTable.Grants t'.entries x a ↔ UsageTable.Grants t.entries x a ∨
        (a ∈ t.attributes ∧ a ∈ g.reads ∧ (Usage.declared .output false).grants x) := by
  obtain ⟨met, _, done, -⟩ := Need.meetAll_cons_eq_ok h
  cases done
  refine ⟨Need.requires_of_missing?_eq_none met List.mem_cons_self, fun a => ?_, fun x a => ?_⟩
  · rw [Need.mem_attributes_addTo]
    rfl
  · rw [Need.grants_addTo, UsageTable.grants_map_pair]
    rfl

namespace UsageTable

variable {x : Access} {a : Attribute} {t : UsageTable}

def ruleUses (phaseShift random : Bool) : List (Attribute × Usage) :=
  (if phaseShift then phaseShiftUses else [])
    ++ (if random then [(.seed, .init ∪ .update)] else [])

theorem usedIn_init_iff {u : Usage} (mem : (a, u) ∈ t.entries) :
    u.usedIn .init ↔ Grants t.entries .initRead a ∨ Grants t.entries .initWrite a := by
  rw [grants_iff_of_mem mem, grants_iff_of_mem mem]
  simp [Usage.usedIn, Usage.grants]

theorem mem_uninitialized : a ∈ t.uninitialized ↔
    a ∈ t.attributes ∧ ¬ Grants t.entries .initRead a ∧ ¬ Grants t.entries .initWrite a := by
  simp only [uninitialized, attributes, List.mem_map, List.mem_filter, Bool.not_eq_true']
  constructor
  · rintro ⟨⟨a, u⟩, ⟨mem, unused⟩, rfl⟩
    refine ⟨⟨_, mem, rfl⟩, not_or.1 fun used => ?_⟩
    rw [← usedIn_init_iff mem, unused] at used
    cases used
  · rintro ⟨⟨⟨a, u⟩, mem, rfl⟩, unused⟩
    refine ⟨_, ⟨mem, ?_⟩, rfl⟩
    rw [← Bool.not_eq_true, usedIn_init_iff mem, not_or]
    exact unused

def withRules (t : UsageTable) (phaseShift random : Bool) : UsageTable :=
  t.addAll (ruleUses phaseShift random)

theorem applyDefaults_eq (t : UsageTable) (demands : Demands) :
    let wanted := t.withRules false demands.rand
    (t.applyDefaults demands).table = wanted.addAll (wanted.uninitialized.map (·, .init)) ∧
      (t.applyDefaults demands).demands = { demands with updateRand := demands.rand } := by
  have seeded : (if demands.rand then t.add .seed (.init ∪ .update) else t)
      = t.withRules false demands.rand := by
    cases demands.rand <;> rfl
  simp only [applyDefaults, seeded, and_self]

theorem applyRules_eq_ok {demands : Demands} {phaseShift : Bool} {ruled : Ruled}
    (h : t.applyRules demands phaseShift = .ok ruled) :
    let wanted := t.withRules phaseShift (phaseShift || demands.rand)
    ruled.table = wanted.addAll (wanted.uninitialized.map (·, .init)) ∧
      ruled.demands.rand = (phaseShift || demands.rand) ∧
      ruled.demands.updateKill = demands.updateKill ∧
      (phaseShift → ∀ a ∈ [Attribute.position, .velocity], a ∈ t.attributes) := by
  cases phaseShift with
  | false =>
    cases h
    obtain ⟨table, same⟩ := t.applyDefaults_eq demands
    refine ⟨table, ?_, ?_, by simp⟩
    · rw [same]
      simp [Demands.rand, ← Bool.or_assoc]
    · rw [same]
  | true =>
    simp only [applyRules, if_true] at h
    split at h
    · cases h
    · next present =>
      cases h
      obtain ⟨table, same⟩ := (t.addAll phaseShiftUses).applyDefaults_eq
        { demands with initRand := true }
      refine ⟨table, ?_, ?_, fun _ a ha => ?_⟩
      · rw [same]
        simp [Demands.rand]
      · rw [same]
      · have present := List.find?_eq_none.1 present a ha
        simpa [contains] using present

end UsageTable

end ParticleShaders
