import ParticleShaders.Proofs.Usage.Acceptance
import ParticleShaders.Proofs.Usage.Merging
/-! How tables of uses come about, by any number of steps: uses are added, tables are merged, and
generators and rules add what they need, also where they are refused. Each step contributes uses,
and a table is what has been contributed. A table that keeps its order apart from its masks does the
same, and the two stay in step. -/

namespace ParticleShaders

namespace Need

variable {known known' : List Attribute} {t : UsageTable}

def contributes (known : List Attribute) (n : Need) : List (Attribute × Usage) :=
  n.uses ++ n.usesIfPresent.filter (·.1 ∈ known ++ n.uses.map (·.1))

def contributesAll (known : List Attribute) : List Need → List (Attribute × Usage)
  | [] => []
  | n :: rest =>
    if ∀ a ∈ n.requires, a ∈ known then
      n.contributes known ++ contributesAll (known ++ (n.contributes known).map (·.1)) rest
    else []

theorem contributes_congr (same : ∀ a, a ∈ known ↔ a ∈ known') (n : Need) :
    n.contributes known = n.contributes known' := by
  simp only [contributes, List.mem_append, same]

theorem contributesAll_congr (same : ∀ a, a ∈ known ↔ a ∈ known') (needs : List Need) :
    contributesAll known needs = contributesAll known' needs := by
  induction needs generalizing known known' with
  | nil => rfl
  | cons n rest ih =>
    have later (a : Attribute) : a ∈ known ++ (n.contributes known').map (·.1) ↔
        a ∈ known' ++ (n.contributes known').map (·.1) := by
      rw [List.mem_append, List.mem_append, same]
    simp only [contributesAll, contributes_congr same, ih later, same]

theorem addTo_eq (n : Need) (t : UsageTable) : n.addTo t = t.addAll (n.contributes t.attributes) := by
  rw [contributes, UsageTable.addAll_append, addTo]
  congr 1
  refine List.filter_congr fun use _ => ?_
  simp [UsageTable.contains, UsageTable.mem_attributes_addAll]

theorem fst_meetAll (stage : Stage) (needs : List Need) (t : UsageTable) :
    (meetAll stage needs t).1 = t.addAll (contributesAll t.attributes needs) := by
  induction needs generalizing t with
  | nil => rfl
  | cons n rest ih =>
    unfold meetAll contributesAll
    split
    · next a missing =>
      have unmet : ¬ ∀ a ∈ n.requires, a ∈ t.attributes := fun met => by
        rw [missing?_eq_none_iff.2 met] at missing
        cases missing
      rw [if_neg unmet]
      rfl
    · next met =>
      have after (a : Attribute) : a ∈ (n.addTo t).attributes ↔
          a ∈ t.attributes ++ (n.contributes t.attributes).map (·.1) := by
        rw [addTo_eq, UsageTable.mem_attributes_addAll, List.mem_append]
      rw [if_pos (missing?_eq_none_iff.1 met), UsageTable.addAll_append, ← addTo_eq,
        ← contributesAll_congr after]
      exact ih _

end Need

namespace UsageTable

def afterRules (t : UsageTable) (demands : Demands) (phaseShift : Bool) : UsageTable :=
  match t.applyRules demands phaseShift with
  | .ok ruled => ruled.table
  | .error _ => t

def defaults (uses : List (Attribute × Usage)) : List (Attribute × Usage) :=
  ((uses.map (·.1)).eraseDups.filter fun a =>
    ∀ use ∈ uses, use.1 = a → ¬ use.2.usedIn .init).map (·, .init)

def ruleContributes (uses : List (Attribute × Usage)) (demands : Demands) (phaseShift : Bool) :
    List (Attribute × Usage) :=
  if phaseShift → .position ∈ uses.map (·.1) ∧ .velocity ∈ uses.map (·.1) then
    let added := ruleUses phaseShift (phaseShift || demands.rand)
    added ++ defaults (uses ++ added)
  else []

theorem uninitialized_made (uses : List (Attribute × Usage)) :
    (addAll ∅ uses).uninitialized.map (·, Usage.init) = defaults uses := by
  have touched (e) (mem : e ∈ (addAll ∅ uses).entries) :
      (!e.2.usedIn .init) = decide (∀ use ∈ uses, use.1 = e.1 → ¬ use.2.usedIn .init) := by
    have made (x : Access) : Grants (addAll ∅ uses).entries x e.1 ↔ Grants uses x e.1 :=
      grants_addAll.trans (or_iff_right not_grants_nil)
    rw [Bool.eq_iff_iff, decide_eq_true_iff, Bool.not_eq_true', ← Bool.not_eq_true,
      usedIn_init_iff mem, made, made]
    simp only [Grants, Usage.grants, Usage.usedIn]
    grind
  rw [defaults, ← attributes_made, attributes, List.filter_map, uninitialized]
  exact congrArg _ (congrArg _ (List.filter_congr touched))

theorem afterRules_eq (t : UsageTable) (demands : Demands) (phaseShift : Bool) :
    t.afterRules demands phaseShift =
      if phaseShift → .position ∈ t.attributes ∧ .velocity ∈ t.attributes then
        let wanted := t.addAll (ruleUses phaseShift (phaseShift || demands.rand))
        wanted.addAll (wanted.uninitialized.map (·, .init))
      else t := by
  unfold afterRules
  cases ruled : t.applyRules demands phaseShift with
  | ok result =>
    rw [if_pos (exists_applyRules_eq_ok_iff.1 ⟨result, ruled⟩)]
    exact (applyRules_eq_ok ruled).1
  | error e =>
    have lacks : ¬ (phaseShift → .position ∈ t.attributes ∧ .velocity ∈ t.attributes) :=
      fun present => by
        obtain ⟨result, accepted⟩ := exists_applyRules_eq_ok_iff.2 present
        cases ruled.symm.trans accepted
    rw [if_neg lacks]

theorem afterRules_made (uses : List (Attribute × Usage)) (demands : Demands) (phaseShift : Bool) :
    (addAll ∅ uses).afterRules demands phaseShift
      = addAll ∅ (uses ++ ruleContributes uses demands phaseShift) := by
  rw [afterRules_eq, ruleContributes]
  simp only [mem_attributes_made]
  split
  · simp only [← addAll_append, uninitialized_made, List.append_assoc]
  · rw [List.append_nil]

end UsageTable

inductive Origin
  | empty
  | add (t : Origin) (a : Attribute) (u : Usage)
  | merge (t other : Origin)
  | ofBlocks (stage : Stage) (blocks : List BoundBlock)
  | meetAll (t : Origin) (stage : Stage) (needs : List Need)
  | applyRules (t : Origin) (demands : Demands) (phaseShift : Bool)

namespace Origin

def table : Origin → UsageTable
  | empty => ∅
  | add t a u => t.table.add a u
  | merge t other => t.table.merge other.table
  | ofBlocks stage blocks => .ofBlocks stage blocks
  | meetAll t stage needs => (Need.meetAll stage needs t.table).1
  | applyRules t demands phaseShift => t.table.afterRules demands phaseShift

def uses : Origin → List (Attribute × Usage)
  | empty => []
  | add t a u => t.uses ++ [(a, u)]
  | merge t other => t.uses ++ other.uses
  | ofBlocks stage blocks =>
    blocks.flatMap fun b =>
      b.descriptor.attributes.map fun d => (d.toAttribute, .declared stage d.writable)
  | meetAll t _ needs => t.uses ++ Need.contributesAll (t.uses.map (·.1)) needs
  | applyRules t demands phaseShift =>
    t.uses ++ UsageTable.ruleContributes t.uses demands phaseShift

def parts : Origin → List Origin
  | empty | ofBlocks .. => []
  | add t .. | meetAll t .. | applyRules t .. => [t]
  | merge t other => [t, other]

variable (o : Origin) {part : Origin}

theorem table_eq : o.table = UsageTable.addAll ∅ o.uses := by
  induction o with
  | empty => rfl
  | add t a u ih =>
    rw [table, uses, UsageTable.addAll_append, ih]
    rfl
  | merge t other ih ih' =>
    rw [table, uses, UsageTable.addAll_append, UsageTable.addAll_eq_merge (.addAll ..), ← ih, ← ih']
  | ofBlocks stage blocks => rfl
  | meetAll t stage needs ih =>
    -- Needs look at what is there, which is what has been contributed.
    have same (a : Attribute) : a ∈ t.table.attributes ↔ a ∈ t.uses.map (·.1) := by
      rw [ih, UsageTable.mem_attributes_made]
    rw [table, uses, Need.fst_meetAll, Need.contributesAll_congr same, UsageTable.addAll_append, ← ih]
  | applyRules t demands phaseShift ih => rw [table, uses, ih, UsageTable.afterRules_made]

theorem find?_table (a : Attribute) :
    o.table.find? a = Usage.unite? (UsageTable.usesOf o.uses a) := by
  rw [table_eq, UsageTable.find?_addAll, UsageTable.find?_empty, Option.merge_none_left]

theorem uses_of_mem_parts (mem : part ∈ o.parts) :
    ∃ before after, o.uses = before ++ part.uses ++ after := by
  cases o with
  | empty | ofBlocks => cases mem
  | add t | meetAll t | applyRules t =>
    rw [List.mem_singleton.1 mem]
    exact ⟨[], _, rfl⟩
  | merge t other =>
    rcases List.mem_pair.1 mem with rfl | rfl
    · exact ⟨[], _, rfl⟩
    · exact ⟨_, [], (List.append_nil _).symm⟩

theorem keeps_bits (mem : part ∈ o.parts) {a : Attribute} {u : Usage}
    (found : part.table.find? a = some u) :
    ∃ v, o.table.find? a = some v ∧ ∀ x, u.grants x → v.grants x := by
  obtain ⟨before, after, uses⟩ := o.uses_of_mem_parts mem
  rw [find?_table] at found
  rw [find?_table, uses, UsageTable.usesOf_append, UsageTable.usesOf_append, Usage.unite?_append,
    Usage.unite?_append, found]
  cases Usage.unite? (UsageTable.usesOf before a) <;>
    cases Usage.unite? (UsageTable.usesOf after a) <;> simp +contextual

end Origin

/-- An order of attributes, and masks by attribute. Nothing in the type ties the two together. -/
structure OrderedMasks where
  order : List Attribute
  masks : Attribute → Option Usage

namespace OrderedMasks

instance : EmptyCollection OrderedMasks := ⟨⟨[], fun _ => none⟩⟩

def find? (m : OrderedMasks) (a : Attribute) : Option Usage := m.masks a

def contains (m : OrderedMasks) (a : Attribute) : Bool := (m.masks a).isSome

def size (m : OrderedMasks) : Nat := m.order.length

def entries (m : OrderedMasks) : List (Attribute × Usage) :=
  m.order.map fun a => (a, (m.masks a).getD .none)

open Function (update)

def add (m : OrderedMasks) (a : Attribute) (u : Usage) : OrderedMasks :=
  match m.masks a with
  | some mask => { m with masks := update m.masks a (some (mask ∪ u)) }
  | none => ⟨m.order ++ [a], update m.masks a (some u)⟩

def addAll (m : OrderedMasks) (uses : List (Attribute × Usage)) : OrderedMasks :=
  uses.foldl (fun m use => m.add use.1 use.2) m

def merge (m other : OrderedMasks) : OrderedMasks :=
  other.order.foldl (fun m a => m.add a ((other.masks a).getD .none)) m

def ofBlocks (stage : Stage) (blocks : List BoundBlock) : OrderedMasks :=
  blocks.foldl (fun m b =>
    b.descriptor.attributes.foldl (fun m d => m.add d.toAttribute (.declared stage d.writable)) m) ∅

def meetAll (m : OrderedMasks) : List Need → OrderedMasks
  | [] => m
  | n :: rest =>
    if n.requires.all m.contains then
      let used := m.addAll n.uses
      (used.addAll (n.usesIfPresent.filter (used.contains ·.1))).meetAll rest
    else m

def applyRules (m : OrderedMasks) (demands : Demands) (phaseShift : Bool) : OrderedMasks :=
  if phaseShift && !(m.contains .position && m.contains .velocity) then m
  else
    let wanted := m.addAll (UsageTable.ruleUses phaseShift (phaseShift || demands.rand))
    let unset := (wanted.entries.filter fun e => !e.2.usedIn .init).map (·.1)
    wanted.addAll (unset.map (·, .init))

structure Coherent (m : OrderedMasks) : Prop where
  distinct : m.order.Nodup
  mem_order_iff : ∀ a, a ∈ m.order ↔ (m.find? a).isSome
  contains_iff : ∀ a, m.contains a ↔ a ∈ m.order
  order_entries : m.entries.map (·.1) = m.order
  mem_entries_iff : ∀ a u, (a, u) ∈ m.entries ↔ m.find? a = some u
  length_entries : m.entries.length = m.size

def ofTable (t : UsageTable) : OrderedMasks := ⟨t.attributes, t.find?⟩

variable {t u : UsageTable} {a : Attribute} {use : Usage}

theorem contains_ofTable : (ofTable t).contains a ↔ a ∈ t.attributes :=
  UsageTable.mem_attributes_iff.symm

theorem entries_ofTable : (ofTable t).entries = t.entries := t.entries_eq.symm

theorem coherent_ofTable (t : UsageTable) : (ofTable t).Coherent where
  distinct := t.distinct
  mem_order_iff _ := UsageTable.mem_attributes_iff
  contains_iff _ := contains_ofTable
  order_entries := by rw [entries_ofTable]; rfl
  mem_entries_iff _ _ := by
    rw [entries_ofTable]
    exact (lookup_eq_some_iff_mem t.distinct).symm
  length_entries := List.length_map _

theorem add_ofTable : (ofTable t).add a use = ofTable (t.add a use) := by
  have masks (found : Option Usage) (h : t.find? a = found) :
      update t.find? a (some ((found.map (· ∪ use)).getD use)) = (t.add a use).find? := by
    funext b
    rw [UsageTable.find?_add, Function.update_apply, h]
    cases found <;> rfl
  unfold add
  split
  · next mask h =>
    have known : a ∈ t.attributes := UsageTable.mem_attributes_iff.2 (Option.isSome_of_eq_some h)
    rw [ofTable, ofTable, UsageTable.attributes_add, if_pos known, ← masks _ h]
    rfl
  · next h =>
    have fresh : a ∉ t.attributes := fun known =>
      Option.isSome_iff_ne_none.1 (UsageTable.mem_attributes_iff.1 known) h
    rw [ofTable, ofTable, UsageTable.attributes_add, if_neg fresh, ← masks _ h]
    rfl

theorem addAll_ofTable (uses : List (Attribute × Usage)) (t : UsageTable) :
    (ofTable t).addAll uses = ofTable (t.addAll uses) := by
  induction uses generalizing t with
  | nil => rfl
  | cons e rest ih =>
    rw [addAll, List.foldl_cons, add_ofTable]
    exact ih _

theorem merge_ofTable : (ofTable t).merge (ofTable u) = ofTable (t.merge u) := by
  rw [UsageTable.merge, ← addAll_ofTable, ← entries_ofTable (t := u), addAll, entries,
    List.foldl_map]
  rfl

theorem ofBlocks_eq (stage : Stage) (blocks : List BoundBlock) :
    ofBlocks stage blocks = ofTable (.ofBlocks stage blocks) := by
  have empty : ofTable ∅ = ∅ := rfl
  rw [UsageTable.ofBlocks, ← addAll_ofTable, addAll, List.foldl_flatMap, ofBlocks, empty]
  simp only [List.foldl_map]

theorem meetAll_ofTable (stage : Stage) (needs : List Need) (t : UsageTable) :
    (ofTable t).meetAll needs = ofTable (Need.meetAll stage needs t).1 := by
  induction needs generalizing t with
  | nil => rfl
  | cons n rest ih =>
    have met : n.requires.all (ofTable t).contains ↔ n.missing? t = none := by
      rw [List.all_eq_true, Need.missing?_eq_none_iff]
      simp only [contains_ofTable]
    have used (a : Attribute) : (ofTable (t.addAll n.uses)).contains a
        = (t.addAll n.uses).contains a := by
      rw [Bool.eq_iff_iff, contains_ofTable, UsageTable.contains, List.contains_iff_mem]
    unfold meetAll Need.meetAll
    cases h : n.missing? t with
    | some a => exact if_neg fun all => Option.some_ne_none a (h.symm.trans (met.1 all))
    | none =>
      rw [if_pos (met.2 h)]
      simp only [addAll_ofTable, used]
      exact ih _

theorem applyRules_ofTable (t : UsageTable) (demands : Demands) (phaseShift : Bool) :
    (ofTable t).applyRules demands phaseShift = ofTable (t.afterRules demands phaseShift) := by
  have refused : (phaseShift && !((ofTable t).contains .position && (ofTable t).contains .velocity))
      ↔ ¬ (phaseShift → .position ∈ t.attributes ∧ .velocity ∈ t.attributes) := by
    rw [← contains_ofTable, ← contains_ofTable]
    cases phaseShift <;> cases (ofTable t).contains .position <;> simp
  rw [UsageTable.afterRules_eq, applyRules, if_congr refused rfl rfl, ite_not]
  simp only [addAll_ofTable, entries_ofTable]
  split <;> rfl

end OrderedMasks

namespace Origin

def masks : Origin → OrderedMasks
  | empty => ∅
  | add t a u => t.masks.add a u
  | merge t other => t.masks.merge other.masks
  | ofBlocks stage blocks => .ofBlocks stage blocks
  | meetAll t _ needs => t.masks.meetAll needs
  | applyRules t demands phaseShift => t.masks.applyRules demands phaseShift

theorem masks_eq (o : Origin) : o.masks = .ofTable o.table := by
  induction o with
  | empty => rfl
  | add t a u ih => rw [masks, ih, OrderedMasks.add_ofTable, table]
  | merge t other ih ih' => rw [masks, ih, ih', OrderedMasks.merge_ofTable, table]
  | ofBlocks stage blocks => exact OrderedMasks.ofBlocks_eq stage blocks
  | meetAll t stage needs ih => rw [masks, ih, OrderedMasks.meetAll_ofTable stage, table]
  | applyRules t demands phaseShift ih => rw [masks, ih, OrderedMasks.applyRules_ofTable, table]

/-- Whichever way a table comes about, an order and masks that come about in the same way stay in
step and are those of the table: the attributes in the order in which they were contributed first,
each with the union of all that was contributed. Of such tables it does not matter how merges are
grouped, and which table comes first makes a difference for the order alone. -/
theorem in_step :
    (∀ o : Origin, o.masks.Coherent ∧ o.masks = .ofTable o.table ∧
      (∀ a, o.table.find? a = Usage.unite? (UsageTable.usesOf o.uses a)) ∧
      o.table.attributes = (o.uses.map (·.1)).eraseDups ∧
      ∀ part ∈ o.parts, ∀ a u, part.table.find? a = some u →
        ∃ v, o.table.find? a = some v ∧ ∀ x, u.grants x → v.grants x) ∧
    (∀ t u v : UsageTable, (t.merge u).merge v = t.merge (u.merge v) ∧
      UsageTable.merge ∅ t = t ∧ t.merge ∅ = t ∧ ∀ a, (t.merge u).find? a = (u.merge t).find? a) ∧
    ∀ stage xs ys, UsageTable.ofBlocks stage (xs ++ ys)
      = (UsageTable.ofBlocks stage xs).merge (.ofBlocks stage ys) := by
  refine ⟨fun o => ⟨?_, o.masks_eq, o.find?_table, ?_, fun part mem a u => o.keeps_bits mem⟩,
    fun t u v => ⟨t.merge_assoc u v, t.empty_merge, t.merge_empty, t.find?_merge_comm u⟩,
    UsageTable.ofBlocks_append⟩
  · rw [masks_eq]
    exact OrderedMasks.coherent_ofTable _
  · rw [table_eq, UsageTable.attributes_made]

end Origin

end ParticleShaders
