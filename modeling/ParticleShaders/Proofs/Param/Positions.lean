import Mathlib.Logic.Function.Basic
import ParticleShaders.Proofs.Param.Numbering

namespace ParticleShaders

open Function (update)

section Positions

variable {α : Type} [DecidableEq α] {xs ys : List α} {x : α} {i : Nat}

theorem idxOf?_eq_some_iff_of_nodup (distinct : xs.Nodup) :
    xs.idxOf? x = some i ↔ xs[i]? = some x := by
  rw [List.idxOf?_eq_some_iff, List.getElem?_eq_some_iff]
  constructor
  · rintro ⟨bound, found, -⟩
    exact ⟨bound, found⟩
  · rintro ⟨bound, found⟩
    refine ⟨bound, found, fun j before same => ?_⟩
    exact Nat.ne_of_lt before (distinct.getElem_inj_iff.1 (same.trans found.symm))

theorem idxOf?_concat (fresh : x ∉ xs) :
    (xs ++ [x]).idxOf? = update xs.idxOf? x (some xs.length) := by
  funext y
  rw [List.idxOf?, List.findIdx?_append, List.findIdx?_singleton, Function.update_apply]
  by_cases same : y = x
  · subst same
    have absent : xs.findIdx? (· == y) = none := List.idxOf?_eq_none_iff.2 fresh
    simp [absent]
  · have other : (x == y) = false := beq_false_of_ne (Ne.symm same)
    simp [same, other, List.idxOf?]

omit [DecidableEq α] in
theorem getElem?_of_prefix (before : xs <+: ys) (h : xs[i]? = some x) : ys[i]? = some x := by
  obtain ⟨bound, rfl⟩ := List.getElem?_eq_some_iff.1 h
  exact List.prefix_iff_getElem?.1 before i bound

end Positions

/-- Names in their order, and the position of each by the parameter that it names. Nothing in the
type ties the two together. -/
@[ext] structure IndexedNames where
  order : List (String × String)
  index : String → Option Nat

namespace IndexedNames

instance : EmptyCollection IndexedNames := ⟨⟨[], fun _ => none⟩⟩

def find? (r : IndexedNames) (id : String) : Option String :=
  (r.index id).bind fun i => r.order[i]?.map (·.2)

def nameParam (stem : String) (state : IndexedNames × Nat) (p : Param) : IndexedNames × Nat :=
  let (r, counter) := state
  if (r.index p.id).isSome then (r, counter)
  else
    (⟨r.order ++ [(p.id, stem ++ toString counter)], update r.index p.id (some r.order.length)⟩,
      counter + 1)

def nameAll (r : IndexedNames) (s : ParamSet) (stem : String) : IndexedNames :=
  (s.params.foldl (nameParam stem) (r, 0)).1

def nameSets (r : IndexedNames) (sets : List (ParamSet × String)) : IndexedNames :=
  sets.foldl (fun r s => r.nameAll s.1 s.2) r

structure Coherent (r : IndexedNames) : Prop where
  index_iff : ∀ id i, r.index id = some i ↔ ∃ name, r.order[i]? = some (id, name)
  find?_iff : ∀ id name, r.find? id = some name ↔ (id, name) ∈ r.order
  distinct : (r.order.map (·.1)).Nodup

def ofNaming (n : Naming) : IndexedNames := ⟨n.entries, n.ids.idxOf?⟩

end IndexedNames

namespace Naming

variable {n : Naming} {s : ParamSet} {stem : String} {sets : List (ParamSet × String)}

theorem isNone_find? (n : Naming) (id : String) : (n.find? id).isNone = !n.ids.contains id := by
  have found : (n.find? id).isSome ↔ id ∈ n.ids := by simp [find?, ids, List.lookup_isSome_iff]
  rw [← Option.not_isSome, Bool.eq_iff_iff.2 (found.trans List.contains_iff_mem.symm)]

theorem number_concat (stem : String) (ps : List Param) (p : Param) :
    number stem (ps ++ [p]) = number stem ps ++ [(p.id, stem ++ toString ps.length)] :=
  List.mapIdx_concat

theorem prefix_nameSets (n : Naming) (sets : List (ParamSet × String)) :
    n.entries <+: (n.nameSets sets).entries := by
  induction sets generalizing n with
  | nil => exact List.prefix_refl _
  | cons s rest ih => exact (List.prefix_append ..).trans (ih (n.nameAll s.1 s.2))

theorem ids_subset_nameAll (n : Naming) (s : ParamSet) (stem : String) :
    s.ids ⊆ (n.nameAll s stem).ids := by
  intro id known
  obtain ⟨p, hp, rfl⟩ := List.mem_map.1 known
  rw [ids_nameAll, List.mem_append]
  by_cases named : p.id ∈ n.ids
  · exact .inl named
  · exact .inr (List.mem_map_of_mem (List.mem_filter.2 ⟨hp, by simpa using named⟩))

theorem nameAll_of_subset (named : s.ids ⊆ n.ids) : n.nameAll s stem = n := by
  have none : n.unnamed s = [] := by
    rw [unnamed, List.filter_eq_nil_iff]
    intro p hp
    simpa using named (List.mem_map_of_mem hp)
  refine Naming.ext ?_
  rw [entries_nameAll, none]
  exact List.append_nil _

end Naming

namespace IndexedNames

variable {n : Naming} {s : ParamSet} {p : Param} {stem id name : String} {i k : Nat}

theorem isSome_index_ofNaming : ((ofNaming n).index id).isSome ↔ id ∈ n.ids := List.isSome_idxOf?

theorem index_ofNaming_iff :
    (ofNaming n).index id = some i ↔ ∃ name, n.entries[i]? = some (id, name) := by
  have entry : n.ids[i]? = n.entries[i]?.map (·.1) := List.getElem?_map
  have position : (ofNaming n).index id = some i ↔ n.ids[i]? = some id :=
    idxOf?_eq_some_iff_of_nodup n.distinct
  rw [position, entry, Option.map_eq_some_iff]
  constructor
  · rintro ⟨⟨_, name⟩, found, rfl⟩
    exact ⟨name, found⟩
  · rintro ⟨name, found⟩
    exact ⟨_, found, rfl⟩

theorem find?_ofNaming_iff :
    (ofNaming n).find? id = some name ↔ (id, name) ∈ n.entries := by
  rw [find?, Option.bind_eq_some_iff, List.mem_iff_getElem?]
  constructor
  · rintro ⟨i, position, found⟩
    obtain ⟨other, entry⟩ := index_ofNaming_iff.1 position
    rw [show (ofNaming n).order[i]? = _ from entry] at found
    cases found
    exact ⟨i, entry⟩
  · rintro ⟨i, entry⟩
    refine ⟨i, index_ofNaming_iff.2 ⟨name, entry⟩, ?_⟩
    rw [show (ofNaming n).order[i]? = _ from entry]
    rfl

theorem find?_ofNaming (n : Naming) (id : String) : (ofNaming n).find? id = n.find? id :=
  Option.ext fun _ => find?_ofNaming_iff.trans Naming.find?_eq_some_iff.symm

theorem coherent_ofNaming (n : Naming) : (ofNaming n).Coherent where
  index_iff _ _ := index_ofNaming_iff
  find?_iff _ _ := find?_ofNaming_iff
  distinct := n.distinct

theorem nameParam_of_mem (known : p.id ∈ n.ids) :
    nameParam stem (ofNaming n, k) p = (ofNaming n, k) :=
  if_pos (isSome_index_ofNaming.2 known)

theorem nameParam_of_not_mem {m : Naming} (fresh : p.id ∉ n.ids)
    (grown : m.entries = n.entries ++ [(p.id, stem ++ toString k)]) :
    nameParam stem (ofNaming n, k) p = (ofNaming m, k + 1) := by
  have ids : m.ids = n.ids ++ [p.id] := by
    rw [Naming.ids, grown, List.map_append]
    rfl
  have length : n.ids.length = n.entries.length := List.length_map _
  rw [nameParam, if_neg (isSome_index_ofNaming.not.2 fresh), ofNaming, ofNaming, ids, grown,
    idxOf?_concat fresh, length]

/-- The counter stands at the number of names that have been given. -/
theorem foldl_nameParam (n : Naming) (stem : String) (ps : List Param)
    (distinct : (ps.map (·.id)).Nodup) :
    ps.foldl (nameParam stem) (ofNaming n, 0) =
      (ofNaming (n.nameAll ⟨ps, distinct⟩ stem), (n.unnamed ⟨ps, distinct⟩).length) := by
  induction ps using List.reverseRecOn with
  | nil => rw [Naming.nameAll_of_subset (List.nil_subset _)]; rfl
  | append_singleton ps p ih =>
    have apart := distinct
    rw [List.map_append, List.nodup_append] at apart
    obtain ⟨before, -, apart⟩ := apart
    have new : p.id ∉ ps.map (·.id) := fun mem => apart _ mem _ (by simp) rfl
    let s : ParamSet := ⟨ps, before⟩
    let grown : ParamSet := ⟨ps ++ [p], distinct⟩
    have unnamed : n.unnamed grown = n.unnamed s ++ [p].filter fun p => !n.ids.contains p.id :=
      List.filter_append ..
    have named : p.id ∈ (n.nameAll s stem).ids ↔ p.id ∈ n.ids := by
      have other : p.id ∉ (n.unnamed s).map (·.id) := fun mem =>
        new ((List.filter_sublist.map _).subset mem)
      rw [Naming.ids_nameAll, List.mem_append, or_iff_left other]
    rw [List.foldl_concat, ih before]
    by_cases known : p.id ∈ n.ids
    · have same : n.unnamed grown = n.unnamed s := by simp [unnamed, known]
      have kept : n.nameAll grown stem = n.nameAll s stem :=
        Naming.ext (congrArg (n.entries ++ Naming.number stem ·) same)
      rw [nameParam_of_mem (named.2 known), kept, same]
    · have more : n.unnamed grown = n.unnamed s ++ [p] := by simp [unnamed, known]
      have entries : (n.nameAll grown stem).entries = (n.nameAll s stem).entries
          ++ [(p.id, stem ++ toString (n.unnamed s).length)] := by
        rw [Naming.entries_nameAll, Naming.entries_nameAll, more, Naming.number_concat,
          List.append_assoc]
      rw [nameParam_of_not_mem (named.not.2 known) entries, more, List.length_append]
      rfl

theorem nameAll_ofNaming : (ofNaming n).nameAll s stem = ofNaming (n.nameAll s stem) :=
  congrArg Prod.fst (foldl_nameParam n stem s.params s.distinct)

theorem nameSets_ofNaming (n : Naming) (sets : List (ParamSet × String)) :
    (ofNaming n).nameSets sets = ofNaming (n.nameSets sets) := by
  induction sets generalizing n with
  | nil => rfl
  | cons s rest ih =>
    rw [nameSets, List.foldl_cons, nameAll_ofNaming]
    exact ih _

end IndexedNames

/-- Whatever sets are named, names and index stay in step, and they are those of names without an
index. A parameter that has a name keeps it, and its position, whatever is named later. To name a
set adds its members without a name, in their order and numbered from zero on, and to name it again
by any stem, at once or later, changes nothing. -/
theorem Naming.never_renames (sets : List (ParamSet × String)) :
    let r := IndexedNames.nameSets ∅ sets
    r.Coherent ∧ r = .ofNaming (nameSets ∅ sets) ∧
    (∀ later id i name, r.index id = some i → r.find? id = some name →
      (r.nameSets later).index id = some i ∧ (r.nameSets later).find? id = some name) ∧
    (∀ s stem, (r.nameAll s stem).order = r.order ++
      (s.params.filter fun p => (r.find? p.id).isNone).mapIdx fun i p =>
        (p.id, stem ++ toString i)) ∧
    ∀ s stem later other, let named := (r.nameAll s stem).nameSets later
      named.nameAll s other = named := by
  have made : IndexedNames.nameSets ∅ sets = .ofNaming (nameSets ∅ sets) :=
    IndexedNames.nameSets_ofNaming ∅ sets
  intro r
  simp only [r, made, IndexedNames.nameAll_ofNaming, IndexedNames.nameSets_ofNaming]
  generalize nameSets ∅ sets = n
  refine ⟨IndexedNames.coherent_ofNaming n, trivial, fun later id i name position found => ?_,
    fun s stem => ?_, fun s stem later other => ?_⟩
  · have kept := n.prefix_nameSets later
    obtain ⟨_, entry⟩ := IndexedNames.index_ofNaming_iff.1 position
    exact ⟨IndexedNames.index_ofNaming_iff.2 ⟨_, getElem?_of_prefix kept entry⟩,
      IndexedNames.find?_ofNaming_iff.2 (kept.subset (IndexedNames.find?_ofNaming_iff.1 found))⟩
  · simp only [IndexedNames.find?_ofNaming, isNone_find?]
    exact entries_nameAll n s stem
  · have named := n.ids_subset_nameAll s stem
    have kept := ((n.nameAll s stem).prefix_nameSets later).map (·.1)
    rw [nameAll_of_subset (List.Subset.trans named kept.subset)]

theorem Naming.glow_keeps_its_name :
    let glow : ParamSet := ⟨[⟨"glow", .float⟩], by decide⟩
    let both : ParamSet := ⟨[⟨"glow", .float⟩, ⟨"lift", .float⟩], by decide⟩
    let r := IndexedNames.nameSets ∅ [(glow, "globalUniform")]
    r.index "glow" = some 0 ∧ r.find? "glow" = some "globalUniform0" ∧
      (r.nameSets [(both, "initUniform")]).index "glow" = some 0 ∧
      (r.nameSets [(both, "initUniform")]).find? "glow" = some "globalUniform0" := by
  intro glow both r
  have position : r.index "glow" = some 0 := by decide
  have name : r.find? "glow" = some "globalUniform0" := by decide
  have kept := (never_renames [(glow, "globalUniform")]).2.2.1
  exact ⟨position, name, kept [(both, "initUniform")] "glow" 0 "globalUniform0" position name⟩

end ParticleShaders
