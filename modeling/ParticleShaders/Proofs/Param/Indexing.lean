import Mathlib.Data.Finset.Card
import Mathlib.Data.List.Induction
import ParticleShaders.Uniforms
/-! Sets of parameters that keep an index of their names. The list and the index are changed apart
from each other, and sets are taken out of sets name by name. Whatever is done with such sets, list
and index stay in step, and the lists are those of the sets that have no index. -/

namespace ParticleShaders

namespace ParamSet

variable (s : ParamSet) {p : Param} {id other : String}

theorem contains_iff : s.contains id ↔ id ∈ s.ids := List.contains_iff_mem

theorem contains_eq_false (absent : id ∉ s.ids) : s.contains id = false :=
  Bool.eq_false_iff.2 fun known => absent (s.contains_iff.1 known)

theorem insert_of_mem (known : p.id ∈ s.ids) : s.insert p = s := dif_pos known

theorem params_insert (p : Param) :
    (s.insert p).params = if s.contains p.id then s.params else s.params ++ [p] := by
  rw [if_congr s.contains_iff rfl rfl, insert]
  split <;> rfl

theorem params_insert_of_not_mem (fresh : p.id ∉ s.ids) :
    (s.insert p).params = s.params ++ [p] := by
  rw [params_insert, if_neg fun known => fresh (s.contains_iff.1 known)]

theorem mem_ids_filter {test : Param → Bool} :
    id ∈ (s.filter test).ids ↔ ∃ p ∈ s.params, test p ∧ p.id = id := by
  simp [ids, and_assoc]

theorem mem_ids_remove : other ∈ (s.remove id).ids ↔ other ≠ id ∧ other ∈ s.ids := by
  rw [remove, mem_ids_filter, ids, List.mem_map]
  simp only [ne_eq, decide_eq_true_eq]
  grind

theorem remove_of_not_mem (absent : id ∉ s.ids) : s.remove id = s := by
  refine ext (List.filter_eq_self.2 fun p hp => ?_)
  have other : p.id ≠ id := fun same => absent (same ▸ List.mem_map_of_mem hp)
  simpa using other

theorem mem_ids_filter_of_mem {test : Param → Bool} (hp : p ∈ s.params) :
    p.id ∈ (s.filter test).ids ↔ test p := by
  rw [mem_ids_filter]
  constructor
  · rintro ⟨q, hq, passed, same⟩
    rwa [← List.inj_on_of_nodup_map s.distinct hq hp same]
  · intro passed
    exact ⟨p, hp, passed, rfl⟩

theorem mem_ids_inter (t : ParamSet) : id ∈ (s.inter t).ids ↔ id ∈ s.ids ∧ id ∈ t.ids := by
  rw [inter, mem_ids_filter, ids, List.mem_map]
  simp only [contains, List.contains_iff_mem]
  grind

theorem mem_ids_diff (t : ParamSet) : id ∈ (s.diff t).ids ↔ id ∈ s.ids ∧ id ∉ t.ids := by
  rw [diff, mem_ids_filter, ids, List.mem_map]
  simp only [contains, Bool.not_eq_true', List.contains_eq_mem, decide_eq_false_iff_not]
  grind

theorem diff_congr {t u : ParamSet} (same : ∀ p ∈ s.params, p.id ∈ t.ids ↔ p.id ∈ u.ids) :
    s.diff t = s.diff u := by
  refine ext (List.filter_congr fun p hp => ?_)
  simp only [contains, List.contains_eq_mem, same p hp]

theorem params_ofList_of_nodup {ps : List Param} (distinct : (ps.map (·.id)).Nodup) :
    (ofList ps).params = ps := by
  induction ps using List.reverseRecOn with
  | nil => rfl
  | append_singleton ps p ih =>
    rw [List.map_append, List.nodup_append] at distinct
    obtain ⟨before, -, fresh⟩ := distinct
    have grown : ofList (ps ++ [p]) = (ofList ps).insert p := List.foldl_concat ..
    have new : p.id ∉ (ofList ps).ids := by
      rw [ids, ih before]
      exact fun mem => fresh _ mem _ (by simp) rfl
    rw [grown, params_insert_of_not_mem _ new, ih before]

end ParamSet

/-- A list of parameters and an index of names. Nothing in the type ties the two together. -/
@[ext] structure IndexedParams where
  items : List Param
  index : Finset String

namespace IndexedParams

instance : EmptyCollection IndexedParams := ⟨⟨[], ∅⟩⟩

def contains (r : IndexedParams) (id : String) : Bool := id ∈ r.index

def size (r : IndexedParams) : Nat := r.items.length

def insert (r : IndexedParams) (p : Param) : IndexedParams × Bool :=
  if r.contains p.id then (r, false) else (⟨r.items ++ [p], {p.id} ∪ r.index⟩, true)

def remove (r : IndexedParams) (id : String) : IndexedParams × Bool :=
  if r.contains id then (⟨r.items.filter (·.id ≠ id), r.index.erase id⟩, true) else (r, false)

def ofList (ps : List Param) : IndexedParams := ps.foldl (fun r p => (r.insert p).1) ∅

def removeAll (r other : IndexedParams) : IndexedParams :=
  other.items.foldl (fun r p => (r.remove p.id).1) r

def takeTextures (r : IndexedParams) : IndexedParams × IndexedParams :=
  let textures := ofList (r.items.filter (·.type.isTexture))
  (textures, r.removeAll textures)

def signals (r : IndexedParams) : IndexedParams := ofList (r.items.filter (·.type.isSignal))

def takeShared (r s : IndexedParams) : IndexedParams × IndexedParams × IndexedParams :=
  let shared := ofList (r.items.filter (s.contains ·.id))
  (shared, r.removeAll shared, s.removeAll shared)

structure Coherent (r : IndexedParams) : Prop where
  contains_iff : ∀ id, r.contains id ↔ ∃ p ∈ r.items, p.id = id
  distinct : (r.items.map (·.id)).Nodup
  card : r.index.card = r.size

def ofSet (s : ParamSet) : IndexedParams := ⟨s.params, s.ids.toFinset⟩

variable {s t : ParamSet} {p : Param} {id : String}

@[simp] theorem mem_index_ofSet : id ∈ (ofSet s).index ↔ id ∈ s.ids := List.mem_toFinset

@[simp] theorem contains_ofSet : (ofSet s).contains id = s.contains id := by
  simp only [contains, mem_index_ofSet, ParamSet.contains, List.contains_eq_mem]

theorem coherent_ofSet (s : ParamSet) : (ofSet s).Coherent where
  contains_iff _ := by rw [contains_ofSet, s.contains_iff, ParamSet.ids, List.mem_map]; rfl
  distinct := s.distinct
  card := (List.toFinset_card_of_nodup s.distinct).trans (List.length_map _)

theorem insert_ofSet : (ofSet s).insert p = (ofSet (s.insert p), !s.contains p.id) := by
  rw [insert, contains_ofSet]
  by_cases known : p.id ∈ s.ids
  · have there : s.contains p.id := s.contains_iff.2 known
    rw [if_pos there, s.insert_of_mem known, there]
    rfl
  · have absent : s.contains p.id = false := s.contains_eq_false known
    have grown : ⟨s.params ++ [p], {p.id} ∪ (ofSet s).index⟩ = ofSet (s.insert p) := by
      refine IndexedParams.ext (s.params_insert_of_not_mem known).symm (Finset.ext fun id => ?_)
      rw [mem_index_ofSet, ParamSet.ids_insert, if_neg known, Finset.mem_union, mem_index_ofSet,
        Finset.mem_singleton, List.mem_append, List.mem_singleton, or_comm]
    rw [absent, ← grown]
    rfl

theorem remove_ofSet : (ofSet s).remove id = (ofSet (s.remove id), s.contains id) := by
  rw [remove, contains_ofSet]
  by_cases known : id ∈ s.ids
  · have there : s.contains id := s.contains_iff.2 known
    have shrunk : ⟨s.params.filter (·.id ≠ id), (ofSet s).index.erase id⟩ = ofSet (s.remove id) := by
      refine IndexedParams.ext rfl (Finset.ext fun other => ?_)
      rw [mem_index_ofSet, Finset.mem_erase, mem_index_ofSet, s.mem_ids_remove]
    rw [if_pos there, there, ← shrunk]
    rfl
  · have absent : s.contains id = false := s.contains_eq_false known
    rw [s.remove_of_not_mem known, absent]
    rfl

theorem foldl_insert_ofSet (ps : List Param) (s : ParamSet) :
    ps.foldl (fun r p => (r.insert p).1) (ofSet s) = ofSet (s.insertAll ps) := by
  induction ps generalizing s with
  | nil => rfl
  | cons p rest ih =>
    rw [List.foldl_cons, insert_ofSet, ih]
    rfl

theorem ofList_eq (ps : List Param) : ofList ps = ofSet (.ofList ps) :=
  foldl_insert_ofSet ps ∅

theorem ofList_filter (s : ParamSet) (test : Param → Bool) :
    ofList ((ofSet s).items.filter test) = ofSet (s.filter test) := by
  rw [ofList_eq]
  exact congrArg ofSet (ParamSet.ext (ParamSet.params_ofList_of_nodup (s.filter test).distinct))

theorem foldl_remove_ofSet (ps : List Param) (s : ParamSet) :
    ps.foldl (fun r p => (r.remove p.id).1) (ofSet s)
      = ofSet (s.filter fun q => !(ps.map (·.id)).contains q.id) := by
  induction ps generalizing s with
  | nil => exact congrArg ofSet (ParamSet.ext (by simp))
  | cons p rest ih =>
    rw [List.foldl_cons, remove_ofSet, ih]
    refine congrArg ofSet (ParamSet.ext ?_)
    rw [ParamSet.params_filter, ParamSet.remove, ParamSet.params_filter, List.filter_filter]
    refine List.filter_congr fun q _ => ?_
    rw [List.map_cons, List.contains_cons, Bool.not_or, Bool.and_comm]
    by_cases same : q.id = p.id <;> simp [same]

theorem removeAll_ofSet (s t : ParamSet) : (ofSet s).removeAll (ofSet t) = ofSet (s.diff t) :=
  foldl_remove_ofSet t.params s

theorem takeTextures_ofSet (s : ParamSet) :
    (ofSet s).takeTextures = (ofSet s.textures, ofSet s.withoutTextures) := by
  have left : s.diff s.textures = s.withoutTextures := by
    refine ParamSet.ext (List.filter_congr fun p hp => ?_)
    have there : p.id ∈ s.textures.ids ↔ p.type.isTexture := s.mem_ids_filter_of_mem hp
    simp [ParamSet.contains, there]
  rw [takeTextures, ofList_filter]
  exact congrArg _ ((removeAll_ofSet ..).trans (congrArg ofSet left))

theorem signals_ofSet (s : ParamSet) : (ofSet s).signals = ofSet s.signals := ofList_filter ..

theorem takeShared_ofSet (s t : ParamSet) :
    (ofSet s).takeShared (ofSet t) = (ofSet (s.inter t), ofSet (s.diff t), ofSet (t.diff s)) := by
  have shared : ofList ((ofSet s).items.filter (t.contains ·.id)) = ofSet (s.inter t) :=
    ofList_filter ..
  have left : s.diff (s.inter t) = s.diff t := s.diff_congr fun p hp => by
    have known : p.id ∈ s.ids := List.mem_map_of_mem hp
    rw [ParamSet.mem_ids_inter, and_iff_right known]
  have right : t.diff (s.inter t) = t.diff s := t.diff_congr fun p hp => by
    have known : p.id ∈ t.ids := List.mem_map_of_mem hp
    rw [ParamSet.mem_ids_inter, and_iff_left known]
  simp only [takeShared, contains_ofSet, shared, removeAll_ofSet, left, right]

/-- How two sets come apart into what they share and what is left of either: parameters keep their
order, a shared name has the parameter of the first set, and nothing is lost. -/
structure Parts (r q : IndexedParams) (parts : IndexedParams × IndexedParams × IndexedParams) :
    Prop where
  shared : parts.1.items = r.items.filter (q.contains ·.id)
  left : parts.2.1.items = r.items.filter (!q.contains ·.id)
  right : parts.2.2.items = q.items.filter (!r.contains ·.id)
  coherent : parts.1.Coherent ∧ parts.2.1.Coherent ∧ parts.2.2.Coherent
  apart : [parts.1.index, parts.2.1.index, parts.2.2.index].Pairwise Disjoint
  whole : r.index ∪ q.index = parts.1.index ∪ parts.2.1.index ∪ parts.2.2.index

theorem parts_ofSet (s t : ParamSet) : (ofSet s).Parts (ofSet t) ((ofSet s).takeShared (ofSet t)) := by
  rw [takeShared_ofSet]
  constructor
  case shared => simp only [contains_ofSet]; rfl
  case left => simp only [contains_ofSet]; rfl
  case right => simp only [contains_ofSet]; rfl
  case coherent => exact ⟨coherent_ofSet _, coherent_ofSet _, coherent_ofSet _⟩
  case apart =>
    simp only [List.pairwise_cons, List.mem_cons, List.not_mem_nil, or_false, forall_eq_or_imp,
      forall_eq, Finset.disjoint_left, mem_index_ofSet, ParamSet.mem_ids_inter,
      ParamSet.mem_ids_diff]
    grind
  case whole =>
    ext id
    simp only [Finset.mem_union, mem_index_ofSet, ParamSet.mem_ids_inter, ParamSet.mem_ids_diff]
    grind

end IndexedParams

namespace ParamSet

/-- What may be done with sets that have names. A set that is made takes the place of the one that
had its name. -/
inductive Call
  | insert (name : String) (p : Param)
  | remove (name id : String)
  | ofList (into : String) (ps : List Param)
  | ofBlocks (into : String) (blocks : List BoundBlock)
  | takeTextures (name into : String)
  | signals (name into : String)
  | takeShared (left right into : String)

open Function (update)

def Call.apply (sets : String → ParamSet) : Call → String → ParamSet
  | insert name p => update sets name ((sets name).insert p)
  | remove name id => update sets name ((sets name).remove id)
  | ofList into ps => update sets into (.ofList ps)
  | ofBlocks into blocks => update sets into (.ofList (Plan.blockParams blocks))
  | takeTextures name into =>
    let s := sets name
    update (update sets name s.withoutTextures) into s.textures
  | signals name into => update sets into (sets name).signals
  | takeShared left right into =>
    let s := sets left
    let t := sets right
    update (update (update sets left (s.diff t)) right (t.diff s)) into (s.inter t)

def Call.applyIndexed (sets : String → IndexedParams) : Call → String → IndexedParams
  | insert name p => update sets name ((sets name).insert p).1
  | remove name id => update sets name ((sets name).remove id).1
  | ofList into ps => update sets into (.ofList ps)
  | ofBlocks into blocks => update sets into (.ofList (blocks.flatMap (·.params)))
  | takeTextures name into =>
    let (textures, rest) := (sets name).takeTextures
    update (update sets name rest) into textures
  | signals name into => update sets into (sets name).signals
  | takeShared left right into =>
    let (shared, ofLeft, ofRight) := (sets left).takeShared (sets right)
    update (update (update sets left ofLeft) right ofRight) into shared

def after : List Call → String → ParamSet
  | [] => fun _ => ∅
  | call :: earlier => call.apply (after earlier)

def indexedAfter : List Call → String → IndexedParams
  | [] => fun _ => ∅
  | call :: earlier => call.applyIndexed (indexedAfter earlier)

theorem ofSet_update (sets : String → ParamSet) (name : String) (s : ParamSet) :
    update (fun name => IndexedParams.ofSet (sets name)) name (.ofSet s)
      = fun other => .ofSet (update sets name s other) :=
  funext fun other => (Function.apply_update (fun _ => IndexedParams.ofSet) sets name s other).symm

theorem Call.applyIndexed_ofSet (call : Call) (sets : String → ParamSet) :
    call.applyIndexed (fun name => .ofSet (sets name)) = fun name => .ofSet (call.apply sets name) := by
  cases call with
  | insert name p => simp only [applyIndexed, apply, IndexedParams.insert_ofSet, ofSet_update]
  | remove name id => simp only [applyIndexed, apply, IndexedParams.remove_ofSet, ofSet_update]
  | ofList into ps => simp only [applyIndexed, apply, IndexedParams.ofList_eq, ofSet_update]
  | ofBlocks into blocks =>
    simp only [applyIndexed, apply, IndexedParams.ofList_eq, ofSet_update, Plan.blockParams]
  | takeTextures name into =>
    simp only [applyIndexed, apply, IndexedParams.takeTextures_ofSet, ofSet_update]
  | signals name into => simp only [applyIndexed, apply, IndexedParams.signals_ofSet, ofSet_update]
  | takeShared left right into =>
    simp only [applyIndexed, apply, IndexedParams.takeShared_ofSet, ofSet_update]

theorem indexedAfter_eq (calls : List Call) :
    indexedAfter calls = fun name => .ofSet (after calls name) := by
  induction calls with
  | nil => rfl
  | cons call earlier ih => rw [indexedAfter, ih, call.applyIndexed_ofSet, after]

/-- Whatever is done with sets that keep an index, the index stays in step with the list, and both
are those of the set without one. A second parameter of a name is not taken in, a removal keeps the
order of the rest, and sets come apart without loss. -/
theorem calls_in_step (calls : List Call) :
    (∀ name, let r := indexedAfter calls name
      r.Coherent ∧ r = .ofSet (after calls name) ∧
      (∀ p, (r.insert p).1.items = if r.contains p.id then r.items else r.items ++ [p]) ∧
      ∀ id, (r.remove id).1.items = r.items.filter (·.id ≠ id)) ∧
    ∀ left right,
      (indexedAfter calls left).Parts (indexedAfter calls right)
        ((indexedAfter calls left).takeShared (indexedAfter calls right)) := by
  rw [indexedAfter_eq]
  refine ⟨fun name => ⟨IndexedParams.coherent_ofSet _, rfl, fun p => ?_, fun id => ?_⟩,
    fun left right => IndexedParams.parts_ofSet _ _⟩
  · rw [IndexedParams.insert_ofSet, IndexedParams.contains_ofSet]
    exact params_insert _ p
  · rw [IndexedParams.remove_ofSet]
    rfl

end ParamSet

end ParticleShaders
