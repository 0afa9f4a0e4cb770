import Mathlib.Data.List.Induction
import ParticleShaders.Dict

namespace ParticleShaders

theorem lookup_eq_some_iff_mem {κ α : Type} [DecidableEq κ] {entries : List (κ × α)} {key : κ}
    {value : α} (distinct : (entries.map (·.1)).Nodup) :
    entries.lookup key = some value ↔ (key, value) ∈ entries := by
  rw [List.lookup_eq_some_iff]
  constructor
  · rintro ⟨before, after, rfl, -⟩
    simp
  · intro mem
    obtain ⟨before, after, rfl⟩ := List.append_of_mem mem
    refine ⟨before, after, rfl, fun e he => ?_⟩
    rw [List.map_append, List.nodup_append] at distinct
    have other := distinct.2.2 e.1 (List.mem_map_of_mem he) key (by simp)
    simpa using other.symm

theorem lookup_filter {κ α : Type} [DecidableEq κ] (keep : κ → Bool) {key : κ} (kept : keep key)
    (entries : List (κ × α)) :
    (entries.filter (keep ·.1)).lookup key = entries.lookup key := by
  induction entries with
  | nil => rfl
  | cons e rest ih =>
    obtain ⟨name, value⟩ := e
    by_cases same : key = name
    · subst same
      simp [kept]
    · rw [List.lookup_cons, beq_eq_false_iff_ne.2 same, ← ih, List.filter_cons]
      split
      · rw [List.lookup_cons, beq_eq_false_iff_ne.2 same]
      · rfl

namespace Dict

variable {α : Type} {bindings : List (String × α)}

theorem find?_ofList (distinct : (bindings.map (·.1)).Nodup) (key : String) :
    (ofList bindings).find? key = bindings.lookup key := by
  suffices ∀ (d : Dict α), (bindings.foldl (fun d b => d.insert b.1 b.2) d).find? key
      = (bindings.lookup key).or (d.find? key) by
    simpa [ofList] using this ∅
  intro d
  induction bindings generalizing d with
  | nil => rfl
  | cons b rest ih =>
    obtain ⟨name, value⟩ := b
    obtain ⟨fresh, distinct⟩ := List.nodup_cons.1 distinct
    rw [List.foldl_cons, ih distinct, find?_insert, List.lookup_cons]
    by_cases same : key = name
    · subst same
      have none : rest.lookup key = none := List.lookup_eq_none_iff.2 fun e he => by
        have mem : e.1 ∈ rest.map (·.1) := List.mem_map_of_mem he
        simpa using fun same : key = e.1 => fresh (same ▸ mem)
      simp [none]
    · simp [same, beq_eq_false_iff_ne.2 same]

theorem nodup_keys (d : Dict α) : (d.entries.map (·.1)).Nodup :=
  List.pairwise_map.2 (d.sorted.imp fun before => String.ne_of_lt before)

theorem contains_iff {d : Dict α} {key : String} : d.contains key ↔ key ∈ d.keys := by
  simp [contains, find?, keys, List.lookup_isSome_iff]

theorem map_place_perm {key : String} {value : α} {entries : List (String × α)}
    (fresh : key ∉ entries.map (·.1)) :
    (place key value entries).map (·.1) |>.Perm (key :: entries.map (·.1)) := by
  induction entries with
  | nil => exact .refl _
  | cons e rest ih =>
    obtain ⟨other, fresh⟩ := not_or.1 (List.mem_cons.not.1 fresh)
    unfold place
    split
    · exact .refl _
    · split
      · exact ((ih fresh).cons e.1).trans (.swap key e.1 _)
      · next notBefore notAfter => exact absurd (String.le_antisymm notAfter notBefore) other

theorem keys_insert_perm {d : Dict α} {key : String} {value : α} (fresh : key ∉ d.keys) :
    (d.insert key value).keys.Perm (key :: d.keys) :=
  map_place_perm fresh

theorem place_of_last {key : String} {value : α} {entries : List (String × α)}
    (last : ∀ e ∈ entries, e.1 < key) : place key value entries = entries ++ [(key, value)] := by
  induction entries with
  | nil => rfl
  | cons e rest ih =>
    obtain ⟨before, later⟩ := List.forall_mem_cons.1 last
    rw [place, if_neg (String.lt_asymm before), if_pos before, ih later, List.cons_append]

theorem entries_ofList (sorted : bindings.Pairwise (·.1 < ·.1)) :
    (ofList bindings).entries = bindings := by
  induction bindings using List.reverseRecOn with
  | nil => rfl
  | append_singleton before b ih =>
    obtain ⟨sorted, -, last⟩ := List.pairwise_append.1 sorted
    rw [ofList, List.foldl_append]
    change place b.1 b.2 (ofList before).entries = _
    rw [ih sorted, place_of_last fun e he => last e he b (List.mem_singleton_self b)]

@[simp] theorem ofList_entries (d : Dict α) : ofList d.entries = d :=
  Dict.ext (entries_ofList d.sorted)

end Dict

end ParticleShaders
