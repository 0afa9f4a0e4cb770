import Mathlib.Data.List.Nodup
import ParticleShaders.Param.Naming
import ParticleShaders.Proofs.Dict

namespace ParticleShaders

theorem isDigit_of_mem_toString {n : Nat} {c : Char} (h : c ∈ (toString n).toList) :
    c.isDigit := by
  rw [Nat.toString_eq_repr, Nat.toList_repr] at h
  exact Nat.isDigit_of_mem_toDigits (by decide) (by decide) h

namespace Naming

variable {stem other : String} {m n : Nat}

def IsStem (stem : String) : Prop := stem.toList.all (!·.isDigit)

theorem letters_numbered (h : IsStem stem) :
    (stem ++ toString n).toList.filter (!·.isDigit) = stem.toList := by
  have letters : stem.toList.filter (!·.isDigit) = stem.toList :=
    List.filter_eq_self.2 (List.all_eq_true.1 h)
  have digits : (toString n).toList.filter (!·.isDigit) = [] :=
    List.filter_eq_nil_iff.2 fun c hc => by simpa using isDigit_of_mem_toString hc
  rw [String.toList_append, List.filter_append, letters, digits, List.append_nil]

theorem numbered_inj (h : IsStem stem) (h' : IsStem other)
    (same : stem ++ toString m = other ++ toString n) : stem = other ∧ m = n := by
  have stems : stem = other := by
    rw [← String.toList_inj, ← letters_numbered h (n := m), same, letters_numbered h']
  subst stems
  have numbers := congrArg String.toList ((String.append_right_inj _).1 same)
  have values := congrArg (Nat.ofDigitChars 10 · 0) numbers
  exact ⟨rfl, by simpa using values⟩

theorem mem_number {ps : List Param} {id name : String} : (id, name) ∈ number stem ps ↔
    ∃ (i : Nat) (p : Param), ps[i]? = some p ∧ p.id = id ∧ name = stem ++ toString i := by
  simp only [number, List.mem_mapIdx, Prod.mk.injEq, List.getElem?_eq_some_iff]
  constructor
  · rintro ⟨i, bound, rfl, rfl⟩
    exact ⟨i, _, ⟨bound, rfl⟩, rfl, rfl⟩
  · rintro ⟨i, p, ⟨bound, rfl⟩, rfl, rfl⟩
    exact ⟨i, bound, rfl, rfl⟩

theorem nodup_names_number (h : IsStem stem) (ps : List Param) :
    ((number stem ps).map (·.2)).Nodup := by
  have names : (number stem ps).map (·.2) = (List.range ps.length).map (stem ++ toString ·) := by
    rw [number, List.mapIdx_eq_zipIdx_map, List.map_map, List.range_eq_range',
      ← List.zipIdx_map_snd 0 ps, List.map_map]
    rfl
  rw [names]
  exact List.nodup_range.map fun m n same => (numbered_inj h h same).2

theorem find?_eq_some_iff {names : Naming} {id name : String} :
    names.find? id = some name ↔ (id, name) ∈ names.entries :=
  lookup_eq_some_iff_mem names.distinct

theorem nameOf_eq {names : Naming} {id name : String} (h : (id, name) ∈ names.entries) :
    names.nameOf id = name := by
  rw [nameOf, find?_eq_some_iff.2 h]
  rfl

theorem map_nameOf {names : Naming} {ps : List Param}
    (named : ∀ e ∈ number stem ps, e ∈ names.entries) :
    ps.map (names.nameOf ·.id) = (number stem ps).map (·.2) :=
  calc
    ps.map (names.nameOf ·.id) = (ps.map (·.id)).map names.nameOf := by rw [List.map_map]; rfl
    _ = ((number stem ps).map (·.1)).map names.nameOf := by rw [ids_number]
    _ = (number stem ps).map (names.nameOf ·.1) := by rw [List.map_map]; rfl
    _ = (number stem ps).map (·.2) := List.map_congr_left fun e he => nameOf_eq (named e he)

theorem entries_nameAll (names : Naming) (s : ParamSet) (stem : String) :
    (names.nameAll s stem).entries = names.entries ++ number stem (names.unnamed s) := rfl

theorem ids_nameAll (names : Naming) (s : ParamSet) (stem : String) :
    (names.nameAll s stem).ids = names.ids ++ (names.unnamed s).map (·.id) := by
  rw [ids, entries_nameAll, List.map_append, ids_number]
  rfl

def nameSets (names : Naming) (sets : List (ParamSet × String)) : Naming :=
  sets.foldl (fun names s => names.nameAll s.1 s.2) names

theorem unnamed_eq {names : Naming} {s : ParamSet} (fresh : ∀ id ∈ s.ids, id ∉ names.ids) :
    names.unnamed s = s.params := by
  rw [unnamed, List.filter_eq_self]
  intro p hp
  simpa using fresh p.id (List.mem_map_of_mem hp)

theorem entries_nameSets {names : Naming} {sets : List (ParamSet × String)}
    (fresh : (names.ids ++ sets.flatMap (·.1.ids)).Nodup) :
    (names.nameSets sets).entries
      = names.entries ++ sets.flatMap fun s => number s.2 s.1.params := by
  induction sets generalizing names with
  | nil => simp [nameSets]
  | cons s rest ih =>
    rw [List.flatMap_cons, ← List.append_assoc] at fresh
    have apart := (List.nodup_append.1 fresh).1
    have unnamed := unnamed_eq fun id hs hn =>
      (List.nodup_append.1 apart).2.2 id hn id hs rfl
    have entries : (names.nameAll s.1 s.2).entries = names.entries ++ number s.2 s.1.params := by
      rw [entries_nameAll, unnamed]
    have ids : (names.nameAll s.1 s.2).ids = names.ids ++ s.1.ids := by
      rw [ids_nameAll, unnamed]
      rfl
    rw [← ids] at fresh
    show ((names.nameAll s.1 s.2).nameSets rest).entries = _
    rw [ih fresh, entries, List.flatMap_cons, List.append_assoc]

end Naming

end ParticleShaders
