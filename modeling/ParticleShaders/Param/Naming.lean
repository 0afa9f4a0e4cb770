import ParticleShaders.Param.Set

namespace ParticleShaders

structure Naming where
  entries : List (String × String)
  distinct : (entries.map (·.1)).Nodup

namespace Naming

instance : EmptyCollection Naming := ⟨⟨[], by simp⟩⟩

instance : Inhabited Naming := ⟨∅⟩

@[ext] theorem ext {m n : Naming} (h : m.entries = n.entries) : m = n := by
  cases m; cases n; simp_all

def ids (n : Naming) : List String := n.entries.map (·.1)

def find? (n : Naming) (id : String) : Option String := n.entries.lookup id

def size (n : Naming) : Nat := n.entries.length

def isEmpty (n : Naming) : Bool := n.entries.isEmpty

def unnamed (n : Naming) (s : ParamSet) : List Param :=
  s.params.filter fun p => !n.ids.contains p.id

theorem nodup_unnamed (n : Naming) (s : ParamSet) : ((n.unnamed s).map (·.id)).Nodup :=
  s.distinct.sublist (List.filter_sublist.map _)

def number (stem : String) (ps : List Param) : List (String × String) :=
  ps.mapIdx fun i p => (p.id, stem ++ toString i)

theorem ids_number (stem : String) (ps : List Param) :
    (number stem ps).map (·.1) = ps.map (·.id) := by
  rw [number, List.mapIdx_eq_zipIdx_map, List.map_map]
  conv => rhs; rw [← List.zipIdx_map_fst 0 ps, List.map_map]
  rfl

def nameAll (n : Naming) (s : ParamSet) (stem : String) : Naming where
  entries := n.entries ++ number stem (n.unnamed s)
  distinct := by
    rw [List.map_append, ids_number, List.nodup_append]
    refine ⟨n.distinct, n.nodup_unnamed s, fun a ha b hb => ?_⟩
    rintro rfl
    obtain ⟨p, hp, rfl⟩ := List.mem_map.1 hb
    simp [unnamed, ids] at hp
    obtain ⟨e, he, same⟩ := List.mem_map.1 ha
    exact hp.2 e.2 (same ▸ he)

def nameOf (n : Naming) (id : String) : String := (n.find? id).getD id

end Naming

end ParticleShaders
