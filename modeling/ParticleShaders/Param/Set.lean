import ParticleShaders.Param.Basic
/-! Sets of parameters in the order of insertion. A parameter is known by its name: a second one of
a name is not taken in. -/

namespace ParticleShaders

structure ParamSet where
  params : List Param
  distinct : (params.map (·.id)).Nodup

namespace ParamSet

instance : EmptyCollection ParamSet := ⟨⟨[], .nil⟩⟩

instance : Inhabited ParamSet := ⟨∅⟩

@[ext] theorem ext {s t : ParamSet} (h : s.params = t.params) : s = t := by
  cases s; cases t; simp_all

def ids (s : ParamSet) : List String := s.params.map (·.id)

def contains (s : ParamSet) (id : String) : Bool := s.ids.contains id

def size (s : ParamSet) : Nat := s.params.length

def isEmpty (s : ParamSet) : Bool := s.params.isEmpty

def insert (s : ParamSet) (p : Param) : ParamSet :=
  if h : p.id ∈ s.ids then s
  else
    { params := s.params ++ [p]
      distinct := by
        rw [List.map_append, List.nodup_append]
        refine ⟨s.distinct, by simp, fun a ha b hb => ?_⟩
        rintro rfl
        have same : a = p.id := by simpa using hb
        exact h (same ▸ ha) }

def filter (s : ParamSet) (test : Param → Bool) : ParamSet :=
  ⟨s.params.filter test, s.distinct.sublist (List.filter_sublist.map _)⟩

def remove (s : ParamSet) (id : String) : ParamSet := s.filter (·.id ≠ id)

def insertAll (s : ParamSet) (ps : List Param) : ParamSet := ps.foldl insert s

def ofList (ps : List Param) : ParamSet := (∅ : ParamSet).insertAll ps

def textures (s : ParamSet) : ParamSet := s.filter (·.type.isTexture)

def withoutTextures (s : ParamSet) : ParamSet := s.filter (!·.type.isTexture)

def signals (s : ParamSet) : ParamSet := s.filter (·.type.isSignal)

def inter (s t : ParamSet) : ParamSet := s.filter (t.contains ·.id)

def diff (s t : ParamSet) : ParamSet := s.filter (!t.contains ·.id)

@[simp] theorem ids_insert (s : ParamSet) (p : Param) :
    (s.insert p).ids = if p.id ∈ s.ids then s.ids else s.ids ++ [p.id] := by
  unfold insert
  split <;> simp [ids]

@[simp] theorem params_filter (s : ParamSet) (test : Param → Bool) :
    (s.filter test).params = s.params.filter test := rfl

end ParamSet

end ParticleShaders
