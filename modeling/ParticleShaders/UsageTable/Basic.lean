import ParticleShaders.Attribute
import ParticleShaders.Block.Bound
import ParticleShaders.Usage

namespace ParticleShaders

structure UsageTable where
  entries : List (Attribute × Usage)
  distinct : (entries.map (·.1)).Nodup

namespace UsageTable

instance : EmptyCollection UsageTable := ⟨⟨[], .nil⟩⟩

instance : Inhabited UsageTable := ⟨∅⟩

@[ext] theorem ext {t u : UsageTable} (h : t.entries = u.entries) : t = u := by
  cases t; cases u; simp_all

def attributes (t : UsageTable) : List Attribute := t.entries.map (·.1)

def find? (t : UsageTable) (a : Attribute) : Option Usage := t.entries.lookup a

def contains (t : UsageTable) (a : Attribute) : Bool := t.attributes.contains a

def size (t : UsageTable) : Nat := t.entries.length

def join (a : Attribute) (u : Usage) : List (Attribute × Usage) → List (Attribute × Usage)
  | [] => [(a, u)]
  | e :: rest => if e.1 = a then (a, e.2 ∪ u) :: rest else e :: join a u rest

theorem attributes_join (a : Attribute) (u : Usage) (entries : List (Attribute × Usage)) :
    (join a u entries).map (·.1)
      = if a ∈ entries.map (·.1) then entries.map (·.1) else entries.map (·.1) ++ [a] := by
  induction entries with
  | nil => simp [join]
  | cons e rest ih =>
    unfold join
    split
    · next same => simp [same]
    · next other =>
      have other : a ≠ e.1 := fun h => other h.symm
      by_cases h : a ∈ rest.map (·.1) <;> simp_all

theorem nodup_join (a : Attribute) (u : Usage) {entries : List (Attribute × Usage)}
    (h : (entries.map (·.1)).Nodup) : ((join a u entries).map (·.1)).Nodup := by
  rw [attributes_join]
  split
  · exact h
  · next fresh =>
    refine List.nodup_append.2 ⟨h, by simp, fun b hb c hc => ?_⟩
    rintro rfl
    exact fresh (List.mem_singleton.1 hc ▸ hb)

def add (t : UsageTable) (a : Attribute) (u : Usage) : UsageTable :=
  ⟨join a u t.entries, nodup_join a u t.distinct⟩

def addAll (t : UsageTable) (uses : List (Attribute × Usage)) : UsageTable :=
  uses.foldl (fun t use => t.add use.1 use.2) t

def merge (t other : UsageTable) : UsageTable := t.addAll other.entries

def ofBlocks (stage : Stage) (blocks : List BoundBlock) : UsageTable :=
  addAll ∅ (blocks.flatMap fun b =>
    b.descriptor.attributes.map fun d => (d.toAttribute, .declared stage d.writable))

/-- The first attribute that has the name of an earlier one, after that one. -/
def conflict? : List Attribute → List Attribute → Option (Attribute × Attribute)
  | _, [] => none
  | seen, a :: rest =>
    match seen.find? (·.name = a.name) with
    | some first => some (first, a)
    | none => conflict? (a :: seen) rest

def checkNames (t : UsageTable) : Except Rejection Unit :=
  match conflict? [] t.attributes with
  | some (first, second) => .error (.twoTypes first.name first.type second.type)
  | none => .ok ()

@[simp] theorem attributes_add (t : UsageTable) (a : Attribute) (u : Usage) :
    (t.add a u).attributes = if a ∈ t.attributes then t.attributes else t.attributes ++ [a] :=
  attributes_join a u t.entries

end UsageTable

end ParticleShaders
