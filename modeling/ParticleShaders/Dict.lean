/-! Finite maps from names. The entries stand in strictly increasing order of their names, so two
maps with the same entries are equal, and the order of a listing is the order of the names. -/

namespace ParticleShaders

structure Dict (α : Type) where
  entries : List (String × α)
  sorted : entries.Pairwise (·.1 < ·.1)

namespace Dict

variable {α β : Type}

instance : EmptyCollection (Dict α) := ⟨⟨[], .nil⟩⟩

instance : Inhabited (Dict α) := ⟨∅⟩

@[ext] theorem ext {d e : Dict α} (h : d.entries = e.entries) : d = e := by
  cases d; cases e; simp_all

def place (key : String) (value : α) : List (String × α) → List (String × α)
  | [] => [(key, value)]
  | entry :: rest =>
    if key < entry.1 then (key, value) :: entry :: rest
    else if entry.1 < key then entry :: place key value rest
    else (key, value) :: rest

theorem mem_place {key : String} {value : α} {entries : List (String × α)} {e : String × α}
    (h : e ∈ place key value entries) : e = (key, value) ∨ e ∈ entries := by
  induction entries with
  | nil => simp_all [place]
  | cons entry rest ih =>
    unfold place at h
    split at h
    · simpa using h
    · split at h
      · rcases List.mem_cons.1 h with rfl | h
        · simp
        · exact (ih h).imp_right (List.mem_cons_of_mem _)
      · exact (List.mem_cons.1 h).imp_right (List.mem_cons_of_mem _)

theorem pairwise_place (key : String) (value : α) {entries : List (String × α)}
    (h : entries.Pairwise (·.1 < ·.1)) : (place key value entries).Pairwise (·.1 < ·.1) := by
  induction entries with
  | nil => simp [place]
  | cons entry rest ih =>
    obtain ⟨first, later⟩ := List.pairwise_cons.1 h
    unfold place
    split
    · next before =>
      refine List.pairwise_cons.2 ⟨fun e he => ?_, h⟩
      rcases List.mem_cons.1 he with rfl | he
      · exact before
      · exact String.lt_trans before (first e he)
    · split
      · next after =>
        refine List.pairwise_cons.2 ⟨fun e he => ?_, ih later⟩
        rcases mem_place he with rfl | he
        · exact after
        · exact first e he
      · next notBefore notAfter =>
        have same : key = entry.1 := String.le_antisymm notAfter notBefore
        exact List.pairwise_cons.2 ⟨fun e he => same ▸ first e he, later⟩

def insert (d : Dict α) (key : String) (value : α) : Dict α :=
  ⟨place key value d.entries, pairwise_place key value d.sorted⟩

def ofList (bindings : List (String × α)) : Dict α :=
  bindings.foldl (fun d b => d.insert b.1 b.2) ∅

def find? (d : Dict α) (key : String) : Option α :=
  d.entries.lookup key

def contains (d : Dict α) (key : String) : Bool :=
  (d.find? key).isSome

def keys (d : Dict α) : List String := d.entries.map (·.1)

def size (d : Dict α) : Nat := d.entries.length

def isEmpty (d : Dict α) : Bool := d.entries.isEmpty

theorem lookup_place (key other : String) (value : α) (entries : List (String × α)) :
    (place key value entries).lookup other
      = if other = key then some value else entries.lookup other := by
  induction entries with
  | nil => by_cases h : other = key <;> simp [place, h]
  | cons entry rest ih =>
    obtain ⟨name, bound⟩ := entry
    unfold place
    split
    · by_cases h : other = key <;> simp [List.lookup_cons, beq_eq_false_iff_ne.2, h]
    · split
      · next after =>
        by_cases h : other = name
        · have distinct : name ≠ key := fun same => String.lt_irrefl key (same ▸ after)
          simp [h, distinct]
        · simp [List.lookup_cons, ih, beq_eq_false_iff_ne.2 h]
      · next notBefore notAfter =>
        have same : key = name := String.le_antisymm notAfter notBefore
        by_cases h : other = key
        · simp [h]
        · simp [List.lookup_cons, h, ← same, beq_eq_false_iff_ne.2 h]

@[simp] theorem find?_empty (key : String) : (∅ : Dict α).find? key = none := rfl

@[simp] theorem find?_insert (d : Dict α) (key other : String) (value : α) :
    (d.insert key value).find? other = if other = key then some value else d.find? other :=
  lookup_place key other value d.entries

theorem mem_ofList {bindings : List (String × α)} {e : String × α}
    (h : e ∈ (ofList bindings).entries) : e ∈ bindings := by
  suffices ∀ (d : Dict α), e ∈ (bindings.foldl (fun d b => d.insert b.1 b.2) d).entries →
      e ∈ d.entries ∨ e ∈ bindings by
    simpa [EmptyCollection.emptyCollection] using this ∅ h
  intro d
  clear h
  induction bindings generalizing d with
  | nil => simp
  | cons b rest ih =>
    intro h
    rcases ih _ h with h | h
    · rcases mem_place h with rfl | h
      · simp
      · exact .inl h
    · simp [h]

end Dict

end ParticleShaders
