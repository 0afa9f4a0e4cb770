import ParticleShaders.Param.Table
import ParticleShaders.Proofs.Compilation
import ParticleShaders.Proofs.Param.Acceptance

namespace ParticleShaders.ParamTable

structure Loadable (decls : List ParamDecl) : Prop where
  distinct : (decls.map (·.id)).Nodup
  accepted : ∀ d ∈ decls, ParamValue.Accepts d.type d.value.json

structure Holds (table : ParamTable) (decls : List ParamDecl) : Prop where
  names : table.keys.Perm (decls.map (·.id))
  values : ∀ d ∈ decls, ∃ x, table.find? d.id = some x ∧ ParamValue.ofJson d.type d.value = .ok x ∧
    x.type = d.type ∧ x.Keeps d.value.json

/-- What is wrong with a declaration after others. A repeated name counts only where the value is
accepted. -/
inductive FaultAt (before : List ParamDecl) (d : ParamDecl) : LoadError → Prop
  | value {cause : ParamValue.Mismatch} (rejected : ¬ParamValue.Accepts d.type d.value.json)
    (blames : cause.Blames d.type d.value) : FaultAt before d (.value d.id cause)
  | duplicate (accepted : ParamValue.Accepts d.type d.value.json)
    (repeated : d.id ∈ before.map (·.id)) : FaultAt before d (.duplicate d.id)

variable {before decls : List ParamDecl} {d : ParamDecl} {table : ParamTable} {e e' : LoadError}

theorem FaultAt.unique (h : FaultAt before d e) (h' : FaultAt before d e') : e = e' := by
  cases h with
  | value rejected blames =>
    cases h' with
    | value _ blames' => rw [blames.unique blames']
    | duplicate accepted _ => exact absurd accepted rejected
  | duplicate accepted _ =>
    cases h' with
    | value rejected _ => exact absurd accepted rejected
    | duplicate _ _ => rfl

theorem loadable_concat : Loadable (before ++ [d]) ↔
    Loadable before ∧ ParamValue.Accepts d.type d.value.json ∧ d.id ∉ before.map (·.id) := by
  have names : ((before ++ [d]).map (·.id)).Nodup ↔
      (before.map (·.id)).Nodup ∧ d.id ∉ before.map (·.id) := by
    rw [List.map_append, List.map_singleton, (List.perm_append_singleton _ _).nodup_iff,
      List.nodup_cons, and_comm]
  constructor
  · rintro ⟨distinct, accepted⟩
    obtain ⟨accepted, last⟩ := List.forall_mem_append.1 accepted
    obtain ⟨distinct, fresh⟩ := names.1 distinct
    exact ⟨⟨distinct, accepted⟩, last d (List.mem_singleton_self d), fresh⟩
  · rintro ⟨⟨distinct, accepted⟩, last, fresh⟩
    refine ⟨names.2 ⟨distinct, fresh⟩, List.forall_mem_append.2 ⟨accepted, ?_⟩⟩
    exact List.forall_mem_singleton.2 last

theorem Holds.insert {x : ParamValue} (h : Holds table before) (fresh : d.id ∉ before.map (·.id))
    (read : ParamValue.ofJson d.type d.value = .ok x) (type : x.type = d.type)
    (keeps : x.Keeps d.value.json) : Holds (table.insert d.id x) (before ++ [d]) := by
  constructor
  · have new : d.id ∉ table.keys := fun mem => fresh (h.names.mem_iff.1 mem)
    rw [List.map_append]
    exact ((Dict.keys_insert_perm new).trans (h.names.cons d.id)).trans
      (List.perm_append_singleton d.id _).symm
  · intro c mem
    rcases List.mem_append.1 mem with mem | last
    · have other : c.id ≠ d.id := fun same => fresh (same ▸ List.mem_map_of_mem mem)
      rw [Dict.find?_insert, if_neg other]
      exact h.values c mem
    · obtain rfl := List.mem_singleton.1 last
      exact ⟨x, by simp, read, type, keeps⟩

theorem declare_verdict (h : Holds table before) (d : ParamDecl) :
    Verdict (ParamValue.Accepts d.type d.value.json ∧ d.id ∉ before.map (·.id))
      (Holds · (before ++ [d])) (FaultAt before d) (declare table d) := by
  have known : table.contains d.id ↔ d.id ∈ before.map (·.id) :=
    Dict.contains_iff.trans h.names.mem_iff
  have verdict := ParamValue.ofJson_verdict d.type d.value
  unfold declare
  cases read : ParamValue.ofJson d.type d.value with
  | error cause =>
    obtain ⟨rejected, blames⟩ := verdict.of_error read
    exact .error (fun right => rejected right.1) (.value rejected blames)
  | ok x =>
    obtain ⟨accepted, type, keeps⟩ := verdict.of_ok read
    simp only
    split
    · next repeated =>
      have taken := known.1 repeated
      exact .error (fun right => right.2 taken) (.duplicate accepted taken)
    · next fresh =>
      have fresh : d.id ∉ before.map (·.id) := fun repeated => fresh (known.2 repeated)
      exact .ok ⟨accepted, fresh⟩ (h.insert fresh read type keeps)

theorem ofDecls_append (before after : List ParamDecl) :
    ofDecls (before ++ after) = ofDecls before >>= fun table => after.foldlM declare table :=
  List.foldlM_append

def FirstFault (decls : List ParamDecl) (e : LoadError) : Prop :=
  ∃ before d after, decls = before ++ d :: after ∧ Loadable before ∧ FaultAt before d e

theorem ofDecls_verdict (decls : List ParamDecl) :
    Verdict (Loadable decls) (Holds · decls) (FirstFault decls) (ofDecls decls) := by
  induction decls using List.reverseRecOn with
  | nil => exact .ok ⟨.nil, by simp⟩ ⟨.refl _, by simp⟩
  | append_singleton before d ih =>
    rw [ofDecls_append]
    cases loaded : ofDecls before with
    | error e =>
      obtain ⟨rejected, first, c, after, rfl, inOrder, fault⟩ := ih.of_error loaded
      refine .error (fun right => rejected (loadable_concat.1 right).1) ?_
      exact ⟨first, c, after ++ [d], List.append_assoc .., inOrder, fault⟩
    | ok table =>
      obtain ⟨inOrder, holds⟩ := ih.of_ok loaded
      change Verdict _ _ _ (declare table d >>= pure)
      rw [bind_pure]
      cases declared : declare table d with
      | error e =>
        obtain ⟨rejected, fault⟩ := (declare_verdict holds d).of_error declared
        refine .error (fun right => rejected (loadable_concat.1 right).2) ?_
        exact ⟨before, d, [], rfl, inOrder, fault⟩
      | ok table' =>
        obtain ⟨right, holds'⟩ := (declare_verdict holds d).of_ok declared
        exact .ok (loadable_concat.2 ⟨inOrder, right⟩) holds'

theorem FirstFault.ofDecls_eq (h : FirstFault decls e) : ofDecls decls = .error e := by
  obtain ⟨before, d, after, rfl, inOrder, fault⟩ := h
  obtain ⟨table, loaded⟩ := (ofDecls_verdict before).exists_ok_iff.2 inOrder
  have holds := ((ofDecls_verdict before).of_ok loaded).2
  -- A declaration has one fault at most, by the table of those before it.
  have rejected : declare table d = .error e := by
    cases declared : declare table d with
    | error e' =>
      obtain ⟨-, fault'⟩ := (declare_verdict holds d).of_error declared
      rw [fault.unique fault']
    | ok table' =>
      obtain ⟨⟨accepted, fresh⟩, -⟩ := (declare_verdict holds d).of_ok declared
      cases fault with
      | value rejected _ => exact absurd accepted rejected
      | duplicate _ repeated => exact absurd repeated fresh
  rw [ofDecls_append, loaded]
  change (declare table d >>= fun table => after.foldlM declare table) = _
  rw [rejected]
  rfl

/-- A list of declarations is loaded just where its names are distinct and its values accepted, the
table has one entry for each of them, and otherwise the first one at fault is reported. -/
theorem ofDecls_exact (decls : List ParamDecl) :
    ((∃ table, ofDecls decls = .ok table) ↔ Loadable decls) ∧
    (∀ table, ofDecls decls = .ok table → Holds table decls) ∧
    (∀ e, ofDecls decls = .error e ↔ FirstFault decls e) :=
  ⟨(ofDecls_verdict decls).exists_ok_iff, fun _ loaded => ((ofDecls_verdict decls).of_ok loaded).2,
    fun _ => ⟨fun failed => ((ofDecls_verdict decls).of_error failed).2, FirstFault.ofDecls_eq⟩⟩

def whole (id : String) (type : ValueType) (n : Int) : ParamDecl :=
  ⟨id, type, ⟨.number (.int n), trivial⟩⟩

theorem ofDecls_exact_bounds :
    (∃ table, ofDecls [whole "low" .int (-2147483648), whole "high" .uint 4294967295] = .ok table ∧
      Holds table [whole "low" .int (-2147483648), whole "high" .uint 4294967295]) ∧
    ofDecls [whole "low" .int (-2147483648), whole "high" .uint 4294967296, whole "low" .int 0]
      = .error (.value "high" (.outOfRange ⟨.number (.int 4294967296), trivial⟩)) := by
  have sound : Loadable [whole "low" .int (-2147483648), whole "high" .uint 4294967295] := by
    refine ⟨by decide, List.forall_mem_cons.2 ⟨?_, List.forall_mem_singleton.2 ?_⟩⟩
    · exact .inr ⟨_, rfl, by decide, by decide⟩
    · exact .inr ⟨_, rfl, by decide, by decide⟩
  constructor
  · obtain ⟨loads, holds, -⟩ := ofDecls_exact [whole "low" .int (-2147483648),
      whole "high" .uint 4294967295]
    obtain ⟨table, loaded⟩ := loads.2 sound
    exact ⟨table, loaded, holds table loaded⟩
  · refine ((ofDecls_exact _).2.2 _).2
      ⟨[whole "low" .int (-2147483648)], whole "high" .uint 4294967296, [whole "low" .int 0], rfl,
        ⟨by decide, List.forall_mem_singleton.2 (.inr ⟨_, rfl, by decide, by decide⟩)⟩, ?_⟩
    refine .value ?_ ⟨rfl, .inr rfl, _, rfl⟩
    rintro (null | ⟨i, same, -, high⟩)
    · cases null
    · cases same
      exact absurd high (by decide)

end ParticleShaders.ParamTable
