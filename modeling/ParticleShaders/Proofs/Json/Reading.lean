import Mathlib.Data.List.Basic
import ParticleShaders.Json.Record
import ParticleShaders.Proofs.Dict
/-! Trees that are read back. A tree stands for what a reader makes of it if the reader makes the
same of its settled form, in which the fields of an object come in another order. Strings, flags and
free values stand for themselves, lists and maps for what their items stand for, and the object of
a record for whatever its fields determine. -/

namespace ParticleShaders.Json

section Settling

variable {Num : Type}

mutual

theorem settle?_of_canonical : ∀ {j : Json Num}, j.Canonical → j.settle? = some j
  | .array elements, h => by
    rw [settle?, settleElements?_of_canonical h]
    rfl
  | .object fields, h => by
    rw [settle?, settleFields?_of_canonical h.2, Option.map_some, Dict.entries_ofList h.1]
  | .null, _ | .bool _, _ | .number _, _ | .string _, _ => rfl

theorem settleElements?_of_canonical : ∀ {js : List (Json Num)}, CanonicalElements js →
    settleElements? js = some js
  | [], _ => rfl
  | j :: rest, h => by
    rw [settleElements?, settle?_of_canonical h.1, settleElements?_of_canonical h.2]
    rfl

theorem settleFields?_of_canonical : ∀ {fs : List (String × Json Num)}, CanonicalFields fs →
    settleFields? fs = some fs
  | [], _ => rfl
  | (name, j) :: rest, h => by
    rw [settleFields?, settle?_of_canonical h.1, settleFields?_of_canonical h.2]
    rfl

end

variable {β : Type*} {tree settled : β → Json Num}

theorem settleElements?_map (h : ∀ b, (tree b).settle? = some (settled b)) (bs : List β) :
    settleElements? (bs.map tree) = some (bs.map settled) := by
  induction bs with
  | nil => rfl
  | cons b rest ih =>
    rw [List.map_cons, settleElements?, h, ih]
    rfl

theorem settleFields?_map (name : β → String) (h : ∀ b, (tree b).settle? = some (settled b))
    (bs : List β) : settleFields? (bs.map fun b => (name b, tree b))
      = some (bs.map fun b => (name b, settled b)) := by
  induction bs with
  | nil => rfl
  | cons b rest ih =>
    rw [List.map_cons, settleFields?, h, ih]
    rfl

end Settling

theorem exists_value?_iff {j k : Json Number} :
    (∃ v, j.value? = some v ∧ v.json = k) ↔ j.settle? = some k := by
  unfold value?
  split
  · next settled => simp [settled]
  · next none => simp [none]

theorem value?_json (v : Value) : v.json.value? = some v := by
  obtain ⟨w, read, same⟩ := exists_value?_iff.2 (settle?_of_canonical v.canonical)
  rw [read, Value.ext same]

theorem isSome_value? {j : Json Number} (h : j.Canonical) : j.value?.isSome :=
  Option.isSome_iff_exists.2 ⟨⟨j, h⟩, value?_json ⟨j, h⟩⟩

variable {α : Type} {decode : Json Number → Option α} {j : Json Number} {a : α}

/-- The tree is read as `a`, as it is written and when it is settled. -/
structure Reads (decode : Json Number → Option α) (j : Json Number) (a : α) : Prop where
  written : decode j = some a
  settled : ∃ k, j.settle? = some k ∧ decode k = some a

theorem Reads.of_canonical (h : j.Canonical) (read : decode j = some a) : Reads decode j a :=
  ⟨read, j, settle?_of_canonical h, read⟩

theorem reads_string (s : String) : Reads string? (.string s) s := .of_canonical trivial rfl

theorem reads_bool (b : Bool) : Reads bool? (.bool b) b := .of_canonical trivial rfl

theorem reads_value (v : Value) : Reads value? v.json v := .of_canonical v.canonical (value?_json v)

theorem reads_case {unit : Json Number → Bool} {ofName? : String → Option α} {name : String}
    (h : ofName? name = some a) : Reads (fun j => j.case? unit >>= ofName?) (.string name) a :=
  .of_canonical trivial h

theorem mapM_map_eq_some {β γ : Type} {f : β → Option γ} {g : γ → β} (h : ∀ c, f (g c) = some c)
    (cs : List γ) : (cs.map g).mapM f = some cs := by
  induction cs with
  | nil => rfl
  | cons c rest ih => simp [h, ih]

theorem Reads.list {encode : α → Json Number} (h : ∀ a, Reads decode (encode a) a) (as : List α) :
    Reads (list? decode) (.array (as.map encode)) as := by
  choose settled settles read using fun a => (h a).settled
  refine ⟨mapM_map_eq_some (fun a => (h a).written) as, .array (as.map settled), ?_,
    mapM_map_eq_some read as⟩
  rw [settle?, settleElements?_map settles]
  rfl

theorem dict?_entries {encode : α → Json Number} (h : ∀ a, decode (encode a) = some a)
    (d : Dict α) : dict? decode (.object (d.entries.map fun e => (e.1, encode e.2))) = some d := by
  have all : (d.entries.map fun e => (e.1, encode e.2)).mapM
      (fun field => (decode field.2).map (field.1, ·)) = some d.entries :=
    mapM_map_eq_some (fun e => by simp [h]) d.entries
  rw [dict?, all, Option.map_some, Dict.ofList_entries]

theorem Reads.dict {encode : α → Json Number} (h : ∀ a, Reads decode (encode a) a) (d : Dict α) :
    Reads (dict? decode) (.object (d.entries.map fun e => (e.1, encode e.2))) d := by
  choose settled settles read using fun a => (h a).settled
  refine ⟨dict?_entries (fun a => (h a).written) d, _, ?_, dict?_entries read d⟩
  have sorted : (d.entries.map fun e => (e.1, settled e.2)).Pairwise (·.1 < ·.1) :=
    List.pairwise_map.2 d.sorted
  rw [settle?, settleFields?_map (·.1) (fun e : String × α => settles e.2), Option.map_some,
    Dict.entries_ofList sorted]

def orNull (decode : Json Number → Option α) : Json Number → Option (Option α)
  | .null => some none
  | j => (decode j).map some

theorem orNull_of_eq_some (strict : decode .null = none) (h : decode j = some a) :
    orNull decode j = some (some a) := by
  cases j with
  | null => simp [strict] at h
  | _ => simp [orNull, h]

theorem Reads.orNull {encode : α → Json Number} (strict : decode .null = none)
    (h : ∀ a, Reads decode (encode a) a) (o : Option α) :
    Reads (orNull decode) (o.elim .null encode) o := by
  cases o with
  | none => exact .of_canonical trivial rfl
  | some a =>
    obtain ⟨k, settles, read⟩ := (h a).settled
    exact ⟨orNull_of_eq_some strict (h a).written, k, settles, orNull_of_eq_some strict read⟩

namespace Record

variable {r : Record} {name : String}

theorem ofJson?_canonical {names : List String} {fields : List (String × Json Number)}
    (canonical : (object fields).Canonical) : ofJson? names (.object fields)
      = some ⟨false, fields.filter fun f => names.contains f.1⟩ := by
  have distinct : (fields.map (·.1)).Nodup :=
    List.pairwise_map.2 (canonical.1.imp fun before => String.ne_of_lt before)
  exact if_pos (distinct.sublist (List.filter_sublist.map _))

def Holds (r : Record) (name : String) (decode : Json Number → Option α) (a : α) : Prop :=
  ∃ j, r.field? name = some j ∧ decode j = some a

namespace Holds

theorem required (h : r.Holds name decode a) : r.required name decode = some a := by
  obtain ⟨j, found, read⟩ := h
  rw [Record.required, found]
  exact read

theorem withDefault (h : r.Holds name decode a) (fallback : α) :
    r.withDefault name fallback decode = some a := by
  obtain ⟨j, found, read⟩ := h
  rw [Record.withDefault, found]
  exact read

theorem optional {o : Option α} (h : r.Holds name (orNull decode) o) :
    r.optional name decode = some o := by
  obtain ⟨j, found, read⟩ := h
  rw [Record.optional, found]
  cases j <;> exact read

theorem nullable {o : Option α} (h : r.Holds name (orNull decode) o) :
    r.nullable name decode = some o := by
  have read := h.optional
  obtain ⟨j, found, -⟩ := h
  rw [Record.nullable, found, if_neg (by simp), read]

end Holds

structure Field where
  name : String
  {tree : Json Number}
  {α : Type}
  {decode : Json Number → Option α}
  {value : α}
  reads : Reads decode tree value

theorem ofJson?_object {names : List String} {fields : List (String × Json Number)}
    (known : ∀ f ∈ fields, f.1 ∈ names) (distinct : (fields.map (·.1)).Nodup) :
    ofJson? names (.object fields) = some ⟨false, fields⟩ := by
  have all : (fields.filter fun f => names.contains f.1) = fields :=
    List.filter_eq_self.2 fun f mem => List.contains_iff_mem.2 (known f mem)
  rw [ofJson?, all, if_pos distinct]

end Record

open Record (Field) in
/-- A record is read back if its fields are all that it takes: their order does not matter. -/
theorem Reads.record (fields : List Field) {read : Record → Option α}
    (distinct : (fields.map (·.name)).Nodup)
    (determined : ∀ r : Record, (fields.Forall fun f => r.Holds f.name f.decode f.value) →
      read r = some a) :
    Reads (fun j => Record.ofJson? (fields.map (·.name)) j >>= read)
      (.object (fields.map fun f => (f.name, f.tree))) a := by
  choose settled settles decodes using fun f : Field => f.reads.settled
  have names (tree : Field → Json Number) :
      (fields.map fun f => (f.name, tree f)).map (·.1) = fields.map (·.name) := List.map_map
  have known (tree : Field → Json Number) (e) (mem : e ∈ fields.map fun f => (f.name, tree f)) :
      e.1 ∈ fields.map (·.name) := names tree ▸ List.mem_map_of_mem mem
  have distinct' (tree : Field → Json Number) :
      ((fields.map fun f => (f.name, tree f)).map (·.1)).Nodup := names tree ▸ distinct
  have found (tree : Field → Json Number) (f) (mem : f ∈ fields) :
      (fields.map fun f => (f.name, tree f)).lookup f.name = some (tree f) :=
    (lookup_eq_some_iff_mem (distinct' tree)).2 (List.mem_map.2 ⟨f, mem, rfl⟩)
  refine ⟨?_, .object (Dict.ofList (fields.map fun f => (f.name, settled f))).entries, ?_, ?_⟩
  · rw [Record.ofJson?_object (known _) (distinct' _)]
    refine determined _ (List.forall_iff_forall_mem.2 fun f mem => ?_)
    exact ⟨f.tree, found _ f mem, f.reads.written⟩
  · rw [settle?, settleFields?_map _ settles]
    rfl
  · rw [Record.ofJson?_object (fun e mem => known _ e (Dict.mem_ofList mem)) (Dict.nodup_keys _)]
    refine determined _ (List.forall_iff_forall_mem.2 fun f mem => ?_)
    exact ⟨settled f, (Dict.find?_ofList (distinct' _) f.name).trans (found _ f mem), decodes f⟩

end ParticleShaders.Json
