import ParticleShaders.Dict
import ParticleShaders.Number.Binary
/-! JSON trees over a type of numbers. A tree keeps the fields of an object as they were written,
repeated names included; its settled form sorts them by name, and of a repeated name the last one
counts. -/

namespace ParticleShaders

/-- `illFormed` stands for a part of a text that has the shape of a value and none to stand for:
a number out of range, an unpaired surrogate, nesting that is too deep. Where a part of a text is
only skipped this does no harm. -/
inductive Json (Num : Type)
  | null : Json Num
  | bool : Bool → Json Num
  | number : Num → Json Num
  | string : String → Json Num
  | array : List (Json Num) → Json Num
  | object : List (String × Json Num) → Json Num
  | illFormed : Json Num
  deriving Inhabited

inductive Number
  | int (value : Int)
  | double (value : Float)
  deriving Inhabited

namespace Number

def toDouble : Number → Float
  | .int i => doubleOfInt i
  | .double x => x

def toSingle (n : Number) : Float32 := narrow n.toDouble

/-- Rounded once: an integer does not pass through a double. -/
def toSingleDirectly : Number → Float32
  | .int i => singleOfInt i
  | .double x => narrow x

end Number

namespace Json

variable {Num : Type}

mutual

def Canonical : Json Num → Prop
  | .array elements => CanonicalElements elements
  | .object fields => fields.Pairwise (·.1 < ·.1) ∧ CanonicalFields fields
  | .illFormed => False
  | .null | .bool _ | .number _ | .string _ => True

def CanonicalElements : List (Json Num) → Prop
  | [] => True
  | j :: rest => j.Canonical ∧ CanonicalElements rest

def CanonicalFields : List (String × Json Num) → Prop
  | [] => True
  | (_, j) :: rest => j.Canonical ∧ CanonicalFields rest

end

mutual

def settle? : Json Num → Option (Json Num)
  | .array elements => (settleElements? elements).map .array
  | .object fields => (settleFields? fields).map fun fs => .object (Dict.ofList fs).entries
  | .illFormed => none
  | .null => some .null
  | .bool b => some (.bool b)
  | .number n => some (.number n)
  | .string s => some (.string s)

def settleElements? : List (Json Num) → Option (List (Json Num))
  | [] => some []
  | j :: rest => do return (← j.settle?) :: (← settleElements? rest)

def settleFields? : List (String × Json Num) → Option (List (String × Json Num))
  | [] => some []
  | (name, j) :: rest => do return (name, ← j.settle?) :: (← settleFields? rest)

end

theorem canonicalFields_iff {fields : List (String × Json Num)} :
    CanonicalFields fields ↔ ∀ e ∈ fields, e.2.Canonical := by
  induction fields with
  | nil => simp [CanonicalFields]
  | cons e rest ih => simp [CanonicalFields, ih]

mutual

theorem settle?_canonical : ∀ {j k : Json Num}, j.settle? = some k → k.Canonical
  | .array elements, k, h => by
    obtain ⟨es, found, rfl⟩ := Option.map_eq_some_iff.1 h
    exact settleElements?_canonical found
  | .object fields, k, h => by
    obtain ⟨fs, found, rfl⟩ := Option.map_eq_some_iff.1 h
    refine ⟨(Dict.ofList fs).sorted, canonicalFields_iff.2 fun e he => ?_⟩
    exact canonicalFields_iff.1 (settleFields?_canonical found) e (Dict.mem_ofList he)
  | .null, k, h => by cases h; trivial
  | .bool _, k, h => by cases h; trivial
  | .number _, k, h => by cases h; trivial
  | .string _, k, h => by cases h; trivial

theorem settleElements?_canonical : ∀ {js ks : List (Json Num)},
    settleElements? js = some ks → CanonicalElements ks
  | [], ks, h => by cases h; trivial
  | j :: rest, ks, h => by
    simp only [settleElements?, Option.bind_eq_bind, Option.bind_eq_some_iff, Option.pure_def,
      Option.some.injEq] at h
    obtain ⟨k, first, more, later, rfl⟩ := h
    exact ⟨settle?_canonical first, settleElements?_canonical later⟩

theorem settleFields?_canonical : ∀ {fs gs : List (String × Json Num)},
    settleFields? fs = some gs → CanonicalFields gs
  | [], gs, h => by cases h; trivial
  | (name, j) :: rest, gs, h => by
    simp only [settleFields?, Option.bind_eq_bind, Option.bind_eq_some_iff, Option.pure_def,
      Option.some.injEq] at h
    obtain ⟨k, first, more, later, rfl⟩ := h
    exact ⟨settle?_canonical first, settleFields?_canonical later⟩

end

structure Value where
  json : Json Number
  canonical : json.Canonical

namespace Value

@[ext] theorem ext {v w : Value} (h : v.json = w.json) : v = w := by
  cases v; cases w; simp_all

def null : Value := ⟨.null, trivial⟩

instance : Inhabited Value := ⟨null⟩

def isNull (v : Value) : Bool := match v.json with
  | .null => true
  | _ => false

def bool? (v : Value) : Option Bool := match v.json with
  | .bool b => some b
  | _ => none

def number? (v : Value) : Option Number := match v.json with
  | .number n => some n
  | _ => none

def string? (v : Value) : Option String := match v.json with
  | .string s => some s
  | _ => none

end Value

def value? (j : Json Number) : Option Value :=
  match h : j.settle? with
  | some k => some ⟨k, settle?_canonical h⟩
  | none => none

end Json

end ParticleShaders
