import Mathlib.Algebra.Group.Int.Defs
import ParticleShaders.Param.Value
import ParticleShaders.Proofs.Json.Reading

namespace ParticleShaders

section

variable {α β : Type} {f : α → Option β}

theorem isSome_mapM (l : List α) : (l.mapM f).isSome ↔ ∀ a ∈ l, (f a).isSome := by
  induction l with
  | nil => simp
  | cons a rest ih =>
    rw [List.forall_mem_cons, ← ih, List.mapM_cons]
    cases f a <;> cases rest.mapM f <;> simp

theorem forall₂_of_mapM_eq_some :
    ∀ {xs : List α} {ys : List β}, xs.mapM f = some ys → List.Forall₂ (f · = some ·) xs ys
  | [], ys, h => by
    cases h
    exact .nil
  | x :: xs, ys, h => by
    rw [List.mapM_cons] at h
    obtain ⟨y, hy, h⟩ := Option.bind_eq_some_iff.1 h
    obtain ⟨zs, hzs, h⟩ := Option.bind_eq_some_iff.1 h
    cases h
    exact .cons hy (forall₂_of_mapM_eq_some hzs)

end

/-- How a check of some input comes out: the input is right and gives a result with all that is
promised of it, or it is wrong and gives a fault that is to blame. -/
inductive Verdict {ε α : Type} (right : Prop) (promised : α → Prop) (blamed : ε → Prop) :
    Except ε α → Prop
  | ok {x : α} (accepted : right) (keeps : promised x) : Verdict right promised blamed (.ok x)
  | error {e : ε} (rejected : ¬right) (blames : blamed e) :
    Verdict right promised blamed (.error e)

namespace Verdict

variable {ε α β : Type} {right : Prop} {promised : α → Prop} {blamed : ε → Prop} {r : Except ε α}

theorem exists_ok_iff (v : Verdict right promised blamed r) : (∃ x, r = .ok x) ↔ right := by
  cases v with
  | ok accepted keeps => exact iff_of_true ⟨_, rfl⟩ accepted
  | error rejected blames => exact iff_of_false nofun rejected

theorem of_ok {x : α} (v : Verdict right promised blamed r) (h : r = .ok x) :
    right ∧ promised x := by
  subst h
  cases v with
  | ok accepted keeps => exact ⟨accepted, keeps⟩

theorem of_error {e : ε} (v : Verdict right promised blamed r) (h : r = .error e) :
    ¬right ∧ blamed e := by
  subst h
  cases v with
  | error rejected blames => exact ⟨rejected, blames⟩

theorem map {f : α → β} {kept : β → Prop} {accused : ε → Prop}
    (v : Verdict right promised blamed r) (keep : ∀ x, promised x → kept (f x))
    (accuse : ∀ e, blamed e → accused e) : Verdict right kept accused (r.map f) := by
  cases v with
  | ok accepted keeps => exact .ok accepted (keep _ keeps)
  | error rejected blames => exact .error rejected (accuse _ blames)

end Verdict

namespace Json

theorem canonicalElements_iff {Num : Type} {elements : List (Json Num)} :
    CanonicalElements elements ↔ ∀ j ∈ elements, j.Canonical := by
  induction elements with
  | nil => simp [CanonicalElements]
  | cons j rest ih => simp [CanonicalElements, ih]

def IsListOf (p : Json Number → Prop) (j : Json Number) : Prop :=
  ∃ elements, j = .array elements ∧ ∀ e ∈ elements, p e

inductive IsPair (first second : String) (p q : Json Number → Prop) : Json Number → Prop
  | object {fields : List (String × Json Number)} {x y : Json Number}
    (atFirst : fields.lookup first = some x) (atSecond : fields.lookup second = some y)
    (left : p x) (right : q y) : IsPair first second p q (.object fields)
  | array {x y : Json Number} (left : p x) (right : q y) : IsPair first second p q (.array [x, y])

variable {α β γ : Type} {f : Json Number → Option α} {g : Json Number → Option β}
  {p q : Json Number → Prop} {j : Json Number}

theorem isSome_list? (canonical : j.Canonical)
    (reads : ∀ e : Json Number, e.Canonical → ((f e).isSome ↔ p e)) :
    (list? f j).isSome ↔ IsListOf p j := by
  cases j with
  | array elements =>
    have all : IsListOf p (.array elements) ↔ ∀ e ∈ elements, p e := by simp [IsListOf]
    rw [list?, isSome_mapM, all]
    exact forall₂_congr fun e mem => reads e (canonicalElements_iff.1 canonical e mem)
  | _ => simp [list?, IsListOf]

theorem Value.isNull_iff (v : Value) : v.isNull ↔ v.json = .null := by
  unfold isNull
  split <;> simp_all

namespace Record

theorem isSome_pair {first second : String} {make : α → β → γ} (apart : second ≠ first)
    (canonical : j.Canonical) (left : ∀ x, (f x).isSome ↔ p x) (right : ∀ y, (g y).isSome ↔ q y) :
    (do
      let record ← ofJson? [first, second] j
      return make (← record.required first f) (← record.required second g) : Option γ).isSome ↔
      IsPair first second p q j := by
  obtain rfl : (fun x => ((f x).isSome : Prop)) = p := funext fun x => propext (left x)
  obtain rfl : (fun y => ((g y).isSome : Prop)) = q := funext fun y => propext (right y)
  cases j with
  | object fields =>
    rw [ofJson?_canonical canonical]
    simp only [Option.bind_eq_bind, Option.bind_some, required, field?]
    rw [lookup_filter [first, second].contains (by simp),
      lookup_filter [first, second].contains (by simp)]
    constructor
    · intro read
      obtain ⟨c, read⟩ := Option.isSome_iff_exists.1 read
      simp only [Option.pure_def, Option.bind_eq_some_iff] at read
      obtain ⟨a, ⟨x, atFirst, left⟩, b, ⟨y, atSecond, right⟩, -⟩ := read
      exact .object atFirst atSecond (by simp [left]) (by simp [right])
    · rintro ⟨atFirst, atSecond, left, right⟩
      obtain ⟨a, left⟩ := Option.isSome_iff_exists.1 left
      obtain ⟨b, right⟩ := Option.isSome_iff_exists.1 right
      simp [atFirst, atSecond, left, right]
  | array elements =>
    have other : (second == first) = false := beq_eq_false_iff_ne.2 apart
    rcases elements with _ | ⟨x, _ | ⟨y, _ | ⟨z, rest⟩⟩⟩
    · exact iff_of_false (by simp [ofJson?, required, field?]) fun pair => by cases pair
    · exact iff_of_false (by simp [ofJson?, required, field?, List.lookup_cons, other])
        fun pair => by cases pair
    · have both : IsPair first second (fun x => (f x).isSome) (fun y => (g y).isSome)
          (.array [x, y]) ↔ (f x).isSome ∧ (g y).isSome := by
        constructor
        · rintro (_ | ⟨left, right⟩)
          exact ⟨left, right⟩
        · rintro ⟨left, right⟩
          exact .array left right
      rw [both]
      cases left : f x <;> cases right : g y <;>
        simp [ofJson?, required, field?, List.lookup_cons, other, left, right]
    · exact iff_of_false (by simp [ofJson?]) fun pair => by cases pair
  | _ => exact iff_of_false (by simp [ofJson?]) fun pair => by cases pair

end Record

end Json

namespace ParamValue

def IsNumber (j : Json Number) : Prop := ∃ n, j = .number n

def IsColor (j : Json Number) : Prop :=
  ∃ r g b a : Number, j = .array [.number r, .number g, .number b, .number a]

def IsVector (j : Json Number) : Prop := j = .null ∨ ∃ elements, j = .array elements

def IsInteger (low high : Int) (j : Json Number) : Prop :=
  j = .null ∨ ∃ i : Int, j = .number (.int i) ∧ low ≤ i ∧ i < high

def Accepts : ValueType → Json Number → Prop
  | .float, _ | .texture2D, _ | .texture3D, _ => True
  | .float2, j | .float3, j | .float4, j | .transform, j => IsVector j
  | .int, j => IsInteger (-2 ^ 31) (2 ^ 31) j
  | .uint, j => IsInteger 0 (2 ^ 32) j
  | .colorGradient, j => j.IsListOf (Json.IsPair "time" "color" IsNumber IsColor)
  | .curve, j => j.IsListOf (Json.IsPair "time" "value" IsNumber IsNumber)

def Keeps (j : Json Number) : ParamValue → Prop
  | .int i => j = .null ∧ i = 0 ∨ j = .number (.int i.toInt)
  | .uint n => j = .null ∧ n = 0 ∨ j = .number (.int n.toNat)
  | _ => True

def width? : ValueType → Option Nat
  | .float2 => some 2
  | .float3 => some 3
  | .float4 => some 4
  | .transform => some 16
  | _ => none

def Mismatch.Blames (type : ValueType) (v : Json.Value) : Mismatch → Prop
  | .notNumbers count found => found = v ∧ width? type = some count
  | .notInteger found =>
    found = v ∧ (type = .int ∨ type = .uint) ∧ ¬∃ i : Int, v.json = .number (.int i)
  | .outOfRange found =>
    found = v ∧ (type = .int ∨ type = .uint) ∧ ∃ i : Int, v.json = .number (.int i)
  | .gradientKeys => type = .colorGradient
  | .curveKeys => type = .curve

theorem Mismatch.Blames.unique {type : ValueType} {v : Json.Value} {c d : Mismatch}
    (h : c.Blames type v) (h' : d.Blames type v) : c = d := by
  cases type <;> cases c <;> cases d <;> simp_all [Blames, width?]

variable {j : Json Number} {v : Json.Value}

theorem isSome_keyNumber? : (keyNumber? j).isSome ↔ IsNumber j := by
  cases j <;> simp [keyNumber?, IsNumber]

theorem isSome_color? : (color? j).isSome ↔ IsColor j := by
  constructor
  · intro read
    obtain ⟨color, read⟩ := Option.isSome_iff_exists.1 read
    obtain ⟨singles, listed, four⟩ := Option.bind_eq_some_iff.1 read
    split at four
    · cases j with
      | array elements =>
        obtain ⟨⟩ | ⟨hr, ⟨⟩ | ⟨hg, ⟨⟩ | ⟨hb, ⟨⟩ | ⟨ha, ⟨⟩⟩⟩⟩⟩ := forall₂_of_mapM_eq_some listed
        obtain ⟨r, rfl⟩ := isSome_keyNumber?.1 (Option.isSome_of_eq_some hr)
        obtain ⟨g, rfl⟩ := isSome_keyNumber?.1 (Option.isSome_of_eq_some hg)
        obtain ⟨b, rfl⟩ := isSome_keyNumber?.1 (Option.isSome_of_eq_some hb)
        obtain ⟨a, rfl⟩ := isSome_keyNumber?.1 (Option.isSome_of_eq_some ha)
        exact ⟨r, g, b, a, rfl⟩
      | _ => cases listed
    · cases four
  · rintro ⟨r, g, b, a, rfl⟩
    rfl

theorem numbers_verdict (count : Nat) (v : Json.Value) :
    Verdict (IsVector v.json) (fun _ => True) (· = .notNumbers count v) (numbers count v) := by
  unfold numbers
  split
  · next elements found => exact .ok (.inr ⟨elements, found⟩) trivial
  · next found => exact .ok (.inl found) trivial
  · next notArray notNull =>
    exact .error (fun h => h.elim notNull fun ⟨elements, found⟩ => notArray elements found) rfl

theorem matrix_verdict (v : Json.Value) :
    Verdict (IsVector v.json) (fun _ => True) (· = .notNumbers 16 v) (matrix v) := by
  unfold matrix
  split
  · next null => exact .ok (.inl (v.isNull_iff.1 null)) trivial
  · exact numbers_verdict 16 v

theorem integer_verdict (low high : Int) (v : Json.Value) :
    Verdict (IsInteger low high v.json)
      (fun i => v.json = .null ∧ i = 0 ∨ v.json = .number (.int i) ∧ low ≤ i ∧ i < high)
      (fun c => c = .outOfRange v ∧ (∃ i : Int, v.json = .number (.int i)) ∨
        c = .notInteger v ∧ ¬∃ i : Int, v.json = .number (.int i))
      (integer low high v) := by
  unfold integer
  split
  · next null => exact .ok (.inl null) (.inl ⟨null, rfl⟩)
  · next i found =>
    split
    · next within => exact .ok (.inr ⟨i, found, within⟩) (.inr ⟨found, within⟩)
    · next beyond =>
      refine .error ?_ (.inl ⟨rfl, i, found⟩)
      rintro (null | ⟨k, same, within⟩)
      · exact nomatch found.symm.trans null
      · obtain ⟨⟩ : Json.number (Number.int i) = Json.number (Number.int k) := found.symm.trans same
        exact beyond within
  · next notNull notInteger =>
    have other : ¬∃ i : Int, v.json = .number (.int i) := fun ⟨i, found⟩ => notInteger i found
    exact .error (fun h => h.elim notNull fun ⟨i, found, _⟩ => other ⟨i, found⟩)
      (.inr ⟨rfl, other⟩)

theorem isSome_gradientKey? (canonical : j.Canonical) :
    (gradientKey? j).isSome ↔ Json.IsPair "time" "color" IsNumber IsColor j :=
  Json.Record.isSome_pair (by decide) canonical (fun _ => isSome_keyNumber?) fun _ => isSome_color?

theorem isSome_curveKey? (canonical : j.Canonical) :
    (curveKey? j).isSome ↔ Json.IsPair "time" "value" IsNumber IsNumber j :=
  Json.Record.isSome_pair (by decide) canonical (fun _ => isSome_keyNumber?)
    fun _ => isSome_keyNumber?

theorem int_keeps (i : Int)
    (h : v.json = .null ∧ i = 0 ∨ v.json = .number (.int i) ∧ -2 ^ 31 ≤ i ∧ i < 2 ^ 31) :
    (int (.ofInt i)).type = .int ∧ (int (.ofInt i)).Keeps v.json := by
  rcases h with ⟨null, rfl⟩ | ⟨found, low, high⟩
  · exact ⟨rfl, .inl ⟨null, rfl⟩⟩
  · refine ⟨rfl, .inr ?_⟩
    rw [Int32.toInt_ofInt_of_le low high]
    exact found

theorem uint_keeps (i : Int)
    (h : v.json = .null ∧ i = 0 ∨ v.json = .number (.int i) ∧ 0 ≤ i ∧ i < 2 ^ 32) :
    (uint (.ofNat i.toNat)).type = .uint ∧ (uint (.ofNat i.toNat)).Keeps v.json := by
  rcases h with ⟨null, rfl⟩ | ⟨found, low, high⟩
  · exact ⟨rfl, .inl ⟨null, rfl⟩⟩
  · refine ⟨rfl, .inr ?_⟩
    have within : i.toNat < 2 ^ 32 := by omega
    rw [UInt32.toNat_ofNat_of_lt' within, Int.toNat_of_nonneg low]
    exact found

theorem blames_integer {type : ValueType} {c : Mismatch} (whole : type = .int ∨ type = .uint)
    (h : c = .outOfRange v ∧ (∃ i : Int, v.json = .number (.int i)) ∨
      c = .notInteger v ∧ ¬∃ i : Int, v.json = .number (.int i)) : c.Blames type v := by
  rcases h with ⟨rfl, found⟩ | ⟨rfl, other⟩
  · exact ⟨rfl, whole, found⟩
  · exact ⟨rfl, whole, other⟩

theorem ofJson_verdict (type : ValueType) (v : Json.Value) :
    Verdict (Accepts type v.json) (fun x => x.type = type ∧ x.Keeps v.json) (·.Blames type v)
      (ofJson type v) := by
  have vector {count : Nat} {r : Except Mismatch (Vector Float32 count)}
      {wrap : Vector Float32 count → ParamValue} (width : width? type = some count)
      (wrapped : ∀ x, (wrap x).type = type ∧ (wrap x).Keeps v.json)
      (verdict : Verdict (IsVector v.json) (fun _ => True) (· = .notNumbers count v) r) :
      Verdict (IsVector v.json) (fun x => x.type = type ∧ x.Keeps v.json) (·.Blames type v)
        (r.map wrap) :=
    verdict.map (fun x _ => wrapped x) fun c same => same ▸ ⟨rfl, width⟩
  cases type with
  | float | texture2D | texture3D => exact .ok trivial ⟨rfl, trivial⟩
  | float2 => exact vector rfl (fun _ => ⟨rfl, trivial⟩) (numbers_verdict 2 v)
  | float3 => exact vector rfl (fun _ => ⟨rfl, trivial⟩) (numbers_verdict 3 v)
  | float4 => exact vector rfl (fun _ => ⟨rfl, trivial⟩) (numbers_verdict 4 v)
  | transform => exact vector rfl (fun _ => ⟨rfl, trivial⟩) (matrix_verdict v)
  | int => exact (integer_verdict _ _ v).map int_keeps fun c => blames_integer (.inl rfl)
  | uint => exact (integer_verdict _ _ v).map uint_keeps fun c => blames_integer (.inr rfl)
  | colorGradient =>
    have accepts : (Json.list? gradientKey? v.json).isSome ↔ Accepts .colorGradient v.json :=
      Json.isSome_list? v.canonical fun e canonical => isSome_gradientKey? canonical
    rw [ofJson, ← accepts]
    cases Json.list? gradientKey? v.json with
    | some keys => exact .ok rfl ⟨rfl, trivial⟩
    | none => exact .error nofun rfl
  | curve =>
    have accepts : (Json.list? curveKey? v.json).isSome ↔ Accepts .curve v.json :=
      Json.isSome_list? v.canonical fun e canonical => isSome_curveKey? canonical
    rw [ofJson, ← accepts]
    cases Json.list? curveKey? v.json with
    | some keys => exact .ok rfl ⟨rfl, trivial⟩
    | none => exact .error nofun rfl

end ParamValue

end ParticleShaders
