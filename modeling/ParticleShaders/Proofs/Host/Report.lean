import ParticleShaders.Host.Report
import ParticleShaders.Proofs.Json.Printing

namespace ParticleShaders

theorem map_eq_map_of_imp {α β γ : Type} {f : α → β} {g : α → γ}
    (imp : ∀ a b, f a = f b → g a = g b) :
    ∀ {xs ys : List α}, xs.map f = ys.map f → xs.map g = ys.map g
  | [], [], _ => rfl
  | [], y :: ys, same => nomatch same
  | x :: xs, [], same => nomatch same
  | x :: xs, y :: ys, same => by
    obtain ⟨first, rest⟩ := List.cons.inj same
    rw [List.map_cons, List.map_cons, imp x y first, map_eq_map_of_imp imp rest]

namespace Number

theorem toBits_injective : Function.Injective Float32.toBits := by
  rintro ⟨⟨a, _⟩⟩ ⟨⟨b, _⟩⟩ same
  obtain rfl : a = b := same
  rfl

theorem singleBits_injective : Function.Injective singleBits := by
  intro x y same
  simp only [singleBits, Nat.reduceShiftLeft, Prod.mk.injEq, decide_eq_decide] at same
  apply toBits_injective
  apply UInt32.toNat_inj.1
  have small := x.toBits.toNat_lt
  have small' := y.toBits.toNat_lt
  omega

def shown (x : Float32) : Float32 := if singleIsFinite x then x else .ofBits 0x7fc00000

theorem shown_of_finite {x : Float32} (h : singleIsFinite x) : shown x = x := if_pos h

theorem shown_of_not_finite {x : Float32} (h : ¬ singleIsFinite x) :
    shown x = .ofBits 0x7fc00000 := if_neg h

theorem finite_shown {x : Float32} : singleIsFinite (shown x) ↔ singleIsFinite x := by
  by_cases h : singleIsFinite x
  · rw [shown_of_finite h]
  · rw [shown_of_not_finite h, iff_false_right h]
    decide +kernel

end Number

namespace ReportNumber

def IsFinite : ReportNumber → Prop
  | int _ => True
  | single x => Number.singleIsFinite x

def intLiteral (i : Int) : Literal := ⟨i < 0, Nat.toDigits 10 i.natAbs, none, none⟩

theorem wellFormed_intLiteral (i : Int) : (intLiteral i).WellFormed := by
  constructor
  · exact ⟨Nat.toDigits_ne_nil, fun c hc => Nat.isDigit_of_mem_toDigits (by decide) (by decide) hc⟩
  · intro first
    by_cases zero : i.natAbs = 0
    · simp only [intLiteral, zero, Nat.toDigits_zero, List.length_singleton]
    · exact absurd first (Literal.head?_toDigits (Nat.pos_of_ne_zero zero))
  · simp [intLiteral]
  · simp [intLiteral]

theorem text_intLiteral (i : Int) : (intLiteral i).text = (toString i).toList := by
  rw [Int.toString_eq_repr, Int.repr_eq_if]
  unfold Literal.text intLiteral
  dsimp only [Literal.fractionText, Literal.exponentText]
  rw [List.append_nil, List.append_nil]
  by_cases negative : i < 0
  · have magnitude : i.natAbs = (-i).toNat := by omega
    rw [if_pos (decide_eq_true negative), if_neg (show ¬ 0 ≤ i by omega), String.toList_append,
      Nat.toList_repr, magnitude]
    rfl
  · have magnitude : i.natAbs = i.toNat := by omega
    rw [if_neg (by simpa using negative), if_pos (show 0 ≤ i by omega), Nat.toList_repr, magnitude]
    rfl

theorem intLiteral_inj {i j : Int} (same : (intLiteral i).numeral = (intLiteral j).numeral) :
    i = j := by
  have sign : decide (i < 0) = decide (j < 0) := congrArg Numeral.negative same
  have values := congrArg (fun n => Numeral.digitsValue n.whole) same
  simp only [Literal.numeral, intLiteral, Numeral.digitsValue_digitsOf,
    Nat.ofDigitChars_ten_toDigits] at values
  rw [decide_eq_decide] at sign
  omega

theorem numeral_intLiteral_ne {i : Int} {l : Literal}
    (parts : l.fraction.isSome ∨ l.exponent.isSome) : (intLiteral i).numeral ≠ l.numeral := by
  intro same
  have fraction := congrArg (·.fraction.isSome) same
  have exponent := congrArg (·.exponent.isSome) same
  simp only [Literal.numeral, intLiteral, Option.isSome_map] at fraction exponent
  rcases parts with some | some
  · exact absurd (fraction.trans some) Bool.false_ne_true
  · exact absurd (exponent.trans some) Bool.false_ne_true

theorem exists_literal (n : ReportNumber) : ∃ l : Literal, l.WellFormed ∧
    l.text = n.write.toList ∧ match n with
      | int i => l = intLiteral i
      | single _ => l.fraction.isSome ∨ l.exponent.isSome := by
  cases n with
  | int i => exact ⟨intLiteral i, wellFormed_intLiteral i, text_intLiteral i, rfl⟩
  | single x =>
    obtain ⟨l, _, denotes, -, text, parts⟩ :=
      Number.singleStyle.exists_literal .binary32 (Number.singleBits x)
    exact ⟨l, denotes.wellFormed, text, parts⟩

theorem write_injective : Function.Injective write := by
  intro n m same
  obtain ⟨l, wellFormed, text, parts⟩ := n.exists_literal
  obtain ⟨l', wellFormed', text', parts'⟩ := m.exists_literal
  have numerals : l.numeral = l'.numeral :=
    Literal.numeral_eq_of_text wellFormed wellFormed' (by rw [text, text', same])
  cases n with
  | int i =>
    obtain rfl := parts
    cases m with
    | int j =>
      obtain rfl := parts'
      rw [intLiteral_inj numerals]
    | single y => exact absurd numerals (numeral_intLiteral_ne parts')
  | single x =>
    cases m with
    | int j =>
      obtain rfl := parts'
      exact absurd numerals.symm (numeral_intLiteral_ne parts)
    | single y =>
      have bits := NumberStyle.write_injective Number.singleStyle .binary32 (by decide) same
      rw [Number.singleBits_injective bits]

theorem legible_write : Json.Legible write IsFinite where
  injective _ _ same := write_injective same
  word := by
    intro n _
    obtain ⟨l, wellFormed, text, -⟩ := n.exists_literal
    rw [← text]
    exact Literal.isWordChar_of_mem_text wellFormed
  begins := by
    intro n _
    obtain ⟨l, wellFormed, text, -⟩ := n.exists_literal
    rw [← text]
    exact Literal.exists_head_text wellFormed

end ReportNumber

def PushValue.shown : PushValue → PushValue
  | .float x => .float (Number.shown x)
  | .floats xs => .floats (xs.map Number.shown)
  | .vector v => .vector (v.map Number.shown)
  | .int i => .int i
  | .matrix m => .matrix (m.map Number.shown)
  | .texture path => .texture path
  | .baked t => .baked { t with data := t.data.map Number.shown }

namespace PushValue

def singles : PushValue → List Float32
  | .float x => [x]
  | .floats xs => xs
  | .vector v => v.toList
  | .int _ | .texture _ => []
  | .matrix m => m.toList
  | .baked t => t.data

def IsFinite (v : PushValue) : Prop := ∀ x ∈ v.singles, Number.singleIsFinite x

theorem singles_shown (v : PushValue) : v.shown.singles = v.singles.map Number.shown := by
  cases v <;> simp [shown, singles, Vector.toList_map]

theorem isFinite_shown {v : PushValue} : v.shown.IsFinite ↔ v.IsFinite := by
  simp only [IsFinite, singles_shown, List.forall_mem_map, Number.finite_shown]

theorem IsFinite.shown_eq {v : PushValue} (finite : v.IsFinite) : v.shown = v := by
  have each : ∀ x ∈ v.singles, Number.shown x = x :=
    fun x mem => Number.shown_of_finite (finite x mem)
  have all : v.singles.map Number.shown = v.singles := by
    simpa using List.map_congr_left each
  cases v with
  | float x => exact congrArg float (each x (List.mem_singleton_self x))
  | floats xs => exact congrArg floats all
  | vector v => exact congrArg vector (Vector.toList_inj.1 (by rwa [Vector.toList_map]))
  | int i => rfl
  | matrix m => exact congrArg matrix (Vector.toList_inj.1 (by rwa [Vector.toList_map]))
  | texture path => rfl
  | baked t => exact congrArg (fun data => baked { t with data }) all

end PushValue

def Push.shown (p : Push) : Push := { p with value := p.value.shown }

namespace Report

open Json (Printable PrintableElements PrintableFields)

section Printable

abbrev IsPrintable (j : Tree) : Prop := j.Printable ReportNumber.IsFinite

theorem printableElements_map {α : Type} {tree : α → Tree} (h : ∀ a, IsPrintable (tree a)) :
    ∀ xs : List α, PrintableElements ReportNumber.IsFinite (xs.map tree)
  | [] => trivial
  | x :: xs => ⟨h x, printableElements_map h xs⟩

theorem printableFields_map {α : Type} {name : α → String} {tree : α → Tree}
    (h : ∀ a, IsPrintable (tree a)) :
    ∀ xs : List α, PrintableFields ReportNumber.IsFinite (xs.map fun a => (name a, tree a))
  | [] => trivial
  | x :: xs => ⟨h x, printableFields_map h xs⟩

theorem printable_single (x : Float32) : IsPrintable (single x) := by
  unfold single
  split
  · next finite => exact finite
  · trivial

theorem printable_optional (s : Option String) : IsPrintable (optional s) := by
  cases s <;> trivial

theorem printable_singles (xs : List Float32) : IsPrintable (singles xs) :=
  printableElements_map printable_single xs

theorem printable_target (t : PushTarget) : IsPrintable (target t) := by
  rcases t with _ | (_ | _) | _ <;> simp [target, text, IsPrintable, Printable, PrintableFields]

theorem printable_value (v : PushValue) : IsPrintable (value v) := by
  cases v with
  | float x => exact ⟨printable_single x, trivial⟩
  | floats xs => exact ⟨printable_singles xs, trivial⟩
  | vector v => exact ⟨printable_singles v.toList, trivial⟩
  | int i => exact ⟨trivial, trivial⟩
  | matrix m => exact ⟨printable_singles m.toList, trivial⟩
  | texture path => exact ⟨trivial, trivial⟩
  | baked t => exact ⟨⟨trivial, trivial, trivial, printable_singles t.data, trivial⟩, trivial⟩

theorem printable_push (p : Push) : IsPrintable (push p) :=
  ⟨printable_target p.target, trivial, printable_value p.value, trivial⟩

theorem printable_buffer (b : BufferBinding) : IsPrintable (buffer b) :=
  ⟨trivial, printable_optional b.init, printable_optional b.update, printable_optional b.output,
    trivial⟩

theorem printable_naming (n : Naming) : IsPrintable (naming n) := by
  apply printableFields_map
  exact fun _ => trivial

theorem printable_layout (l : HostLayout) : IsPrintable (layout l) :=
  ⟨printableElements_map printable_buffer l.buffers, printable_naming l.uniforms,
    printable_naming l.outputUniforms, trivial, trivial, trivial⟩

theorem printable_system (id : String) (phaseShift : Bool) (l : HostLayout) (ps : List Push) :
    IsPrintable (system id phaseShift l ps) :=
  ⟨trivial, trivial, printable_layout l, printableElements_map printable_push ps, trivial⟩

end Printable

section Shown

theorem single_shown (x : Float32) : single (Number.shown x) = single x := by
  unfold Number.shown
  split
  · rfl
  · next infinite => rw [single, single, if_neg infinite, if_neg (by decide +kernel)]

theorem shown_eq_of_single {x y : Float32} (same : single x = single y) :
    Number.shown x = Number.shown y := by
  unfold single at same
  unfold Number.shown
  split at same <;> split at same <;> simp_all

theorem singles_shown (xs : List Float32) : singles (xs.map Number.shown) = singles xs := by
  rw [singles, singles, List.map_map]
  congr 2
  funext x
  exact single_shown x

theorem shown_eq_of_singles {xs ys : List Float32} (same : singles xs = singles ys) :
    xs.map Number.shown = ys.map Number.shown :=
  map_eq_map_of_imp (fun _ _ => shown_eq_of_single) (Json.array.inj same)

theorem value_shown (v : PushValue) : value v.shown = value v := by
  cases v with
  | float x => simp only [PushValue.shown, value, single_shown]
  | floats xs => simp only [PushValue.shown, value, singles_shown]
  | vector v => simp only [PushValue.shown, value, Vector.toList_map, singles_shown]
  | int i => rfl
  | matrix m => simp only [PushValue.shown, value, Vector.toList_map, singles_shown]
  | texture path => rfl
  | baked t => simp only [PushValue.shown, value, texture, singles_shown]

theorem shown_eq_of_vector {n : Nat} {v w : Vector Float32 n}
    (same : singles v.toList = singles w.toList) : v.map Number.shown = w.map Number.shown := by
  apply Vector.toList_inj.1
  rw [Vector.toList_map, Vector.toList_map, shown_eq_of_singles same]

theorem shown_eq_of_texture {t u : Texture} (same : texture t = texture u) :
    { t with data := t.data.map Number.shown } = { u with data := u.data.map Number.shown } := by
  obtain ⟨width, height, channels, data⟩ := t
  obtain ⟨width', height', channels', data'⟩ := u
  simp [texture, count] at same
  obtain ⟨rfl, rfl, rfl, same⟩ := same
  rw [shown_eq_of_singles same]

theorem shown_eq_of_value {v w : PushValue} (same : value v = value w) : v.shown = w.shown := by
  cases v <;> cases w <;> simp [value, text] at same
  case float.float x y => exact congrArg PushValue.float (shown_eq_of_single same)
  case floats.floats xs ys => exact congrArg PushValue.floats (shown_eq_of_singles same)
  case vector.vector v w => exact congrArg PushValue.vector (shown_eq_of_vector same)
  case int.int i j => exact congrArg PushValue.int (Int32.toInt_inj.1 same)
  case matrix.matrix m n => exact congrArg PushValue.matrix (shown_eq_of_vector same)
  case texture.texture path other => exact congrArg PushValue.texture same
  case baked.baked t u => exact congrArg PushValue.baked (shown_eq_of_texture same)

theorem target_injective : Function.Injective target := by
  intro t u same
  rcases t with _ | (_ | _) | _ <;> rcases u with _ | (_ | _) | _
  all_goals simp [target, text] at same ⊢

theorem push_shown (p : Push) : push p.shown = push p := by
  simp only [push, Push.shown, value_shown]

theorem shown_eq_of_push {p q : Push} (same : push p = push q) : p.shown = q.shown := by
  simp [push, text] at same
  obtain ⟨target, name, value⟩ := same
  rw [Push.shown, Push.shown, target_injective target, name, shown_eq_of_value value]

theorem pushes_eq_iff {ps qs : List Push} :
    pushes ps = pushes qs ↔ ps.map Push.shown = qs.map Push.shown := by
  constructor
  · intro same
    exact map_eq_map_of_imp (fun _ _ => shown_eq_of_push) (Json.array.inj same)
  · intro same
    have seen (ps : List Push) : ps.map push = (ps.map Push.shown).map push := by
      rw [List.map_map]
      exact List.map_congr_left fun p _ => (push_shown p).symm
    rw [pushes, pushes, seen ps, seen qs, same]

theorem naming_injective : Function.Injective naming := by
  intro n m same
  apply Naming.ext
  have each := map_eq_map_of_imp (g := id) (fun (e e' : String × String) same => ?_)
    (Json.object.inj same)
  · simpa using each
  · obtain ⟨id, name⟩ := e
    obtain ⟨id', name'⟩ := e'
    simpa [text] using same

theorem optional_injective : Function.Injective optional := by
  intro s t same
  cases s <;> cases t <;> simp_all [optional]

theorem buffer_injective : Function.Injective buffer := by
  rintro ⟨stride, init, update, output⟩ ⟨stride', init', update', output'⟩ same
  simp only [buffer, count, Json.object.injEq, List.cons.injEq, Prod.mk.injEq, true_and, and_true,
    Json.number.injEq, ReportNumber.int.injEq, Int.ofNat_inj] at same
  obtain ⟨rfl, inits, updates, outputs⟩ := same
  rw [optional_injective inits, optional_injective updates, optional_injective outputs]

theorem layout_injective : Function.Injective layout := by
  rintro ⟨buffers, uniforms, outputUniforms, hasKill, isQuad⟩
    ⟨buffers', uniforms', outputUniforms', hasKill', isQuad'⟩ same
  simp only [layout, text, Json.object.injEq, List.cons.injEq, Prod.mk.injEq, true_and, and_true,
    Json.array.injEq, Json.bool.injEq, Json.string.injEq] at same
  obtain ⟨bindings, names, outputNames, rfl, form⟩ := same
  rw [buffer_injective.list_map bindings, naming_injective names, naming_injective outputNames]
  cases isQuad <;> cases isQuad' <;> simp_all

theorem system_eq_iff {id id' : String} {phaseShift phaseShift' : Bool} {l l' : HostLayout}
    {ps ps' : List Push} : system id phaseShift l ps = system id' phaseShift' l' ps' ↔
      id = id' ∧ phaseShift = phaseShift' ∧ l = l' ∧ ps.map Push.shown = ps'.map Push.shown := by
  simp only [system, text, Json.object.injEq, List.cons.injEq, Prod.mk.injEq, true_and, and_true,
    Json.string.injEq, Json.bool.injEq, layout_injective.eq_iff, pushes_eq_iff]

end Shown

end Report

end ParticleShaders
