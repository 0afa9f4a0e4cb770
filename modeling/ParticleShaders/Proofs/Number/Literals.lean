import ParticleShaders.Json.Token
import ParticleShaders.Proofs.Number.Rounding
import ParticleShaders.Proofs.Param.Numbering

namespace ParticleShaders

theorem toList_pushn (s : String) (c : Char) (n : Nat) :
    (s.pushn c n).toList = s.toList ++ List.replicate n c := by
  induction n with
  | zero => simp [String.pushn_eq_repeat_push, Nat.repeat]
  | succ n ih =>
    rw [String.pushn_eq_repeat_push] at ih ⊢
    rw [Nat.repeat, String.toList_push, ih, List.replicate_succ', List.append_assoc]

structure Literal where
  negative : Bool
  whole : List Char
  fraction : Option (List Char)
  exponent : Option (Bool × List Char)

namespace Numeral

def digitsOf (cs : List Char) : List Nat := cs.map fun c => c.toNat - '0'.toNat

def magnitude (n : Numeral) : ℚ :=
  digitsValue (n.whole ++ n.fraction.getD [])
    * 10 ^ (n.exponent.getD 0 - (n.fraction.getD []).length)

theorem digit?_of_isDigit {c : Char} (h : c.isDigit) : digit? c = some (c.toNat - '0'.toNat) := by
  simp only [Char.isDigit, Bool.and_eq_true, decide_eq_true_eq, ge_iff_le] at h
  exact if_pos h

theorem digit?_of_not_isDigit {c : Char} (h : ¬ c.isDigit) : digit? c = none := by
  simp only [Char.isDigit, Bool.and_eq_true, decide_eq_true_eq, ge_iff_le] at h
  exact if_neg h

def Stops (cs : List Char) : Prop := ∀ c ∈ cs.head?, ¬ c.isDigit

theorem spanDigits_append {cs rest : List Char} (digits : ∀ c ∈ cs, c.isDigit)
    (stops : Stops rest) : spanDigits (cs ++ rest) = (digitsOf cs, rest) := by
  induction cs with
  | nil =>
    cases rest with
    | nil => rfl
    | cons c rest =>
      rw [List.nil_append, spanDigits, digit?_of_not_isDigit (stops c rfl)]
      rfl
  | cons c cs ih =>
    rw [List.cons_append, spanDigits, digit?_of_isDigit (digits c List.mem_cons_self)]
    rw [ih fun d hd => digits d (List.mem_cons_of_mem _ hd)]
    rfl

theorem digitsValue_digitsOf (cs : List Char) :
    digitsValue (digitsOf cs) = Nat.ofDigitChars 10 cs 0 := by
  rw [digitsValue, digitsOf, List.foldl_map, Nat.ofDigitChars_eq_foldl]

section Parts

def signed : List Char → Bool × List Char
  | '-' :: rest => (true, rest)
  | rest => (false, rest)

def pointed : List Char → Option (Option (List Nat) × List Char)
  | '.' :: rest =>
    if (spanDigits rest).1.isEmpty then none
    else some (some (spanDigits rest).1, (spanDigits rest).2)
  | rest => some (none, rest)

def scaled (n : Numeral) : List Char → Option Numeral
  | [] => some n
  | mark :: rest => do
    guard (mark = 'e' ∨ mark = 'E')
    return { n with exponent := some (← exponent? rest) }

theorem parse?_eq (cs : List Char) : parse? cs = (do
    let whole := (spanDigits (signed cs).2).1
    guard (whole ≠ [] ∧ (whole.head? = some 0 → whole.length = 1))
    let (fraction, rest) ← pointed (spanDigits (signed cs).2).2
    scaled ⟨(signed cs).1, whole, fraction, none⟩ rest) := by
  unfold parse?
  split
  next negative cs found =>
    rw [show signed _ = (negative, cs) from found]
    refine bind_congr fun _ => ?_
    dsimp only
    generalize (spanDigits cs).1 = whole, (spanDigits cs).2 = after
    split
    · next rest =>
      by_cases missing : (spanDigits rest).1.isEmpty
      · simp only [pointed, missing, if_true, Option.bind_eq_bind, Option.bind_none]
      · simp only [pointed, missing, Bool.false_eq_true, if_false, Option.bind_eq_bind,
          Option.bind_some]
        generalize (spanDigits rest).2 = after
        cases after <;> rfl
    · simp only [pointed, Option.bind_eq_bind, Option.bind_some]
      unfold scaled
      split <;> rfl

end Parts

end Numeral

namespace Literal

open Numeral

variable {l : Literal}

def fractionText : Option (List Char) → List Char
  | none => []
  | some cs => '.' :: cs

def exponentText : Option (Bool × List Char) → List Char
  | none => []
  | some (negative, cs) => 'e' :: (if negative then '-' else '+') :: cs

def text (l : Literal) : List Char :=
  (if l.negative then ['-'] else []) ++ l.whole ++ fractionText l.fraction
    ++ exponentText l.exponent

def exponentValue (l : Literal) : Int :=
  match l.exponent with
  | none => 0
  | some (negative, cs) =>
    if negative then -(Nat.ofDigitChars 10 cs 0 : Int) else Nat.ofDigitChars 10 cs 0

def numeral (l : Literal) : Numeral where
  negative := l.negative
  whole := digitsOf l.whole
  fraction := l.fraction.map digitsOf
  exponent := l.exponent.map fun _ => l.exponentValue

structure WellFormed (l : Literal) : Prop where
  whole : l.whole ≠ [] ∧ ∀ c ∈ l.whole, c.isDigit
  leading : l.whole.head? = some '0' → l.whole.length = 1
  fraction : ∀ cs ∈ l.fraction, cs ≠ [] ∧ ∀ c ∈ cs, c.isDigit
  exponent : ∀ e ∈ l.exponent, e.2 ≠ [] ∧ ∀ c ∈ e.2, c.isDigit

theorem exponent?_eq (negative : Bool) {cs : List Char} (nonempty : cs ≠ [])
    (digits : ∀ c ∈ cs, c.isDigit) :
    exponent? ((if negative then '-' else '+') :: cs) =
      some (if negative then -(Nat.ofDigitChars 10 cs 0 : Int) else Nat.ofDigitChars 10 cs 0) := by
  have spanned : spanDigits cs = (digitsOf cs, []) := by
    simpa using spanDigits_append digits (show Stops [] by simp [Stops])
  have value := digitsValue_digitsOf cs
  obtain ⟨d, ds, found⟩ := List.exists_cons_of_ne_nil (show digitsOf cs ≠ [] by simpa [digitsOf])
  rw [found] at spanned value
  cases negative <;> simp [exponent?, spanned, value]

theorem eq_zero_of_value {c : Char} (h : c.isDigit) (zero : c.toNat - '0'.toNat = 0) :
    c = '0' := by
  have digit : '0'.toNat ≤ c.toNat := by
    simp only [Char.isDigit, Bool.and_eq_true, decide_eq_true_eq, ge_iff_le] at h
    exact h.1
  apply Char.toNat_inj.1
  omega

theorem signed_text (h : l.WellFormed) : signed l.text =
    (l.negative, l.whole ++ (fractionText l.fraction ++ exponentText l.exponent)) := by
  obtain ⟨c, rest, found⟩ := List.exists_cons_of_ne_nil h.whole.1
  have digit := h.whole.2 c (found ▸ List.mem_cons_self)
  rw [text]
  cases l.negative with
  | true => simp [signed]
  | false =>
    rw [found]
    simp only [Bool.false_eq_true, if_false, List.nil_append, List.cons_append, List.append_assoc]
    unfold signed
    split
    · next same =>
      cases same
      exact absurd digit (by decide)
    · rfl

theorem pointed_fractionText {fraction : Option (List Char)} {rest : List Char}
    (digits : ∀ cs ∈ fraction, cs ≠ [] ∧ ∀ c ∈ cs, c.isDigit) (stops : Stops rest)
    (other : rest.head? ≠ some '.') :
    pointed (fractionText fraction ++ rest) = some (fraction.map digitsOf, rest) := by
  cases fraction with
  | none =>
    unfold pointed
    split
    · next same => exact absurd (congrArg List.head? same) other
    · rfl
  | some cs =>
    obtain ⟨nonempty, digits⟩ := digits cs rfl
    simp [pointed, fractionText, spanDigits_append digits stops, digitsOf, nonempty]

theorem scaled_exponentText (negative : Bool) (whole : List Nat) (fraction : Option (List Nat))
    (digits : ∀ e ∈ l.exponent, e.2 ≠ [] ∧ ∀ c ∈ e.2, c.isDigit) :
    scaled ⟨negative, whole, fraction, none⟩ (exponentText l.exponent)
      = some ⟨negative, whole, fraction, l.exponent.map fun _ => l.exponentValue⟩ := by
  unfold exponentValue
  cases found : l.exponent with
  | none => rfl
  | some e =>
    obtain ⟨nonempty, digits⟩ := digits e found
    simp [scaled, exponentText, exponent?_eq e.1 nonempty digits]

theorem parse?_text (h : l.WellFormed) : parse? l.text = some l.numeral := by
  have point : Stops (fractionText l.fraction ++ exponentText l.exponent) := by
    cases l.fraction with
    | none => cases l.exponent <;> simp [fractionText, exponentText, Stops]
    | some cs => simp [fractionText, Stops]
  have mark : Stops (exponentText l.exponent) := by
    cases l.exponent <;> simp [exponentText, Stops]
  have other : (exponentText l.exponent).head? ≠ some '.' := by
    cases l.exponent <;> simp [exponentText]
  have leading : (digitsOf l.whole).head? = some 0 → (digitsOf l.whole).length = 1 := by
    intro zero
    rw [digitsOf, List.head?_map, Option.map_eq_some_iff] at zero
    obtain ⟨c, first, zero⟩ := zero
    have digit := h.whole.2 c (List.mem_of_mem_head? first)
    rw [eq_zero_of_value digit zero] at first
    rw [digitsOf, List.length_map, h.leading first]
  have guarded : guard (digitsOf l.whole ≠ [] ∧
      ((digitsOf l.whole).head? = some 0 → (digitsOf l.whole).length = 1)) = some () :=
    if_pos ⟨by simpa [digitsOf] using h.whole.1, leading⟩
  rw [parse?_eq, signed_text h]
  dsimp only
  rw [spanDigits_append h.whole.2 point]
  dsimp only
  rw [guarded, pointed_fractionText h.fraction mark other]
  exact scaled_exponentText _ _ _ h.exponent

theorem numeral_eq_of_text {l l' : Literal} (h : l.WellFormed) (h' : l'.WellFormed)
    (same : l.text = l'.text) : l.numeral = l'.numeral := by
  have read := parse?_text h
  rw [same, parse?_text h'] at read
  exact (Option.some.inj read).symm

theorem magnitude_numeral (l : Literal) : l.numeral.magnitude =
    Nat.ofDigitChars 10 (l.whole ++ l.fraction.getD []) 0
      * 10 ^ (l.exponentValue - (l.fraction.getD []).length) := by
  have digits : digitsOf l.whole ++ (l.fraction.map digitsOf).getD []
      = digitsOf (l.whole ++ l.fraction.getD []) := by
    cases l.fraction <;> simp [digitsOf]
  have length : ((l.fraction.map digitsOf).getD []).length = (l.fraction.getD []).length := by
    cases l.fraction <;> simp [digitsOf]
  have exponent : (l.exponent.map fun _ => l.exponentValue).getD 0 = l.exponentValue := by
    unfold exponentValue
    cases l.exponent <;> rfl
  rw [magnitude, numeral, digits, digitsValue_digitsOf, length, exponent]

structure Denotes (l : Literal) (negative : Bool) (x : ℚ) : Prop where
  wellFormed : l.WellFormed
  sign : l.negative = negative
  magnitude : l.numeral.magnitude = x

def placed (negative : Bool) (ds : List Char) (exponent : Int) : Literal :=
  let leading := ds.length + exponent - 1
  if 0 ≤ exponent then ⟨negative, ds ++ List.replicate exponent.toNat '0', some ['0'], none⟩
  else if 0 ≤ leading then
    ⟨negative, ds.take (leading + 1).toNat, some (ds.drop (leading + 1).toNat), none⟩
  else ⟨negative, ['0'], some (List.replicate (-leading - 1).toNat '0' ++ ds), none⟩

def scientific (negative : Bool) (ds : List Char) (exponent : Int) : Literal :=
  let leading := ds.length + exponent - 1
  ⟨negative, ds.take 1, if ds.length ≤ 1 then none else some (ds.drop 1),
    some (leading < 0, Nat.toDigits 10 leading.natAbs)⟩

theorem parts_placed (negative : Bool) (ds : List Char) (exponent : Int) :
    (placed negative ds exponent).negative = negative ∧
      (placed negative ds exponent).fraction.isSome := by
  unfold placed
  dsimp only
  split
  · exact ⟨rfl, rfl⟩
  · split <;> exact ⟨rfl, rfl⟩

theorem head?_toDigits {n : Nat} (positive : 0 < n) : (Nat.toDigits 10 n).head? ≠ some '0' := by
  induction n using Nat.strongRecOn with
  | ind n ih =>
    by_cases small : n < 10
    · rw [Nat.toDigits_of_lt_base small]
      simp
      omega
    · rw [Nat.toDigits_of_base_le (by decide) (by omega),
        List.head?_append_of_ne_nil _ Nat.toDigits_ne_nil]
      exact ih _ (by omega) (by omega)

theorem text_placed (negative : Bool) (ds : List Char) (exponent : Int) :
    (placed negative ds exponent).text = (if negative then ['-'] else [])
      ++ (NumberStyle.placePoint (String.ofList ds) exponent).toList := by
  unfold placed NumberStyle.placePoint
  simp only [String.length_ofList, String.toList_ofList]
  split
  · simp [text, fractionText, exponentText, toList_pushn]
  · split
    · simp [text, fractionText, exponentText]
    · simp [text, fractionText, exponentText, toList_pushn]

theorem text_scientific (negative : Bool) (ds : List Char) (exponent : Int) :
    (scientific negative ds exponent).text = (if negative then ['-'] else [])
      ++ (NumberStyle.scientific (String.ofList ds) exponent).toList := by
  unfold scientific NumberStyle.scientific
  simp only [String.length_ofList, String.toList_ofList]
  generalize (ds.length + exponent - 1 : Int) = leading
  have sign : (if leading < 0 then "e-" else "e+").toList
      = ['e', if leading < 0 then '-' else '+'] := by
    split <;> rfl
  rcases ds with _ | ⟨first, _ | ⟨second, rest⟩⟩
  · simp [text, fractionText, exponentText, sign]
  · simp [text, fractionText, exponentText, sign]
  · simp [text, fractionText, exponentText, sign]

section Digits

variable {ds : List Char} (nonempty : ds ≠ []) (digits : ∀ c ∈ ds, c.isDigit)

include nonempty digits

theorem wellFormed_placed (negative : Bool) (leading : ds.head? ≠ some '0') (exponent : Int) :
    (placed negative ds exponent).WellFormed := by
  have length := List.length_pos_iff.2 nonempty
  have zeros (n : Nat) : ∀ c ∈ List.replicate n '0', c.isDigit := by
    intro c hc
    rw [List.eq_of_mem_replicate hc]
    rfl
  unfold placed
  dsimp only
  split
  · constructor
    · exact ⟨by simp [nonempty], List.forall_mem_append.2 ⟨digits, zeros _⟩⟩
    · intro first
      rw [List.head?_append_of_ne_nil _ nonempty] at first
      exact absurd first leading
    · simp
    · simp
  · split
    · next below above =>
      constructor
      · refine ⟨?_, fun c hc => digits c (List.mem_of_mem_take hc)⟩
        rw [← List.length_pos_iff, List.length_take]
        omega
      · intro first
        rw [List.head?_take, if_neg (by omega)] at first
        exact absurd first leading
      · rintro cs ⟨⟩
        refine ⟨?_, fun c hc => digits c (List.mem_of_mem_drop hc)⟩
        rw [← List.length_pos_iff, List.length_drop]
        omega
      · simp
    · constructor
      · simp
      · simp
      · rintro cs ⟨⟩
        exact ⟨by simp [nonempty], List.forall_mem_append.2 ⟨zeros _, digits⟩⟩
      · simp

theorem wellFormed_scientific (negative : Bool) (exponent : Int) :
    (scientific negative ds exponent).WellFormed := by
  have length := List.length_pos_iff.2 nonempty
  constructor
  · exact ⟨by simp [scientific, nonempty], fun c hc => digits c (List.mem_of_mem_take hc)⟩
  · intro _
    simp only [scientific, List.length_take]
    omega
  · intro cs found
    simp only [scientific, Option.mem_def, Option.ite_none_left_eq_some] at found
    obtain ⟨long, ⟨⟩⟩ := found
    refine ⟨?_, fun c hc => digits c (List.mem_of_mem_drop hc)⟩
    rw [← List.length_pos_iff, List.length_drop]
    omega
  · rintro e ⟨⟩
    exact ⟨Nat.toDigits_ne_nil, fun c hc => Nat.isDigit_of_mem_toDigits (by decide) (by decide) hc⟩

end Digits

theorem magnitude_eq {ds : List Char} {exponent : Int}
    (value : Nat.ofDigitChars 10 (l.whole ++ l.fraction.getD []) 0 = Nat.ofDigitChars 10 ds 0)
    (place : l.exponentValue - (l.fraction.getD []).length = exponent) :
    l.numeral.magnitude = Nat.ofDigitChars 10 ds 0 * 10 ^ exponent := by
  rw [magnitude_numeral, value, place]

theorem magnitude_placed (negative : Bool) (ds : List Char) (exponent : Int) :
    (placed negative ds exponent).numeral.magnitude
      = Nat.ofDigitChars 10 ds 0 * 10 ^ exponent := by
  unfold placed
  dsimp only
  split
  · next whole =>
    obtain ⟨k, rfl⟩ := Int.eq_ofNat_of_zero_le whole
    have value : Nat.ofDigitChars 10 (ds ++ List.replicate k '0' ++ ['0']) 0
        = 10 ^ (k + 1) * Nat.ofDigitChars 10 ds 0 := by
      rw [List.append_assoc, ← List.replicate_succ', Nat.ofDigitChars_append,
        Nat.ofDigitChars_replicate_zero]
    rw [magnitude_numeral]
    simp only [Option.getD_some, Int.toNat_natCast, value, exponentValue, List.length_singleton,
      Nat.cast_mul, Nat.cast_pow, Nat.cast_ofNat, Nat.cast_one, zero_sub, zpow_neg, zpow_one,
      zpow_natCast]
    ring
  · split
    · apply magnitude_eq
      · rw [Option.getD_some, List.take_append_drop]
      · simp only [exponentValue, Option.getD_some, List.length_drop]
        omega
    · apply magnitude_eq
      · rw [Option.getD_some, List.singleton_append, ← List.cons_append, ← List.replicate_succ,
          Nat.ofDigitChars_append, Nat.ofDigitChars_replicate_zero, Nat.mul_zero]
      · simp only [exponentValue, Option.getD_some, List.length_append, List.length_replicate]
        omega

theorem magnitude_scientific (negative : Bool) {ds : List Char} (nonempty : ds ≠ [])
    (exponent : Int) : (scientific negative ds exponent).numeral.magnitude
      = Nat.ofDigitChars 10 ds 0 * 10 ^ exponent := by
  have leading : (scientific negative ds exponent).exponentValue = ds.length + exponent - 1 := by
    simp only [exponentValue, scientific, Nat.ofDigitChars_ten_toDigits, decide_eq_true_eq]
    omega
  rcases ds with _ | ⟨first, _ | ⟨second, rest⟩⟩
  · contradiction
  · apply magnitude_eq
    · rfl
    · rw [leading]
      simp [scientific]
  · apply magnitude_eq
    · rfl
    · rw [leading]
      simp [scientific]
      omega

theorem exists_decimal (style : NumberStyle) (negative : Bool) {d : Decimal}
    (positive : 0 < d.digits) : ∃ l : Literal, l.Denotes negative d.value ∧
      l.text = (if negative then ['-'] else []) ++ (style.decimal d).toList ∧
      (l.fraction.isSome ∨ l.exponent.isSome) := by
  let ds := Nat.toDigits 10 d.digits
  have nonempty : ds ≠ [] := Nat.toDigits_ne_nil
  have digits : ∀ c ∈ ds, c.isDigit := fun c hc =>
    Nat.isDigit_of_mem_toDigits (by decide) (by decide) hc
  have value : (Nat.ofDigitChars 10 ds 0 * 10 ^ d.exponent : ℚ) = d.value := by
    rw [Nat.ofDigitChars_ten_toDigits, Decimal.value]
  have written : toString d.digits = String.ofList ds := Nat.toString_eq_ofList_toDigits
  unfold NumberStyle.decimal
  dsimp only
  rw [written]
  by_cases position : style.positional ((String.ofList ds).length + d.exponent - 1)
  · rw [if_pos position, ← text_placed]
    obtain ⟨sign, point⟩ := parts_placed negative ds d.exponent
    refine ⟨placed negative ds d.exponent, ⟨?_, sign, ?_⟩, rfl, .inl point⟩
    · exact wellFormed_placed nonempty digits negative (head?_toDigits positive) d.exponent
    · rw [magnitude_placed, value]
  · rw [if_neg position, ← text_scientific]
    refine ⟨scientific negative ds d.exponent, ⟨?_, rfl, ?_⟩, rfl, .inr rfl⟩
    · exact wellFormed_scientific nonempty digits negative d.exponent
    · rw [magnitude_scientific negative nonempty, value]

theorem isWordChar_of_isDigit {c : Char} (h : c.isDigit) : Json.Scan.isWordChar c := by
  simp [Json.Scan.isWordChar, Char.isAlphanum, h]

theorem isWordChar_of_mem_text (h : l.WellFormed) : ∀ c ∈ l.text, Json.Scan.isWordChar c := by
  have digits {cs : List Char} (h : ∀ c ∈ cs, c.isDigit) : ∀ c ∈ cs, Json.Scan.isWordChar c :=
    fun c hc => isWordChar_of_isDigit (h c hc)
  refine List.forall_mem_append.2 ⟨List.forall_mem_append.2
    ⟨List.forall_mem_append.2 ⟨?_, digits h.whole.2⟩, ?_⟩, ?_⟩
  · cases l.negative with
    | true => exact List.forall_mem_singleton.2 (by decide)
    | false => exact List.forall_mem_nil _
  · cases found : l.fraction with
    | none => exact List.forall_mem_nil _
    | some cs => exact List.forall_mem_cons.2 ⟨by decide, digits (h.fraction cs found).2⟩
  · cases found : l.exponent with
    | none => exact List.forall_mem_nil _
    | some e =>
      have exponent := digits (h.exponent e found).2
      refine List.forall_mem_cons.2 ⟨by decide, List.forall_mem_cons.2 ⟨?_, exponent⟩⟩
      cases e.1 <;> decide

theorem exists_head_text (h : l.WellFormed) :
    ∃ c rest, l.text = c :: rest ∧ (c = '-' ∨ c.isDigit) := by
  obtain ⟨c, rest, found⟩ := List.exists_cons_of_ne_nil h.whole.1
  have digit := h.whole.2 c (found ▸ List.mem_cons_self)
  rw [text, found]
  cases l.negative with
  | true => exact ⟨_, _, rfl, .inl rfl⟩
  | false => exact ⟨_, _, rfl, .inr digit⟩

end Literal

namespace NumberStyle

variable (style : NumberStyle) (f : BinaryFormat)

theorem exists_literal (bits : Bool × Nat) : ∃ (l : Literal) (x : ℚ), l.Denotes bits.1 x ∧
    f.RoundsTo x bits.2 ∧ l.text = (style.write f bits).toList ∧
    (l.fraction.isSome ∨ l.exponent.isSome) := by
  obtain ⟨negative, magnitude⟩ := bits
  have sign : (if negative then "-" else "").toList = if negative then ['-'] else [] := by
    cases negative <;> rfl
  unfold write
  rw [String.toList_append, sign]
  dsimp only
  by_cases zero : magnitude = 0
  · subst zero
    refine ⟨⟨negative, ['0'], some ['0'], none⟩, 0, ⟨?_, rfl, ?_⟩, f.roundsTo_zero, ?_, .inl rfl⟩
    · constructor <;> simp
    · rw [Literal.magnitude_numeral]
      simp [Nat.ofDigitChars_cons]
    · rw [if_pos rfl]
      simp [Literal.text, Literal.fractionText, Literal.exponentText]
  · rw [if_neg zero]
    have positive := Nat.pos_of_ne_zero zero
    have rounds := f.roundsTo_shortest style.tie positive
    have digits : 0 < (f.shortest style.tie magnitude).digits := by
      by_contra none
      have value := rounds.pos positive
      rw [Decimal.value, Nat.eq_zero_of_not_pos none, Nat.cast_zero, zero_mul] at value
      exact lt_irrefl _ value
    obtain ⟨l, denotes, text, parts⟩ := Literal.exists_decimal style negative digits
    exact ⟨l, _, denotes, rounds, text, parts⟩

theorem write_injective (stored : 0 < f.significandBits) : Function.Injective (style.write f) := by
  intro bits bits' same
  obtain ⟨l, x, denotes, rounds, text, -⟩ := style.exists_literal f bits
  obtain ⟨l', x', denotes', rounds', text', -⟩ := style.exists_literal f bits'
  have numerals : l.numeral = l'.numeral :=
    Literal.numeral_eq_of_text denotes.wellFormed denotes'.wellFormed (by rw [text, text', same])
  have value : x = x' := by rw [← denotes.magnitude, numerals, denotes'.magnitude]
  have sign : bits.1 = bits'.1 := by
    rw [← denotes.sign, ← denotes'.sign]
    exact congrArg Numeral.negative numerals
  exact Prod.ext sign (rounds.unique stored (value ▸ rounds'))

end NumberStyle

end ParticleShaders
