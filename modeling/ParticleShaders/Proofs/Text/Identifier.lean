import ParticleShaders.Text.Identifier

namespace ParticleShaders.Text

def IsInitial (c : Char) : Prop := ('a' ≤ c ∧ c ≤ 'z') ∨ ('A' ≤ c ∧ c ≤ 'Z') ∨ c = '_'

def IsFigure (c : Char) : Prop := '0' ≤ c ∧ c ≤ '9'

def Spelled : List Char → Prop
  | [] => False
  | first :: rest => IsInitial first ∧ ∀ c ∈ rest, IsInitial c ∨ IsFigure c

variable {c : Char} {s : String}

theorem isDigit_iff : c.isDigit ↔ IsFigure c := by
  have range : c.isDigit = (decide ('0' ≤ c) && decide (c ≤ '9')) := rfl
  rw [range, Bool.and_eq_true, decide_eq_true_iff, decide_eq_true_iff]
  rfl

theorem isIdentifierChar_iff : isIdentifierChar c ↔ IsInitial c ∨ IsFigure c := by
  have letters : c.isAlpha =
      (decide ('A' ≤ c ∧ c ≤ 'Z') || (decide ('a' ≤ c) && decide (c ≤ 'z'))) := rfl
  have characters : isIdentifierChar c = ((c.isAlpha || c.isDigit) || decide (c = '_')) := rfl
  rw [characters, letters]
  simp only [Bool.or_eq_true, Bool.and_eq_true, decide_eq_true_iff, isDigit_iff, IsInitial]
  grind

theorem IsInitial.not_isFigure (h : IsInitial c) : ¬ IsFigure c := by
  rintro ⟨-, upTo⟩
  rcases h with ⟨fromLower, -⟩ | ⟨fromUpper, -⟩ | rfl
  · exact absurd (Char.le_trans fromLower upTo) (by decide)
  · exact absurd (Char.le_trans fromUpper upTo) (by decide)
  · exact absurd upTo (by decide)

theorem isIdentifier_iff : isIdentifier s ↔
    s.toList ≠ [] ∧ startsWithDigit s.toList = false ∧ ∀ c ∈ s.toList, isIdentifierChar c := by
  simp [isIdentifier, and_assoc]

theorem isIdentifier_iff_spelled : isIdentifier s ↔ Spelled s.toList := by
  rw [isIdentifier_iff]
  cases s.toList with
  | nil => simp [Spelled]
  | cons first rest =>
    have opens : startsWithDigit (first :: rest) = false ↔ ¬ IsFigure first := by
      rw [← isDigit_iff, Bool.not_eq_true]
      rfl
    rw [opens, List.forall_mem_cons]
    simp only [isIdentifierChar_iff, Spelled]
    constructor
    · rintro ⟨-, noFigure, initial, later⟩
      exact ⟨initial.resolve_right noFigure, later⟩
    · rintro ⟨initial, later⟩
      exact ⟨List.cons_ne_nil _ _, initial.not_isFigure, .inl initial, later⟩

theorem isIdentifier_toIdentifier (s : String) : isIdentifier (toIdentifier s) := by
  let cs := s.toList.map fun c => if isIdentifierChar c then c else '_'
  have fits : ∀ c ∈ cs, isIdentifierChar c := by
    intro c hc
    obtain ⟨e, -, rfl⟩ := List.mem_map.1 hc
    split
    · assumption
    · decide
  rw [isIdentifier_iff, toIdentifier, String.toList_ofList]
  split
  · exact ⟨List.cons_ne_nil _ _, rfl, List.forall_mem_cons.2 ⟨by decide, fits⟩⟩
  · next sound =>
    rw [Bool.or_eq_true, not_or, Bool.not_eq_true, Bool.not_eq_true] at sound
    exact ⟨List.isEmpty_eq_false_iff.1 sound.1, sound.2, fits⟩

theorem toIdentifier_eq_self_iff (s : String) : toIdentifier s = s ↔ isIdentifier s := by
  constructor
  · intro same
    exact same ▸ isIdentifier_toIdentifier s
  · intro h
    obtain ⟨nonempty, noDigit, fits⟩ := isIdentifier_iff.1 h
    have kept : (s.toList.map fun c => if isIdentifierChar c then c else '_') = s.toList :=
      (List.map_congr_left fun c hc => if_pos (fits c hc)).trans (List.map_id' _)
    rw [toIdentifier, kept]
    simp [nonempty, noDigit]

theorem toIdentifier_toIdentifier (s : String) : toIdentifier (toIdentifier s) = toIdentifier s :=
  (toIdentifier_eq_self_iff _).2 (isIdentifier_toIdentifier s)

end ParticleShaders.Text
