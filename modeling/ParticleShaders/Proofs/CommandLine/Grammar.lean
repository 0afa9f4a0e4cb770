import Mathlib.Data.List.Induction
import Mathlib.Data.List.TakeWhile
import ParticleShaders.CommandLine.Arguments

namespace ParticleShaders

namespace Count

def unsigned (text : String) : List Char :=
  match text.toList with
  | '+' :: chars | chars => chars

def leading (text : String) : List Char := (unsigned text).takeWhile (·.isDigit)

def value (digits : List Char) : Nat := Nat.ofDigitChars 10 digits 0

/-- A count is written in digits, after a plus sign or none, and a machine word holds it. -/
structure Denotes (text : String) (n : Nat) : Prop where
  inhabited : unsigned text ≠ []
  digits : ∀ c ∈ unsigned text, c.isDigit
  value : value (unsigned text) = n
  fits : n ≤ largest

/-- Why a text denotes no count. A digit too many counts before what is no digit behind it. -/
def Fails (text : String) : CountFault → Prop
  | .empty => text = ""
  | .tooLarge => largest < value (leading text)
  | .notDigit => text ≠ "" ∧ value (leading text) ≤ largest ∧
      (unsigned text = [] ∨ leading text ≠ unsigned text)

section

variable {text : String} {n : Nat} {c : Char} {fault : CountFault}

theorem le_ofDigitChars (digits : List Char) (n : Nat) : n ≤ Nat.ofDigitChars 10 digits n := by
  induction digits generalizing n with
  | nil => simp
  | cons c rest ih =>
    rw [Nat.ofDigitChars_cons]
    exact Nat.le_trans (by omega) (ih _)

theorem appendDigit_of_digit (digit : c.isDigit) : appendDigit n c =
    let next := 10 * n + (c.toNat - '0'.toNat)
    if largest < next then .error .tooLarge else .ok next := by
  simp only [appendDigit, digit, Bool.not_true, Bool.false_eq_true, if_false]

theorem foldlM_appendDigit (digits : List Char) (small : n ≤ largest) :
    digits.foldlM appendDigit n =
      let run := digits.takeWhile (·.isDigit)
      if largest < Nat.ofDigitChars 10 run n then .error .tooLarge
      else if run = digits then .ok (Nat.ofDigitChars 10 run n) else .error .notDigit := by
  induction digits generalizing n with
  | nil => simp [Nat.not_lt.2 small, pure, Except.pure]
  | cons c rest ih =>
    rw [List.foldlM_cons]
    by_cases digit : c.isDigit
    · rw [appendDigit_of_digit digit, List.takeWhile_cons_of_pos digit]
      dsimp only
      split
      · next large =>
        have larger := le_ofDigitChars (rest.takeWhile (·.isDigit)) (10 * n + (c.toNat - '0'.toNat))
        rw [Nat.ofDigitChars_cons, if_pos (Nat.lt_of_lt_of_le large larger)]
        rfl
      · next fits =>
        simp only [Nat.ofDigitChars_cons, List.cons_inj_right]
        exact ih (Nat.not_lt.1 fits)
    · rw [List.takeWhile_cons_of_neg digit, appendDigit, if_pos (by simpa using digit)]
      simp [Nat.not_lt.2 small, bind, Except.bind]

theorem parse_eq_foldlM (filled : unsigned text ≠ []) :
    parse text = (unsigned text).foldlM appendDigit 0 := by
  unfold parse
  unfold unsigned at filled ⊢
  generalize text.toList = chars at filled ⊢
  rcases chars with _ | ⟨c, rest⟩
  · exact absurd rfl filled
  · by_cases plus : c = '+'
    · subst plus
      cases rest with
      | nil => exact absurd rfl filled
      | cons d rest => rfl
    · simp [plus]

theorem parse_of_unsigned_eq_nil (filled : text ≠ "") (bare : unsigned text = []) :
    parse text = .error .notDigit := by
  have filled : text.toList ≠ [] := by simpa using filled
  unfold parse
  unfold unsigned at bare
  split at bare
  · next chars same =>
    subst bare
    rw [same]
    rfl
  · exact absurd bare filled

theorem parse_eq (filled : text ≠ "") : parse text =
    if largest < value (leading text) then .error .tooLarge
    else if unsigned text = [] ∨ leading text ≠ unsigned text then .error .notDigit
    else .ok (value (unsigned text)) := by
  by_cases bare : unsigned text = []
  · rw [parse_of_unsigned_eq_nil filled bare]
    simp [leading, bare, value]
  · rw [parse_eq_foldlM bare, foldlM_appendDigit _ (by decide)]
    refine if_congr Iff.rfl rfl ?_
    change (if leading text = unsigned text then _ else _) = _
    by_cases whole : leading text = unsigned text
    · have run : (unsigned text).takeWhile (·.isDigit) = unsigned text := whole
      rw [if_pos whole, if_neg (by simp [bare, whole]), run, value]
    · rw [if_neg whole, if_pos (.inr whole)]

theorem leading_eq_iff : leading text = unsigned text ↔ ∀ c ∈ unsigned text, c.isDigit := by
  rw [leading, List.takeWhile_eq_self_iff]

theorem parse_eq_ok_iff : parse text = .ok n ↔ Denotes text n := by
  by_cases filled : text = ""
  · subst filled
    exact iff_of_false nofun fun denotes => denotes.inhabited rfl
  · rw [parse_eq filled]
    constructor
    · intro h
      split at h
      · cases h
      · next fits =>
        split at h
        · cases h
        · next written =>
          obtain ⟨inhabited, whole⟩ := not_or.1 written
          have whole : leading text = unsigned text := not_not.1 whole
          cases h
          exact ⟨inhabited, leading_eq_iff.1 whole, rfl, whole ▸ Nat.not_lt.1 fits⟩
    · rintro ⟨inhabited, digits, rfl, fits⟩
      have whole := leading_eq_iff.2 digits
      rw [if_neg (by rw [whole]; exact Nat.not_lt.2 fits), if_neg (by simp [inhabited, whole])]

theorem parse_eq_error_iff : parse text = .error fault ↔ Fails text fault := by
  by_cases filled : text = ""
  · subst filled
    have empty : parse "" = .error .empty := rfl
    have small : ¬ largest < value (leading "") := by decide
    cases fault <;> simp [empty, Fails, small]
  · rw [parse_eq filled]
    split
    · next large => cases fault <;> simp [Fails, filled, large, Nat.not_le.2 large]
    · next fits =>
      split
      · next written => cases fault <;> simp [Fails, filled, fits, Nat.not_lt.1 fits, written]
      · next written => cases fault <;> simp [Fails, filled, fits, written]

end

end Count

def Flag.spellings : Flag → List String
  | systemPath => ["--system-json"]
  | outputDir => ["--outputdir", "--output-dir"]
  | bufferLimit => ["--max-buffers"]

theorem Flag.ofName?_eq_some_iff {name : String} {flag : Flag} :
    ofName? name = some flag ↔ name ∈ flag.spellings := by
  unfold ofName?
  split <;> cases flag <;> simp_all [spellings]

namespace Arguments

inductive Setting
  | systemPath (path : String)
  | outputDir (path : String)
  | bufferLimit (limit : Nat)
  deriving DecidableEq, Repr

namespace Setting

/-- How a setting is spelled: a flag, and the argument behind it, whatever that looks like. -/
inductive Spelled : Setting → String → String → Prop
  | systemPath {name path : String} (known : name ∈ Flag.systemPath.spellings) :
    Spelled (.systemPath path) name path
  | outputDir {name path : String} (known : name ∈ Flag.outputDir.spellings) :
    Spelled (.outputDir path) name path
  | bufferLimit {name text : String} {limit : Nat} (known : name ∈ Flag.bufferLimit.spellings)
    (denotes : Count.Denotes text limit) : Spelled (.bufferLimit limit) name text

inductive Written : List Setting → List String → Prop
  | nil : Written [] []
  | cons {s : Setting} {name value : String} {settings : List Setting} {rest : List String}
    (first : s.Spelled name value) (later : Written settings rest) :
    Written (s :: settings) (name :: value :: rest)

def systemPath? : Setting → Option String
  | systemPath path => some path
  | _ => none

def outputDir? : Setting → Option String
  | outputDir path => some path
  | _ => none

def bufferLimit? : Setting → Option Nat
  | bufferLimit limit => some limit
  | _ => none

end Setting

def ofSettings (settings : List Setting) : Arguments where
  systemPath := (settings.filterMap (·.systemPath?)).getLast?
  outputDir := (settings.filterMap (·.outputDir?)).getLast?
  bufferLimit := (settings.filterMap (·.bufferLimit?)).getLast?

inductive Offends : List String → Fault → Prop
  | unknown {name : String} {rest : List String} (foreign : ∀ flag : Flag, name ∉ flag.spellings) :
    Offends (name :: rest) (.unknown name)
  | missingValue {name : String} {flag : Flag} (known : name ∈ flag.spellings) :
    Offends [name] (.missingValue flag)
  | badLimit {name text : String} {cause : CountFault} {rest : List String}
    (known : name ∈ Flag.bufferLimit.spellings) (fails : Count.Fails text cause) :
    Offends (name :: text :: rest) (.badLimit text cause)

def put (args : Arguments) : Setting → Arguments
  | .systemPath path => { args with systemPath := some path }
  | .outputDir path => { args with outputDir := some path }
  | .bufferLimit limit => { args with bufferLimit := some limit }

variable {before rest : List String} {name value : String} {s : Setting} {settings : List Setting}
  {fault : Fault}

theorem foldl_put (settings : List Setting) : settings.foldl put {} = ofSettings settings := by
  induction settings using List.reverseRecOn with
  | nil => rfl
  | append_singleton settings s ih =>
    rw [List.foldl_append, ih, List.foldl_cons, List.foldl_nil]
    simp only [ofSettings, List.filterMap_append]
    cases s <;>
      simp [put, Setting.systemPath?, Setting.outputDir?, Setting.bufferLimit?]

theorem set_of_spelled (spelled : s.Spelled name value) (args : Arguments) :
    ∃ flag, Flag.ofName? name = some flag ∧ args.set flag value = .ok (args.put s) := by
  cases spelled with
  | systemPath known => exact ⟨_, Flag.ofName?_eq_some_iff.2 known, rfl⟩
  | outputDir known => exact ⟨_, Flag.ofName?_eq_some_iff.2 known, rfl⟩
  | bufferLimit known denotes =>
    refine ⟨_, Flag.ofName?_eq_some_iff.2 known, ?_⟩
    rw [set, Count.parse_eq_ok_iff.2 denotes]
    rfl

theorem extend_of_written (written : Setting.Written settings before) (args : Arguments)
    (rest : List String) : args.extend (before ++ rest) = (settings.foldl put args).extend rest := by
  induction written generalizing args with
  | nil => rfl
  | cons first later ih =>
    obtain ⟨flag, known, taken⟩ := set_of_spelled first args
    simp only [List.cons_append, extend, known, taken, List.foldl_cons, ih]

theorem extend_of_offends (offends : Offends rest fault) (args : Arguments) :
    args.extend rest = .error fault := by
  cases offends with
  | @unknown name rest foreign =>
    have unnamed : Flag.ofName? name = none :=
      Option.eq_none_iff_forall_ne_some.2 fun flag h => foreign flag (Flag.ofName?_eq_some_iff.1 h)
    cases rest <;> simp only [extend, unnamed]
  | missingValue known =>
    simp only [extend, Flag.ofName?_eq_some_iff.2 known]
  | badLimit known fails =>
    simp only [extend, Flag.ofName?_eq_some_iff.2 known, set, Count.parse_eq_error_iff.2 fails]

theorem spelled_or_offends (name value : String) :
    (∃ s : Setting, s.Spelled name value) ∨ ∃ fault, ∀ rest, Offends (name :: value :: rest) fault := by
  by_cases named : ∃ flag : Flag, name ∈ flag.spellings
  · obtain ⟨flag, known⟩ := named
    cases flag with
    | systemPath => exact .inl ⟨_, .systemPath known⟩
    | outputDir => exact .inl ⟨_, .outputDir known⟩
    | bufferLimit =>
      cases counted : Count.parse value with
      | ok limit => exact .inl ⟨_, .bufferLimit known (Count.parse_eq_ok_iff.1 counted)⟩
      | error cause =>
        exact .inr ⟨_, fun _ => .badLimit known (Count.parse_eq_error_iff.1 counted)⟩
  · exact .inr ⟨_, fun _ => .unknown (not_exists.1 named)⟩

theorem written_or_offends : ∀ arguments : List String,
    (∃ settings, Setting.Written settings arguments) ∨
      ∃ settings before rest fault, arguments = before ++ rest ∧
        Setting.Written settings before ∧ Offends rest fault
  | [] => .inl ⟨[], .nil⟩
  | [name] => by
    by_cases named : ∃ flag : Flag, name ∈ flag.spellings
    · obtain ⟨flag, known⟩ := named
      exact .inr ⟨[], [], [name], _, rfl, .nil, .missingValue known⟩
    · exact .inr ⟨[], [], [name], _, rfl, .nil, .unknown (not_exists.1 named)⟩
  | name :: value :: rest => by
    rcases spelled_or_offends name value with ⟨s, first⟩ | ⟨fault, offends⟩
    · rcases written_or_offends rest with ⟨settings, later⟩ |
        ⟨settings, before, rest, fault, rfl, later, offends⟩
      · exact .inl ⟨s :: settings, .cons first later⟩
      · exact .inr ⟨s :: settings, name :: value :: before, rest, fault, rfl, .cons first later,
          offends⟩
    · exact .inr ⟨[], [], _, fault, rfl, .nil, offends rest⟩

theorem parse_of_written (written : Setting.Written settings before) :
    parse before = .ok (ofSettings settings) := by
  have taken := extend_of_written written {} []
  rwa [List.append_nil, foldl_put] at taken

theorem parse_of_offends (written : Setting.Written settings before)
    (offends : Offends rest fault) : parse (before ++ rest) = .error fault := by
  rw [parse, extend_of_written written, extend_of_offends offends]

/-- Arguments are taken exactly if they are settings, and then the last of each kind counts; else
the fault is the first from the left. -/
theorem parse_grammar (arguments : List String) :
    (∀ args, parse arguments = .ok args ↔
      ∃ settings, Setting.Written settings arguments ∧ args = ofSettings settings) ∧
    ∀ fault, parse arguments = .error fault ↔
      ∃ settings before rest, arguments = before ++ rest ∧ Setting.Written settings before ∧
        Offends rest fault := by
  have either := written_or_offends arguments
  constructor
  · intro args
    constructor
    · intro h
      rcases either with ⟨settings, written⟩ | ⟨settings, before, rest, fault, rfl, written, offends⟩
      · rw [parse_of_written written] at h
        exact ⟨settings, written, (Except.ok.inj h).symm⟩
      · rw [parse_of_offends written offends] at h
        cases h
    · rintro ⟨settings, written, rfl⟩
      exact parse_of_written written
  · intro fault
    constructor
    · intro h
      rcases either with ⟨settings, written⟩ | ⟨settings, before, rest, _, rfl, written, offends⟩
      · rw [parse_of_written written] at h
        cases h
      · rw [parse_of_offends written offends] at h
        cases h
        exact ⟨settings, before, rest, rfl, written, offends⟩
    · rintro ⟨settings, before, rest, rfl, written, offends⟩
      exact parse_of_offends written offends

example : parse ["--output-dir", "--max-buffers", "--outputdir", "out"]
    = .ok { outputDir := some "out" } := rfl

end Arguments

end ParticleShaders
