import ParticleShaders.Json.Printer
import ParticleShaders.Json.Token
import ParticleShaders.Proofs.Number.Literals
/-! Printed trees. The printed form of a tree shows where it ends, whatever follows it in the text;
so each part of a text is the form of one tree only, and so is the text. -/

namespace ParticleShaders.Json

/-! ### Strings -/

section Quoting

variable {c d : Char} {s t : String} {a b rest : List Char}

def unescape? : List Char → Option (Char × List Char)
  | '\\' :: 'u' :: '0' :: '0' :: high :: low :: rest => do
    return (.ofNat (16 * (← Scan.hexDigit? high) + (← Scan.hexDigit? low)), rest)
  | '\\' :: letter :: rest => (Scan.escaped? letter).map (·, rest)
  | '"' :: _ => none
  | c :: rest => some (c, rest)
  | [] => none

theorem hexDigit?_hexDigit : ∀ n < 16, Scan.hexDigit? (hexDigit n) = some n := by
  decide

theorem unescape?_of_plain (quotes : c ≠ '"') (backslash : c ≠ '\\') :
    unescape? (c :: rest) = some (c, rest) := by
  unfold unescape?
  split
  · next same => exact absurd (List.cons.inj same).1 backslash
  · next same => exact absurd (List.cons.inj same).1 backslash
  · next same => exact absurd (List.cons.inj same).1 quotes
  · next same =>
    cases same
    rfl
  · next same => cases same

theorem unescape?_escapeChar (c : Char) (rest : List Char) :
    unescape? (escapeChar c ++ rest) = some (c, rest) := by
  by_cases letter : c ∈ ['"', '\\', '\x08', '\x0c', '\n', '\r', '\t']
  · simp only [List.mem_cons, List.not_mem_nil, or_false] at letter
    rcases letter with rfl | rfl | rfl | rfl | rfl | rfl | rfl <;> rfl
  · simp only [List.mem_cons, List.not_mem_nil, or_false, not_or] at letter
    obtain ⟨quotes, backslash, h⟩ := letter
    simp only [escapeChar, quotes, backslash, h, if_false]
    split
    · next control =>
      have high := hexDigit?_hexDigit (c.toNat / 16) (by omega)
      have low := hexDigit?_hexDigit (c.toNat % 16) (by omega)
      have code : Char.ofNat (16 * (c.toNat / 16) + c.toNat % 16) = c := by
        rw [Nat.div_add_mod, Char.ofNat_toNat]
      simp [unescape?, high, low, code]
    · exact unescape?_of_plain quotes backslash

theorem escapeChar_append_inj (same : escapeChar c ++ a = escapeChar d ++ b) : c = d ∧ a = b := by
  have read := unescape?_escapeChar c a
  rw [same, unescape?_escapeChar] at read
  cases read
  exact ⟨rfl, rfl⟩

theorem unescape?_quote (rest : List Char) : unescape? ('"' :: rest) = none := by
  simp [unescape?]

theorem flatMap_escapeChar_inj : ∀ {cs ds : List Char},
    cs.flatMap escapeChar ++ '"' :: a = ds.flatMap escapeChar ++ '"' :: b → cs = ds ∧ a = b
  | [], [], same => ⟨rfl, (List.cons.inj same).2⟩
  | [], d :: ds, same => by
    have read := congrArg unescape? same
    rw [List.flatMap_cons, List.append_assoc, unescape?_escapeChar] at read
    exact nomatch read.symm.trans (unescape?_quote a)
  | c :: cs, [], same => by
    have read := congrArg unescape? same
    rw [List.flatMap_cons, List.append_assoc, unescape?_escapeChar] at read
    exact nomatch read.trans (unescape?_quote b)
  | c :: cs, d :: ds, same => by
    rw [List.flatMap_cons, List.flatMap_cons, List.append_assoc, List.append_assoc] at same
    obtain ⟨rfl, others⟩ := escapeChar_append_inj same
    obtain ⟨rfl, rest⟩ := flatMap_escapeChar_inj others
    exact ⟨rfl, rest⟩

theorem quote_append_inj (same : (quote s).toList ++ a = (quote t).toList ++ b) :
    s = t ∧ a = b := by
  simp only [quote, String.toList_ofList, List.append_assoc, List.cons_append, List.nil_append,
    List.cons.injEq, true_and] at same
  obtain ⟨same, rest⟩ := flatMap_escapeChar_inj same
  exact ⟨String.toList_inj.1 same, rest⟩

end Quoting

/-! ### Trees -/

variable {Num : Type}

structure Legible (number : Num → String) (fine : Num → Prop) : Prop where
  injective : ∀ {x y}, fine x → fine y → number x = number y → x = y
  word : ∀ {x}, fine x → ∀ c ∈ (number x).toList, Scan.isWordChar c
  begins : ∀ {x}, fine x → ∃ c rest, (number x).toList = c :: rest ∧ (c = '-' ∨ c.isDigit)

mutual

def Printable (fine : Num → Prop) : Json Num → Prop
  | .number n => fine n
  | .array elements => PrintableElements fine elements
  | .object fields => PrintableFields fine fields
  | .illFormed => False
  | .null | .bool _ | .string _ => True

def PrintableElements (fine : Num → Prop) : List (Json Num) → Prop
  | [] => True
  | j :: rest => j.Printable fine ∧ PrintableElements fine rest

def PrintableFields (fine : Num → Prop) : List (String × Json Num) → Prop
  | [] => True
  | (_, j) :: rest => j.Printable fine ∧ PrintableFields fine rest

end

inductive Shape
  | null
  | yes
  | no
  | number
  | string
  | array
  | object
  deriving DecidableEq

def shape : Json Num → Shape
  | .null | .illFormed => .null
  | .bool true => .yes
  | .bool false => .no
  | .number _ => .number
  | .string _ => .string
  | .array _ => .array
  | .object _ => .object

def Shape.ofChar (c : Char) : Shape :=
  if c = 'n' then .null else if c = 't' then .yes else if c = 'f' then .no
  else if c = '"' then .string else if c = '[' then .array else if c = '\x7b' then .object
  else .number

theorem Shape.ofChar_of_begins {c : Char} (h : c = '-' ∨ c.isDigit) : ofChar c = .number := by
  have other {d : Char} (sign : d ≠ '-') (digit : ¬ d.isDigit) : c ≠ d := by
    rintro rfl
    exact h.elim sign digit
  rw [ofChar, if_neg (other (by decide) (by decide)), if_neg (other (by decide) (by decide)),
    if_neg (other (by decide) (by decide)), if_neg (other (by decide) (by decide)),
    if_neg (other (by decide) (by decide)), if_neg (other (by decide) (by decide))]

inductive Alike : Json Num → Json Num → Prop
  | null : Alike .null .null
  | bool (b : Bool) : Alike (.bool b) (.bool b)
  | number (n m : Num) : Alike (.number n) (.number m)
  | string (s t : String) : Alike (.string s) (.string t)
  | array (es fs : List (Json Num)) : Alike (.array es) (.array fs)
  | object (fs gs : List (String × Json Num)) : Alike (.object fs) (.object gs)

theorem alike_of_shape {fine : Num → Prop} {j k : Json Num} (hj : j.Printable fine)
    (hk : k.Printable fine) (same : j.shape = k.shape) : Alike j k := by
  rcases j with _ | (_ | _) | _ | _ | _ | _ | _ <;> rcases k with _ | (_ | _) | _ | _ | _ | _ | _
  all_goals first | exact hj.elim | exact hk.elim | constructor | cases same

def Ends (r : List Char) : Prop := ∀ c ∈ r.head?, c = ',' ∨ c = '\n'

theorem word_append_inj {a b r s : List Char} (ha : ∀ c ∈ a, Scan.isWordChar c)
    (hb : ∀ c ∈ b, Scan.isWordChar c) (hr : Ends r) (hs : Ends s) (same : a ++ r = b ++ s) :
    a = b ∧ r = s := by
  have word {a r : List Char} (ha : ∀ c ∈ a, Scan.isWordChar c) (hr : Ends r) :
      (a ++ r).takeWhile Scan.isWordChar = a := by
    rw [List.takeWhile_append_of_pos ha]
    cases r with
    | nil => rw [List.takeWhile_nil, List.append_nil]
    | cons c rest =>
      have other : ¬ Scan.isWordChar c := by
        rcases hr c rfl with rfl | rfl <;> decide
      rw [List.takeWhile_cons_of_neg other, List.append_nil]
  have words : a = b := by rw [← word ha hr, same, word hb hs]
  subst words
  exact ⟨rfl, List.append_cancel_left same⟩

section Layout

variable {level : Nat} {items others : List String} {opening closing : String} {r s : List Char}

def following (level : Nat) (items : List String) (closing : String) : List Char :=
  items.flatMap (fun item => ',' :: (newline (level + 1)).toList ++ item.toList)
    ++ (newline level).toList ++ closing.toList

theorem toList_newline (level : Nat) :
    (newline level).toList = '\n' :: List.replicate (2 * level) ' ' := by
  rw [newline, toList_pushn]
  rfl

theorem append_intercalate (sep : List Char) (item : List Char) (items : List (List Char)) :
    sep ++ sep.intercalate (item :: items) = (item :: items).flatMap (sep ++ ·) := by
  induction items generalizing item with
  | nil => simp
  | cons next rest ih => simp [ih]

theorem following_cons (level : Nat) (item : String) (closing : String) :
    following level (item :: items) closing
      = ',' :: ((newline (level + 1)).toList
        ++ (item.toList ++ following level items closing)) := by
  simp [following]

theorem following_nil_ne {item : String} :
    following level [] closing ++ r ≠ following level (item :: items) closing ++ s := by
  simp [following, toList_newline]

theorem following_cons_inj {item other : String}
    (same : following level (item :: items) closing ++ r
      = following level (other :: others) closing ++ s) :
    item.toList ++ (following level items closing ++ r)
      = other.toList ++ (following level others closing ++ s) := by
  rw [following_cons, following_cons] at same
  simpa using same

def IsClosing (closing : String) : Prop :=
  closing.toList ≠ [] ∧ closing.toList.head? ≠ some '\n'

theorem isClosing_bracket : IsClosing "]" := by
  simp [IsClosing]

theorem isClosing_brace : IsClosing "\x7d" := by
  simp [IsClosing]

def continued (level : Nat) (text : List Char) : List Char :=
  if text.head? = some '\n' then ',' :: text else (newline level).toList ++ text

theorem exists_layOut (closed : IsClosing closing)
    (items : List String) : ∃ text, (layOut opening closing level items).toList
      = opening.toList ++ text ∧
      ∀ r, following level items closing ++ r = continued level (text ++ r) := by
  cases items with
  | nil =>
    refine ⟨closing.toList, String.toList_append, fun r => ?_⟩
    rw [continued, List.head?_append_of_ne_nil _ closed.1, if_neg closed.2]
    simp [following]
  | cons item rest =>
    let sep := ',' :: (newline (level + 1)).toList
    let body := sep.intercalate (item.toList :: rest.map String.toList)
    have joined : sep ++ body = (item :: rest).flatMap fun item => sep ++ item.toList := by
      rw [append_intercalate, ← List.map_cons, List.flatMap_map]
    let text := (newline (level + 1)).toList ++ body ++ (newline level).toList ++ closing.toList
    refine ⟨text, by simp [layOut, text, body, sep], fun r => ?_⟩
    calc following level (item :: rest) closing ++ r
        = sep ++ body ++ (newline level).toList ++ closing.toList ++ r := by rw [joined]; rfl
      _ = ',' :: (text ++ r) := by simp [sep, text]
      _ = continued level (text ++ r) := by simp [continued, text, toList_newline]

theorem following_of_layOut (closed : IsClosing closing)
    (same : (layOut opening closing level items).toList ++ r
      = (layOut opening closing level others).toList ++ s) :
    following level items closing ++ r = following level others closing ++ s := by
  obtain ⟨text, shown, follows⟩ := exists_layOut closed items
  obtain ⟨text', shown', follows'⟩ := exists_layOut closed others
  rw [shown, shown', List.append_assoc, List.append_assoc] at same
  rw [follows, follows', List.append_cancel_left same]

theorem ends_following : Ends (following level items closing ++ r) := by
  unfold following
  cases items <;> simp [Ends, toList_newline]

end Layout

section Printing

variable {number : Num → String} {fine : Num → Prop} {j k : Json Num} {level : Nat}

theorem exists_head_pretty (legible : Legible number fine) (h : j.Printable fine) (level : Nat) :
    ∃ c rest, (j.pretty number level).toList = c :: rest ∧ Shape.ofChar c = j.shape := by
  cases j with
  | null => exact ⟨'n', ['u', 'l', 'l'], by simp [pretty], rfl⟩
  | bool b =>
    cases b with
    | true => exact ⟨'t', ['r', 'u', 'e'], by simp [pretty], rfl⟩
    | false => exact ⟨'f', ['a', 'l', 's', 'e'], by simp [pretty], rfl⟩
  | number n =>
    obtain ⟨c, rest, begins, number⟩ := legible.begins h
    exact ⟨c, rest, begins, Shape.ofChar_of_begins number⟩
  | string s => exact ⟨'"', _, String.toList_ofList, rfl⟩
  | array es =>
    obtain ⟨text, shown, -⟩ :=
      exists_layOut isClosing_bracket (prettyElements number (level + 1) es)
    exact ⟨'[', text, by rw [pretty, shown]; rfl, rfl⟩
  | object fs =>
    obtain ⟨text, shown, -⟩ := exists_layOut isClosing_brace (prettyFields number (level + 1) fs)
    exact ⟨'\x7b', text, by rw [pretty, shown]; rfl, rfl⟩
  | illFormed => exact h.elim

/-- The first character of a text tells what kind of tree it is the form of. -/
theorem alike (legible : Legible number fine) {r s : List Char} (hj : j.Printable fine)
    (hk : k.Printable fine)
    (same : (j.pretty number level).toList ++ r = (k.pretty number level).toList ++ s) :
    Alike j k := by
  obtain ⟨c, rest, text, shape⟩ := exists_head_pretty legible hj level
  obtain ⟨d, rest', text', shape'⟩ := exists_head_pretty legible hk level
  rw [text, text'] at same
  apply alike_of_shape hj hk
  rw [← shape, ← shape', (List.cons.inj same).1]

mutual

theorem pretty_append_inj (legible : Legible number fine) :
    ∀ j : Json Num, j.Printable fine → ∀ (k : Json Num) (level : Nat) (r s : List Char),
      k.Printable fine → Ends r → Ends s →
      (j.pretty number level).toList ++ r = (k.pretty number level).toList ++ s → j = k ∧ r = s
  -- The first characters are the same, so the other tree is of the same kind.
  | .null => by
    intro hj k level r s hk hr hs same
    cases alike legible hj hk same
    exact ⟨rfl, List.append_cancel_left same⟩
  | .bool b => by
    intro hj k level r s hk hr hs same
    cases alike legible hj hk same
    exact ⟨rfl, List.append_cancel_left same⟩
  | .number n => by
    intro hj k level r s hk hr hs same
    cases alike legible hj hk same with
    | number n m =>
      rw [pretty, pretty] at same
      obtain ⟨texts, rest⟩ := word_append_inj (legible.word hj) (legible.word hk) hr hs same
      exact ⟨congrArg Json.number (legible.injective hj hk (String.toList_inj.1 texts)), rest⟩
  | .string t => by
    intro hj k level r s hk hr hs same
    cases alike legible hj hk same with
    | string t u =>
      rw [pretty, pretty] at same
      obtain ⟨texts, rest⟩ := quote_append_inj same
      exact ⟨congrArg Json.string texts, rest⟩
  | .array es => by
    intro hj k level r s hk hr hs same
    cases alike legible hj hk same with
    | array es fs =>
      rw [pretty, pretty] at same
      obtain ⟨elements, rest⟩ :=
        elements_append_inj legible es hj _ _ _ _ hk (following_of_layOut isClosing_bracket same)
      exact ⟨congrArg Json.array elements, rest⟩
  | .object fs => by
    intro hj k level r s hk hr hs same
    cases alike legible hj hk same with
    | object fs gs =>
      rw [pretty, pretty] at same
      obtain ⟨fields, rest⟩ :=
        fields_append_inj legible fs hj _ _ _ _ hk (following_of_layOut isClosing_brace same)
      exact ⟨congrArg Json.object fields, rest⟩
  | .illFormed => fun hj => hj.elim

theorem elements_append_inj (legible : Legible number fine) :
    ∀ es : List (Json Num), PrintableElements fine es →
      ∀ (fs : List (Json Num)) (level : Nat) (r s : List Char), PrintableElements fine fs →
      following level (prettyElements number (level + 1) es) "]" ++ r
        = following level (prettyElements number (level + 1) fs) "]" ++ s → es = fs ∧ r = s
  | [] => by
    intro hes fs level r s hfs same
    cases fs with
    | nil => exact ⟨rfl, List.append_cancel_left same⟩
    | cons f fs => exact absurd same following_nil_ne
  | e :: es => by
    intro hes fs level r s hfs same
    cases fs with
    | nil => exact absurd same.symm following_nil_ne
    | cons f fs =>
      rw [prettyElements, prettyElements] at same
      obtain ⟨rfl, others⟩ := pretty_append_inj legible e hes.1 _ _ _ _ hfs.1 ends_following
        ends_following (following_cons_inj same)
      obtain ⟨rfl, rest⟩ := elements_append_inj legible es hes.2 _ _ _ _ hfs.2 others
      exact ⟨rfl, rest⟩

theorem fields_append_inj (legible : Legible number fine) :
    ∀ fs : List (String × Json Num), PrintableFields fine fs →
      ∀ (gs : List (String × Json Num)) (level : Nat) (r s : List Char), PrintableFields fine gs →
      following level (prettyFields number (level + 1) fs) "\x7d" ++ r
        = following level (prettyFields number (level + 1) gs) "\x7d" ++ s → fs = gs ∧ r = s
  | [] => by
    intro hfs gs level r s hgs same
    cases gs with
    | nil => exact ⟨rfl, List.append_cancel_left same⟩
    | cons g gs => exact absurd same following_nil_ne
  | (name, j) :: fs => by
    intro hfs gs level r s hgs same
    cases gs with
    | nil => exact absurd same.symm following_nil_ne
    | cons g gs =>
      rw [prettyFields, prettyFields] at same
      have same := following_cons_inj same
      simp only [String.toList_append, List.append_assoc] at same
      obtain ⟨rfl, values⟩ := quote_append_inj same
      obtain ⟨rfl, others⟩ := pretty_append_inj legible j hfs.1 _ _ _ _ hgs.1 ends_following
        ends_following (List.append_cancel_left values)
      obtain ⟨rfl, rest⟩ := fields_append_inj legible fs hfs.2 _ _ _ _ hgs.2 others
      exact ⟨rfl, rest⟩

end

theorem pretty_inj (legible : Legible number fine) (hj : j.Printable fine) (hk : k.Printable fine)
    (same : j.pretty number level = k.pretty number level) : j = k := by
  have ends : Ends [] := by simp [Ends]
  exact (pretty_append_inj legible j hj _ _ _ _ hk ends ends (by rw [same])).1

end Printing

end ParticleShaders.Json
