import ParticleShaders.Json.Numeral

namespace ParticleShaders.Json

inductive Token
  | openArray
  | closeArray
  | openObject
  | closeObject
  | colon
  | comma
  | text (content : Option String)
  | atom (value : Json Number)

inductive Piece
  | char (c : Char)
  | unit (code : Nat)

namespace Piece

def assemble : List Piece → Option (List Char)
  | [] => some []
  | .char c :: rest => (assemble rest).map (c :: ·)
  | .unit high :: .unit low :: rest =>
    if 0xD800 ≤ high ∧ high < 0xDC00 then
      if 0xDC00 ≤ low ∧ low < 0xE000 then
        (assemble rest).map (.ofNat (0x10000 + (high - 0xD800) * 0x400 + (low - 0xDC00)) :: ·)
      else none
    else if 0xDC00 ≤ high ∧ high < 0xE000 then none
    else (assemble (.unit low :: rest)).map (.ofNat high :: ·)
  | .unit code :: rest =>
    if 0xD800 ≤ code ∧ code < 0xE000 then none else (assemble rest).map (.ofNat code :: ·)

end Piece

/-- What the characters so far are in the middle of; what has been gathered stands newest first. -/
inductive Mode
  | between
  | word (chars : List Char)
  | text (pieces : List Piece)
  | escape (pieces : List Piece)
  | unit (pieces : List Piece) (missing : Nat) (code : Nat)

structure Scan where
  tokens : List Token
  mode : Mode

namespace Scan

def isWordChar (c : Char) : Bool := c.isAlphanum || c = '+' || c = '-' || c = '.'

def word? (chars : List Char) : Option Token :=
  match String.ofList chars with
  | "null" => some (.atom .null)
  | "true" => some (.atom (.bool true))
  | "false" => some (.atom (.bool false))
  | _ => (Numeral.parse? chars).map fun n => match n.number? with
    | some x => .atom (.number x)
    | none => .atom .illFormed

def escaped? : Char → Option Char
  | '"' => some '"'
  | '\\' => some '\\'
  | '/' => some '/'
  | 'b' => some '\x08'
  | 'f' => some '\x0c'
  | 'n' => some '\n'
  | 'r' => some '\r'
  | 't' => some '\t'
  | _ => none

def hexDigit? (c : Char) : Option Nat :=
  if '0' ≤ c ∧ c ≤ '9' then some (c.toNat - '0'.toNat)
  else if 'a' ≤ c ∧ c ≤ 'f' then some (c.toNat - 'a'.toNat + 10)
  else if 'A' ≤ c ∧ c ≤ 'F' then some (c.toNat - 'A'.toNat + 10)
  else none

def start? (tokens : List Token) : Char → Option Scan
  | '[' => some ⟨.openArray :: tokens, .between⟩
  | ']' => some ⟨.closeArray :: tokens, .between⟩
  | '\x7b' => some ⟨.openObject :: tokens, .between⟩
  | '\x7d' => some ⟨.closeObject :: tokens, .between⟩
  | ':' => some ⟨.colon :: tokens, .between⟩
  | ',' => some ⟨.comma :: tokens, .between⟩
  | '"' => some ⟨tokens, .text []⟩
  | c =>
    if c = ' ' || c = '\n' || c = '\r' || c = '\t' then some ⟨tokens, .between⟩
    else if isWordChar c then some ⟨tokens, .word [c]⟩
    else none

def step? (s : Scan) (c : Char) : Option Scan :=
  match s.mode with
  | .between => start? s.tokens c
  | .word chars =>
    if isWordChar c then some ⟨s.tokens, .word (c :: chars)⟩
    else do start? ((← word? chars.reverse) :: s.tokens) c
  | .text pieces =>
    if c = '"' then
      some ⟨.text ((Piece.assemble pieces.reverse).map String.ofList) :: s.tokens, .between⟩
    else if c = '\\' then some ⟨s.tokens, .escape pieces⟩
    else if c.toNat < 0x20 then none
    else some ⟨s.tokens, .text (.char c :: pieces)⟩
  | .escape pieces =>
    if c = 'u' then some ⟨s.tokens, .unit pieces 4 0⟩
    else do return ⟨s.tokens, .text (.char (← escaped? c) :: pieces)⟩
  | .unit pieces missing code => do
    let code := 16 * code + (← hexDigit? c)
    if missing ≤ 1 then return ⟨s.tokens, .text (.unit code :: pieces)⟩
    else return ⟨s.tokens, .unit pieces (missing - 1) code⟩

def finish? (s : Scan) : Option (List Token) :=
  match s.mode with
  | .between => some s.tokens.reverse
  | .word chars => do return (s.tokens.reverse ++ [← word? chars.reverse])
  | _ => none

end Scan

def tokens? (text : String) : Option (List Token) := do
  (← text.toList.foldlM Scan.step? ⟨[], .between⟩).finish?

theorem tokens?_of_chars {text : String} {cs : List Char} (spelled : text = String.ofList cs) :
    tokens? text = cs.foldlM Scan.step? ⟨[], .between⟩ >>= Scan.finish? := by
  rw [spelled, tokens?, String.toList_ofList]

end ParticleShaders.Json
