import ParticleShaders.Json.Basic
import ParticleShaders.Number.Style

namespace ParticleShaders

namespace Number

def write : Number → String
  | .int i => toString i
  | .double x => doubleStyle.write .binary64 (doubleBits x)

end Number

namespace Json

variable {Num : Type}

def hexDigit (n : Nat) : Char := Nat.digitChar n

def escapeChar (c : Char) : List Char :=
  if c = '"' then ['\\', '"']
  else if c = '\\' then ['\\', '\\']
  else if c = '\x08' then ['\\', 'b']
  else if c = '\x0c' then ['\\', 'f']
  else if c = '\n' then ['\\', 'n']
  else if c = '\r' then ['\\', 'r']
  else if c = '\t' then ['\\', 't']
  else if c.toNat < 0x20 then
    ['\\', 'u', '0', '0', hexDigit (c.toNat / 16), hexDigit (c.toNat % 16)]
  else [c]

def quote (s : String) : String := String.ofList ('"' :: s.toList.flatMap escapeChar ++ ['"'])

mutual

/-- Without any space. An ill formed part has no written form of its own and shows as `null`. -/
def compact (number : Num → String) : Json Num → String
  | .null => "null"
  | .bool true => "true"
  | .bool false => "false"
  | .number n => number n
  | .string s => quote s
  | .array elements => "[" ++ ",".intercalate (compactElements number elements) ++ "]"
  | .object fields => "\x7b" ++ ",".intercalate (compactFields number fields) ++ "\x7d"
  | .illFormed => "null"

def compactElements (number : Num → String) : List (Json Num) → List String
  | [] => []
  | j :: rest => j.compact number :: compactElements number rest

def compactFields (number : Num → String) : List (String × Json Num) → List String
  | [] => []
  | (name, j) :: rest => (quote name ++ ":" ++ j.compact number) :: compactFields number rest

end

def newline (level : Nat) : String := "\n".pushn ' ' (2 * level)

def layOut (opening closing : String) (level : Nat) : List String → String
  | [] => opening ++ closing
  | items => opening ++ newline (level + 1)
      ++ ("," ++ newline (level + 1)).intercalate items ++ newline level ++ closing

mutual

def pretty (number : Num → String) (level : Nat) : Json Num → String
  | .null => "null"
  | .bool true => "true"
  | .bool false => "false"
  | .number n => number n
  | .string s => quote s
  | .array elements => layOut "[" "]" level (prettyElements number (level + 1) elements)
  | .object fields => layOut "\x7b" "\x7d" level (prettyFields number (level + 1) fields)
  | .illFormed => "null"

def prettyElements (number : Num → String) (level : Nat) : List (Json Num) → List String
  | [] => []
  | j :: rest => j.pretty number level :: prettyElements number level rest

def prettyFields (number : Num → String) (level : Nat) : List (String × Json Num) → List String
  | [] => []
  | (name, j) :: rest =>
    (quote name ++ ": " ++ j.pretty number level) :: prettyFields number level rest

end

def write (j : Json Number) : String := j.compact Number.write

end Json

end ParticleShaders
