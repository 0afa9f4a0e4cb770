import ParticleShaders.Text.Unprintable

namespace ParticleShaders.Text

def hex (n : Nat) : List Char := Nat.toDigits 16 n

/-- Quote and backslash are escaped, five controls are named, and what cannot be shown is written
by its code point. -/
def quoteChar (c : Char) : List Char :=
  match c with
  | '\x00' => ['\\', '0']
  | '\t' => ['\\', 't']
  | '\n' => ['\\', 'n']
  | '\r' => ['\\', 'r']
  | '"' => ['\\', '"']
  | '\\' => ['\\', '\\']
  | c => if isUnprintable c then '\\' :: 'u' :: '\x7b' :: hex c.toNat ++ ['\x7d'] else [c]

def quoted (s : String) : String := String.ofList ('"' :: s.toList.flatMap quoteChar ++ ['"'])

end ParticleShaders.Text
