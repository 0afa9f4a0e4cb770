import ParticleShaders.Number.Shortest

namespace ParticleShaders

/-- How a finite number is written. `positional` is asked about the exponent of the leading
digit. -/
structure NumberStyle where
  tie : Tie
  positional : Int → Bool

namespace NumberStyle

def placePoint (digits : String) (exponent : Int) : String :=
  let leading := digits.length + exponent - 1
  if 0 ≤ exponent then digits ++ "".pushn '0' exponent.toNat ++ ".0"
  else if 0 ≤ leading then
    String.ofList (digits.toList.take (leading + 1).toNat) ++ "."
      ++ String.ofList (digits.toList.drop (leading + 1).toNat)
  else "0." ++ "".pushn '0' (-leading - 1).toNat ++ digits

def scientific (digits : String) (exponent : Int) : String :=
  let leading := digits.length + exponent - 1
  let mantissa := match digits.toList with
    | first :: second :: rest => String.ofList (first :: '.' :: second :: rest)
    | short => String.ofList short
  mantissa ++ (if leading < 0 then "e-" else "e+") ++ toString leading.natAbs

variable (style : NumberStyle)

def decimal (d : Decimal) : String :=
  let digits := toString d.digits
  if style.positional (digits.length + d.exponent - 1) then placePoint digits d.exponent
  else scientific digits d.exponent

def write (f : BinaryFormat) (bits : Bool × Nat) : String :=
  (if bits.1 then "-" else "")
    ++ (if bits.2 = 0 then "0.0" else style.decimal (f.shortest style.tie bits.2))

end NumberStyle

namespace Number

def literalStyle : NumberStyle := ⟨.up, fun _ => true⟩

def singleStyle : NumberStyle := ⟨.even, fun e => -6 ≤ e && e ≤ 12⟩

def doubleStyle : NumberStyle := ⟨.even, fun e => -5 ≤ e && e ≤ 15⟩

def singleIsFinite (x : Float32) : Bool := (singleBits x).2 < BinaryFormat.binary32.infinity

/-- A float literal of a shader. It always has a fraction, so that it never reads as an integer;
what is not finite is written as zero. -/
def literal (x : Float32) : String :=
  if singleIsFinite x then literalStyle.write .binary32 (singleBits x) else "0.0"

example : literal (.ofBits 0x3dcccccd) = "0.1" := by decide +kernel

example : singleStyle.write .binary32 (singleBits (.ofBits 0x58635fa9)) = "1e+15" := by
  decide +kernel

end Number

end ParticleShaders
