
namespace ParticleShaders

structure BinaryFormat where
  significandBits : Nat
  exponentBits : Nat
  deriving DecidableEq, Repr

namespace BinaryFormat

def binary32 : BinaryFormat := ⟨23, 8⟩

def binary64 : BinaryFormat := ⟨52, 11⟩

def bias (f : BinaryFormat) : Nat := 1 <<< (f.exponentBits - 1) - 1

def leastExponent (f : BinaryFormat) : Int := 1 - f.bias - f.significandBits

def infinity (f : BinaryFormat) : Nat := (1 <<< f.exponentBits - 1) <<< f.significandBits

def decode (f : BinaryFormat) (bits : Nat) : Nat × Int :=
  let biased := bits >>> f.significandBits
  let fraction := bits % 1 <<< f.significandBits
  if biased = 0 then (fraction, f.leastExponent)
  else (fraction + 1 <<< f.significandBits, f.leastExponent + biased - 1)

def roundShift (m shift : Nat) : Nat :=
  let quotient := m >>> shift
  let rest := 2 * (m % 1 <<< shift)
  if rest < 1 <<< shift then quotient
  else if 1 <<< shift < rest then quotient + 1
  else quotient + quotient % 2

/-- The magnitude nearest to `m * 2 ^ e`, a tie to the even one, infinity beyond the largest. -/
def encode (f : BinaryFormat) (m : Nat) (e : Int) : Nat :=
  if m = 0 then 0 else
  let lastPlace := max (m.log2 + e - f.significandBits) f.leastExponent
  let significand :=
    if e < lastPlace then roundShift m (lastPlace - e).toNat else m <<< (e - lastPlace).toNat
  min ((lastPlace - f.leastExponent).toNat <<< f.significandBits + significand) f.infinity

end BinaryFormat

namespace Number

def singleBits (x : Float32) : Bool × Nat :=
  (1 <<< 31 ≤ x.toBits.toNat, x.toBits.toNat % 1 <<< 31)

def doubleBits (x : Float) : Bool × Nat :=
  (1 <<< 63 ≤ x.toBits.toNat, x.toBits.toNat % 1 <<< 63)

def singleOfBits (negative : Bool) (magnitude : Nat) : Float32 :=
  .ofBits ((if negative then 1 <<< 31 else 0) + magnitude).toUInt32

def doubleOfBits (negative : Bool) (magnitude : Nat) : Float :=
  .ofBits ((if negative then 1 <<< 63 else 0) + magnitude).toUInt64

def singleOfInt (i : Int) : Float32 :=
  singleOfBits (i < 0) (BinaryFormat.binary32.encode i.natAbs 0)

def doubleOfInt (i : Int) : Float :=
  doubleOfBits (i < 0) (BinaryFormat.binary64.encode i.natAbs 0)

def narrow (x : Float) : Float32 :=
  let (negative, magnitude) := doubleBits x
  if x.isNaN then .ofBits 0x7fc00000
  else if magnitude = BinaryFormat.binary64.infinity then
    singleOfBits negative BinaryFormat.binary32.infinity
  else
    let (m, e) := BinaryFormat.binary64.decode magnitude
    singleOfBits negative (BinaryFormat.binary32.encode m e)

/-- The order of singles by value, in which `-0.0` stands before `0.0`. -/
def orderKey (x : Float32) : Int :=
  let (negative, magnitude) := singleBits x
  if negative then -(magnitude : Int) - 1 else magnitude

example : (narrow (doubleOfInt 1)).toBits = 0x3f800000 := by decide +kernel

end Number

end ParticleShaders
