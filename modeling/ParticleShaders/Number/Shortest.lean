import ParticleShaders.Number.Binary
/-! The fewest decimal digits that still read back as a given binary number. A grid of spacing
`10 ^ p` is fine enough once one of the number's two neighbours on it rounds to the number. -/

namespace ParticleShaders

inductive Tie
  | up
  | even
  deriving DecidableEq, Repr

structure Decimal where
  digits : Nat
  exponent : Int
  deriving DecidableEq, Repr

namespace BinaryFormat

variable (f : BinaryFormat)

/-- The reals that round to a magnitude, in quarters of its last place: the lower and the upper
end, and whether the ends belong to them. -/
def rounding (bits : Nat) : Nat × Nat × Bool :=
  let m := (f.decode bits).1
  let narrowBelow := m = 1 <<< f.significandBits ∧ 1 <<< (f.significandBits + 1) ≤ bits
  (4 * m - (if narrowBelow then 1 else 2), 4 * m + 2, m % 2 = 0)

/-- The neighbour on the grid of spacing `10 ^ p` that reads back, as a multiple of the spacing. -/
def gridPoint? (tie : Tie) (bits : Nat) (p : Int) : Option Nat :=
  let (m, e) := f.decode bits
  let (low, high, closed) := f.rounding bits
  let scale := Nat.pow 10 (-p).toNat <<< (e - 2).toNat
  let unit := Nat.pow 10 p.toNat <<< (2 - e).toNat
  let inside (n : Nat) : Bool :=
    if closed then low * scale ≤ n * unit && n * unit ≤ high * scale
    else low * scale < n * unit && n * unit < high * scale
  let below := 4 * m * scale / unit
  let toBelow := 4 * m * scale - below * unit
  let toAbove := (below + 1) * unit - 4 * m * scale
  match inside below, inside (below + 1) with
  | false, false => none
  | true, false => some below
  | false, true => some (below + 1)
  | true, true =>
    if toBelow < toAbove then some below
    else if toAbove < toBelow then some (below + 1)
    else match tie with
      | .up => some (below + 1)
      | .even => some (below + below % 2)

def search (tie : Tie) (bits : Nat) : Nat → Int → Decimal
  | 0, p => ⟨(f.gridPoint? tie bits p).getD 0, p⟩
  | fuel + 1, p =>
    match f.gridPoint? tie bits p with
    | some n => ⟨n, p⟩
    | none => search tie bits fuel (p - 1)

/-- The shortest decimal that reads back as the positive finite magnitude `bits`, the nearest one
of that length. The search starts above the number's own power of ten. -/
def shortest (tie : Tie) (bits : Nat) : Decimal :=
  let (m, e) := f.decode bits
  let start := (m.log2 + e + 1) * 1233 / 4096 + 2
  f.search tie bits (start - min e 0).toNat start

end BinaryFormat

end ParticleShaders
