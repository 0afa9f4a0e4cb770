import ParticleShaders.Json.Basic

namespace ParticleShaders

structure Numeral where
  negative : Bool
  whole : List Nat
  fraction : Option (List Nat)
  exponent : Option Int
  deriving DecidableEq, Repr

namespace Numeral

def digitsValue (digits : List Nat) : Nat := digits.foldl (fun n d => 10 * n + d) 0

def absorb : Nat → List Nat → Nat × List Nat
  | n, [] => (n, [])
  | n, d :: rest => if 10 * n + d < 1 <<< 64 then absorb (10 * n + d) rest else (n, d :: rest)

def powerOfTen (n : Nat) : Float := .ofScientific 1 false n

/-- `x * 10 ^ e`, by one multiplication or division where a double holds the power of ten, and
`none` beyond the largest double. -/
def scale (x : Float) (e : Int) : Option Float :=
  if x == 0.0 then some x
  else if 308 < e then none
  else if 0 ≤ e then
    let scaled := x * powerOfTen e.toNat
    if scaled.isInf then none else some scaled
  else if -308 ≤ e then some (x / powerOfTen (-e).toNat)
  else if -616 ≤ e then some (x / powerOfTen 308 / powerOfTen (-e - 308).toNat)
  else some 0.0

def significand (n : Numeral) : Nat × Int :=
  let (first, dropped) := absorb 0 n.whole
  let fraction := n.fraction.getD []
  let (all, unused) := absorb first fraction
  (all, dropped.length - (fraction.length - unused.length : Nat) + n.exponent.getD 0)

def double? (n : Numeral) : Option Float :=
  let (m, e) := n.significand
  (scale (Number.doubleOfInt m) e).map fun x => if n.negative then -x else x

def number? (n : Numeral) : Option Number :=
  let whole := digitsValue n.whole
  if n.fraction.isNone && n.exponent.isNone && !n.negative && whole < 1 <<< 64 then
    some (.int whole)
  else if n.fraction.isNone && n.exponent.isNone && n.negative && 0 < whole && whole ≤ 1 <<< 63 then
    some (.int (-whole))
  else n.double?.map .double

def digit? (c : Char) : Option Nat :=
  if '0' ≤ c ∧ c ≤ '9' then some (c.toNat - '0'.toNat) else none

def spanDigits : List Char → List Nat × List Char
  | [] => ([], [])
  | c :: rest => match digit? c with
    | some d => let (ds, after) := spanDigits rest; (d :: ds, after)
    | none => ([], c :: rest)

def exponent? (cs : List Char) : Option Int :=
  let (negative, cs) := match cs with
    | '+' :: rest => (false, rest)
    | '-' :: rest => (true, rest)
    | rest => (false, rest)
  match spanDigits cs with
  | (d :: ds, []) =>
    let magnitude : Int := digitsValue (d :: ds)
    some (if negative then -magnitude else magnitude)
  | _ => none

def parse? (cs : List Char) : Option Numeral := do
  let (negative, cs) := match cs with
    | '-' :: rest => (true, rest)
    | rest => (false, rest)
  let (whole, cs) := spanDigits cs
  guard (whole ≠ [] ∧ (whole.head? = some 0 → whole.length = 1))
  let (fraction, cs) ← match cs with
    | '.' :: rest =>
      let (ds, after) := spanDigits rest
      if ds.isEmpty then none else some (some ds, after)
    | rest => some (none, rest)
  match cs with
  | [] => return ⟨negative, whole, fraction, none⟩
  | mark :: rest =>
    guard (mark = 'e' ∨ mark = 'E')
    return ⟨negative, whole, fraction, some (← exponent? rest)⟩

example : (parse? "-12.50e-3".toList) = some ⟨true, [1, 2], some [5, 0], some (-3)⟩ := by
  decide +kernel

end Numeral

end ParticleShaders
