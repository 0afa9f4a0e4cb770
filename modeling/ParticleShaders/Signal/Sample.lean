import ParticleShaders.Param.Value

namespace ParticleShaders

inductive Signal
  | gradient (keys : List (Key Color))
  | curve (keys : List (Key Float32))

namespace Signal

variable {α : Type}

def sortKeys (keys : List (Key α)) : List (Key α) :=
  keys.mergeSort fun a b => Number.orderKey a.time ≤ Number.orderKey b.time

def ofValue? : ParamValue → Option Signal
  | .colorGradient keys => some (.gradient (sortKeys keys))
  | .curve keys => some (.curve (sortKeys keys))
  | _ => none

def mix (a b f : Float32) : Float32 := a + (b - a) * f

def mixColors (a b : Color) (f : Float32) : Color := a.zipWith (mix · · f) b

def between (blend : α → α → Float32 → α) (t : Float32) : Key α → List (Key α) → α
  | a, [] => a.value
  | a, b :: rest =>
    if t ≤ b.time then
      let span := b.time - a.time
      blend a.value b.value (if span > ParamValue.zero then (t - a.time) / span else ParamValue.one)
    else between blend t b rest

/-- The value at a time: linear between sorted keys, and constant before and after them. -/
def sample (blend : α → α → Float32 → α) (empty : α) (keys : List (Key α)) (t : Float32) : α :=
  match keys with
  | [] => empty
  | first :: rest =>
    let last := (first :: rest).getLast (List.cons_ne_nil first rest)
    if t ≤ first.time then first.value
    else if t ≥ last.time then last.value
    else between blend t first rest

def white : Color := .replicate 4 ParamValue.one

def rowWidth : Nat := 128

def fraction (x : Nat) : Float32 := Number.singleOfInt x / Number.singleOfInt (rowWidth - 1 : Nat)

def gradientRow (keys : List (Key Color)) : List Float32 :=
  (List.range rowWidth).flatMap fun x => (sample mixColors white keys (fraction x)).toList

def extent (keys : List (Key Float32)) : Float32 × Float32 :=
  let low := (keys.head?.map (·.time)).getD ParamValue.zero
  let high := (keys.getLast?.map (·.time)).getD ParamValue.one
  (low, if high > low then high - low else ParamValue.one)

def curveRow (keys : List (Key Float32)) : List Float32 :=
  let (low, range) := extent keys
  (List.range rowWidth).map fun (x : Nat) =>
    sample mix ParamValue.zero keys
      (low + range * Number.singleOfInt x / Number.singleOfInt (rowWidth - 1 : Nat))

end Signal

end ParticleShaders
