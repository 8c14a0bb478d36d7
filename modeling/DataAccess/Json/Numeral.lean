import DataAccess.Json.Basic
/-!
Numerals of JSON and their values: a whole number when the numeral is one and fits 64 bits, else a
double, found by one multiplication or division of its leading digits by a power of ten.
-/

namespace DataAccess.Json

structure Numeral where
  negative : Bool
  whole : List Nat
  fraction : Option (List Nat)
  -- The sign (set for a minus) and the digits after the `e`.
  exponent : Option (Bool × List Nat)

namespace Numeral

-- The largest whole number that a numeral keeps exactly.
def maxWhole : Nat := UInt64.size - 1

def maxExponent : Nat := Int32.maxValue.toNatClampNeg

-- Digits read from the left for as long as the number stays in bounds, and the digits left over.
def accumulate (bound : Nat) : Nat → List Nat → Nat × List Nat
  | n, [] => (n, [])
  | n, d :: ds => if n * 10 + d ≤ bound then accumulate bound (n * 10 + d) ds else (n, d :: ds)

@[simp]
theorem accumulate_nil : accumulate b n [] = (n, []) := rfl

theorem accumulate_le (h : n ≤ b) : (accumulate b n ds).1 ≤ b := by
  fun_induction accumulate b n ds with
  | case1 => exact h
  | case2 _ _ _ hd ih => exact ih hd
  | case3 => exact h

-- Brings the exponent of a small number closer to zero, then scales by the power that remains.
def scale (x : Float) (e : Int) : Option Float :=
  if 308 < e then
    if x == 0 then some x else none
  else if 0 ≤ e then
    let y := x * Float.ofScientific 1 false e.toNat
    if y.isInf then none else some y
  else if e < -308 then
    if x == 0 then some x else scale (x / Float.ofScientific 1 false 308) (e + 308)
  else
    some (x / Float.ofScientific 1 false (-e).toNat)
termination_by (-e).toNat

-- The double nearest to a number of 64 bits.
def nearest (n : Nat) : Float :=
  (UInt64.ofNat n).toFloat

-- The magnitude of a numeral that is not kept as a whole number; nothing if it is out of range.
def magnitude (n : Numeral) : Option Float :=
  let (lead, dropped) := accumulate maxWhole 0 n.whole
  let (digits, places) :=
    match n.fraction with
    | none => (lead, (0 : Int))
    | some ds =>
      let (m, ignored) := accumulate maxWhole lead ds
      (m, (ds.length : Int) - ignored.length)
  let shift := (dropped.length : Int) - places
  match n.exponent with
  | none => scale (nearest digits) shift
  | some (minus, es) =>
    match accumulate maxExponent 0 es with
    | (_, _ :: _) => if digits = 0 ∨ minus then some 0 else none
    | (e, []) => scale (nearest digits) (if minus then shift - e else shift + e)

def signed (negative : Bool) (x : Float) : Float :=
  if negative then -x else x

-- The value of a numeral, unless it is beyond the largest double.
def value (n : Numeral) : Option Number :=
  let real := (n.magnitude.map (Number.real <| signed n.negative ·))
  if n.fraction.isSome ∨ n.exponent.isSome then real
  else
    match accumulate maxWhole 0 n.whole with
    | (_, _ :: _) => real
    | (m, []) =>
      if n.negative then
        if 0 < m ∧ m ≤ Nat.pow 2 63 then some (.whole (-m)) else real
      else some (.whole m)

end Numeral
end DataAccess.Json
