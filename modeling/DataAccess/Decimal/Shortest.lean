/-!
The shortest decimal of a double: the fewest digits that read back as it, and of those the ones
nearest to it. A double is `mantissa * 2 ^ exponent`; all comparisons are exact.
-/

namespace DataAccess.Decimal

structure Binary where
  mantissa : Nat
  exponent : Int

namespace Binary

def ofFloat (x : Float) : Binary :=
  let bits : Nat := x.toBits.toNat % Nat.pow 2 63
  let field : Nat := bits / Nat.pow 2 52
  let low : Nat := bits % Nat.pow 2 52
  if field = 0 then ⟨low, -1074⟩ else ⟨Nat.pow 2 52 + low, (field : Int) - 1075⟩

-- The next double toward zero is only half as far away as the next one from zero.
def isUneven (b : Binary) : Bool :=
  b.mantissa = Nat.pow 2 52 ∧ -1074 < b.exponent

end Binary

-- The ratio of two numbers, to be compared with multiples of a power of ten.
structure Ratio where
  num : Nat
  den : Nat

-- `n * 2 ^ e / 4`, so that the bounds of what reads back as a double are ratios too.
def Ratio.quarters (n : Nat) (e : Int) : Ratio :=
  if 0 ≤ e then ⟨n * Nat.pow 2 e.toNat, 4⟩ else ⟨n, 4 * Nat.pow 2 (-e).toNat⟩

-- A ratio divided by a power of ten.
def Ratio.shift (r : Ratio) (e : Int) : Ratio :=
  if 0 ≤ e then ⟨r.num, r.den * Nat.pow 10 e.toNat⟩ else ⟨r.num * Nat.pow 10 (-e).toNat, r.den⟩

def countDigits (n : Nat) : Nat :=
  (Nat.toDigits 10 n).length

-- The exponent of the first digit: the largest power of ten that is no more than the ratio.
def Ratio.leading (r : Ratio) : Int :=
  if r.den ≤ r.num then (countDigits (r.num / r.den) : Int) - 1
  else
    let up := (r.den + r.num - 1) / r.num
    if up ≤ 1 then 0 else -(countDigits (up - 1) : Int)

-- The digits of a positive number, as a number, and the exponent of the first digit.
structure Digits where
  digits : Nat
  leading : Int

-- A multiple of the unit that lies in the interval: of two, the nearer, and of two equally near,
-- the even one.
def onGrid? (b : Binary) (unit : Int) : Option Nat :=
  let value := (Ratio.quarters (4 * b.mantissa) b.exponent).shift unit
  let low := (Ratio.quarters (4 * b.mantissa - (if b.isUneven then 1 else 2)) b.exponent).shift unit
  let high := (Ratio.quarters (4 * b.mantissa + 2) b.exponent).shift unit
  let closed := b.mantissa % 2 = 0
  let inside (n : Nat) : Bool :=
    if closed then low.num ≤ n * low.den ∧ n * high.den ≤ high.num
    else low.num < n * low.den ∧ n * high.den < high.num
  let below := value.num / value.den
  let above := below + 1
  let doubled := 2 * (value.num % value.den)
  let nearer :=
    if doubled < value.den ∨ (doubled = value.den ∧ below % 2 = 0) then below else above
  if inside nearer then some nearer
  else if inside below then some below
  else if inside above then some above
  else none

-- The first of the grids, each ten times finer than the one before, on which there is a number.
def search (b : Binary) (leading : Int) : Nat → Nat → Digits
  | 0, n => ⟨(onGrid? b (leading + 1 - n)).getD 0, leading⟩
  | more + 1, n =>
    match onGrid? b (leading + 1 - n) with
    | some 0 | none => search b leading more (n + 1)
    | some d => if countDigits d = n then ⟨d, leading⟩ else ⟨d / 10, leading + 1⟩

-- Seventeen digits are enough for every double.
def shortest (b : Binary) : Digits :=
  search b (Ratio.quarters (4 * b.mantissa) b.exponent).leading 16 1

-- Which exponents are written by position.
structure Layout where
  least : Int
  greatest : Int

namespace Digits

-- The digits with a point before, among or after them.
def positional (d : Digits) : String :=
  let ds := Nat.repr d.digits
  if d.leading < 0 then "0." ++ "".pushn '0' (-d.leading - 1).toNat ++ ds
  else
    let whole := d.leading.toNat + 1
    if ds.length ≤ whole then ds ++ "".pushn '0' (whole - ds.length) ++ ".0"
    else .ofList (ds.toList.take whole) ++ "." ++ .ofList (ds.toList.drop whole)

-- The digits with a point after the first, and an exponent with its sign.
def scientific (d : Digits) : String :=
  let mantissa :=
    match (Nat.repr d.digits).toList with
    | [] => ""
    | [c] => .ofList [c]
    | c :: cs => .ofList (c :: '.' :: cs)
  let sign := if d.leading < 0 then "-" else "+"
  mantissa ++ "e" ++ sign ++ Nat.repr d.leading.natAbs

end Digits

-- Numbers from `0.00001` up to sixteen digits are written by position.
def standard : Layout :=
  { least := -5, greatest := 15 }

-- A finite double, with a point or an exponent, so that it does not look like a whole number.
def render (x : Float) : String :=
  let sign := if x.toBits.toNat < Nat.pow 2 63 then "" else "-"
  let b := Binary.ofFloat x
  if b.mantissa = 0 then sign ++ "0.0"
  else
    let d := shortest b
    if standard.least ≤ d.leading ∧ d.leading ≤ standard.greatest then
      sign ++ d.positional
    else sign ++ d.scientific

end DataAccess.Decimal
