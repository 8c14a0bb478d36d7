import DataAccess.Text.Ascii
import DataAccess.Toml.Basic
/-!
Values of TOML that are written in one word: truth values, numbers, dates and times.
-/

namespace DataAccess.Toml.Scalar

open Text (digitValue?)

-- Digits with single underscores between them.
def digits? (base : Nat) : List Char → Option (List Nat)
  | [] => none
  | [c] => do return [← digitValue? base c]
  | c :: '_' :: s => do return (← digitValue? base c) :: (← digits? base s)
  | c :: s => do return (← digitValue? base c) :: (← digits? base s)

def ofDigits (base : Nat) (ds : List Nat) : Nat :=
  ds.foldl (fun n d => n * base + d) 0

-- Decimal digits without a zero in front.
def decimal? (s : List Char) : Option (List Nat) :=
  match digits? 10 s with
  | some (0 :: _ :: _) => none
  | r => r

-- A sign and what follows it; set for a minus.
def sign : List Char → Bool × List Char
  | '-' :: s => (true, s)
  | '+' :: s => (false, s)
  | s => (false, s)

-- A whole number of 64 bits. Only decimal ones have a sign.
def integer? (s : List Char) : Option Int := do
  let n : Int ←
    match s with
    | '0' :: 'x' :: s => do pure (ofDigits 16 (← digits? 16 s))
    | '0' :: 'o' :: s => do pure (ofDigits 8 (← digits? 8 s))
    | '0' :: 'b' :: s => do pure (ofDigits 2 (← digits? 2 s))
    | s => do
      let n := ofDigits 10 (← decimal? (sign s).2)
      pure (if (sign s).1 then -(n : Int) else n)
  if Int64.minValue.toInt ≤ n ∧ n ≤ Int64.maxValue.toInt then some n else none

-- Splits at the first of some characters.
def splitAt (stops : List Char) (s : List Char) : List Char × Option (List Char) :=
  match s.dropWhile (· ∉ stops) with
  | [] => (s, none)
  | _ :: rest => (s.takeWhile (· ∉ stops), some rest)

-- Whether a number is so great that no float is near it.
def isBeyond (m : Nat) (e : Int) : Bool :=
  let size := (Nat.repr m).length + e
  let bound := Nat.pow 2 1024 - Nat.pow 2 970
  if m = 0 ∨ size < 309 then false
  else if 310 < size then true
  else if 0 ≤ e then bound ≤ m * Nat.pow 10 e.toNat
  else bound * Nat.pow 10 (-e).toNat ≤ m

-- A number with a fraction or an exponent. A positive one must not be beyond the floats.
def isFloat (s : List Char) : Bool :=
  let (negative, s) := sign s
  if s = "inf".toList ∨ s = "nan".toList then true
  else
    let (mantissa, power) := splitAt ['e', 'E'] s
    let (whole, fraction) := splitAt ['.'] mantissa
    let (down, exponent) := sign (power.getD ['0'])
    match decimal? whole, digits? 10 (fraction.getD ['0']), digits? 10 exponent with
    | some ds, some fs, some es =>
      let shift : Int := if down then -ofDigits 10 es else ofDigits 10 es
      (fraction.isSome || power.isSome) &&
        (negative || !isBeyond (ofDigits 10 (ds ++ fs)) (shift - fs.length))
    | _, _, _ => false

-- A number of so many digits.
def fixed? (width : Nat) (s : List Char) : Option Nat :=
  if s.length = width ∧ s.all Char.isDigit then some (ofDigits 10 (s.map fun c => c.toNat - '0'.toNat))
  else none

def daysOfMonth (year month : Nat) : Nat :=
  if month = 2 then
    if year % 4 = 0 ∧ (year % 100 ≠ 0 ∨ year % 400 = 0) then 29 else 28
  else if month = 4 ∨ month = 6 ∨ month = 9 ∨ month = 11 then 30
  else 31

-- A date as in `1979-05-27`.
def isDate : List Char → Bool
  | [y₁, y₂, y₃, y₄, '-', m₁, m₂, '-', d₁, d₂] =>
    match fixed? 4 [y₁, y₂, y₃, y₄], fixed? 2 [m₁, m₂], fixed? 2 [d₁, d₂] with
    | some y, some m, some d => 1 ≤ m && m ≤ 12 && 1 ≤ d && d ≤ daysOfMonth y m
    | _, _, _ => false
  | _ => false

def isClock (hour minute second : List Char) : Bool :=
  match fixed? 2 hour, fixed? 2 minute, fixed? 2 second with
  | some h, some m, some s => h ≤ 23 && m ≤ 59 && s ≤ 60
  | _, _, _ => false

-- A time as in `07:32:00.999`.
def isTime : List Char → Bool
  | h₁ :: h₂ :: ':' :: m₁ :: m₂ :: ':' :: s₁ :: s₂ :: fraction =>
    isClock [h₁, h₂] [m₁, m₂] [s₁, s₂] &&
      match fraction with
      | [] => true
      | '.' :: ds => !ds.isEmpty && ds.all Char.isDigit
      | _ => false
  | _ => false

def isOffset : List Char → Bool
  | [c, h₁, h₂, ':', m₁, m₂] => (c = '+' || c = '-') && isClock [h₁, h₂] [m₁, m₂] ['0', '0']
  | _ => false

-- A time, which after a date can have an offset.
def isTimeWithOffset (s : List Char) : Bool :=
  isTime s || (s.getLast? ∈ [some 'Z', some 'z'] && isTime s.dropLast) ||
    (isOffset (s.drop (s.length - 6)) && isTime (s.take (s.length - 6)))

def isMoment (s : List Char) : Bool :=
  isDate s || isTime s ||
    (isDate (s.take 10) && (s.drop 10).head? ∈ [some 'T', some 't', some ' '] &&
      isTimeWithOffset (s.drop 11))

def read? (s : List Char) : Option Value :=
  if s = "true".toList then some (.boolean true)
  else if s = "false".toList then some (.boolean false)
  else
    match integer? s with
    | some n => some (.integer n)
    | none => if isFloat s || isMoment s then some .other else none

end DataAccess.Toml.Scalar
