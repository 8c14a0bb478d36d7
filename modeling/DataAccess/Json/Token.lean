import DataAccess.Json.Numeral
/-!
Tokens of JSON text, read from its bytes. A text that stops being JSON ends in a flawed token.
-/

namespace DataAccess.Json

-- A text that is not JSON ends too early, or has something where nothing of the kind may stand.
inductive Malformed
  | ended
  | unexpected
deriving DecidableEq

-- A value may be read or skipped. What is skipped is checked less strictly: a string may hold any
-- bytes and lone surrogates, and a numeral that ends too early is a wrong numeral. So one flaw can
-- look different to the two.
inductive Flaw
  | absent (m : Malformed)
  | literal (m : Malformed)
  | numeral (m : Malformed)
  | quoted (read skipped : Malformed)

namespace Flaw

def read : Flaw → Malformed
  | absent m | literal m | numeral m | quoted m _ => m

def skipped : Flaw → Malformed
  | absent m | literal m | quoted _ m => m
  | numeral _ => .unexpected

end Flaw

inductive Token
  | null
  | bool (b : Bool)
  -- A numeral can be out of range and a string of the wrong characters, but only for a reader.
  | number (n : Except Malformed Number)
  | text (s : Except Malformed String)
  | openList
  | closeList
  | openRecord
  | closeRecord
  | comma
  | colon
  | flawed (f : Flaw)

namespace Token

def isSpace (b : UInt8) : Bool :=
  b = 0x20 || b = 0x09 || b = 0x0A || b = 0x0D

def isDigit (b : UInt8) : Bool :=
  0x30 ≤ b && b ≤ 0x39

def digit (b : UInt8) : Nat :=
  b.toNat - 0x30

-- The digits that a text starts with, and the rest of it.
def digits (s : List UInt8) : List Nat × List UInt8 :=
  ((s.takeWhile isDigit).map digit, s.dropWhile isDigit)

theorem digits_length_le (s : List UInt8) : (digits s).2.length ≤ s.length :=
  (List.dropWhile_sublist isDigit).length_le

def hexDigit? (b : UInt8) : Option Nat :=
  if isDigit b then some (b.toNat - 0x30)
  else if 0x41 ≤ b && b ≤ 0x46 then some (b.toNat - 0x41 + 10)
  else if 0x61 ≤ b && b ≤ 0x66 then some (b.toNat - 0x61 + 10)
  else none

def hexUnit? (a b c d : UInt8) : Option Nat := do
  return (((← hexDigit? a) * 16 + (← hexDigit? b)) * 16 + (← hexDigit? c)) * 16 + (← hexDigit? d)

-- The byte for which a backslash and a letter stand.
def escaped? (b : UInt8) : Option UInt8 :=
  if b = 0x22 || b = 0x5C || b = 0x2F then some b
  else if b = 0x62 then some 0x08
  else if b = 0x66 then some 0x0C
  else if b = 0x6E then some 0x0A
  else if b = 0x72 then some 0x0D
  else if b = 0x74 then some 0x09
  else none

-- What a string is made of: bytes, plain or escaped by a letter, and 16-bit units in hexadecimal.
inductive Piece
  | byte (b : UInt8)
  | unit (n : Nat)

-- The pieces of a string up to its quote, with what follows the quote.
def pieces (before : List Piece) : List UInt8 → List Piece × Except Malformed (List UInt8)
  | [] => (before.reverse, .error .ended)
  | 0x22 :: s => (before.reverse, .ok s)
  | 0x5C :: 0x75 :: a :: b :: c :: d :: s =>
    match hexUnit? a b c d with
    | some n => pieces (.unit n :: before) s
    | none => (before.reverse, .error .unexpected)
  | 0x5C :: b :: s =>
    match escaped? b with
    | some e => pieces (.byte e :: before) s
    | none => (before.reverse, .error (if b = 0x75 then .ended else .unexpected))
  | b :: s =>
    if b = 0x5C then (before.reverse, .error .ended)
    else if b < 0x20 then (before.reverse, .error .unexpected)
    else pieces (.byte b :: before) s

theorem pieces_length_le (h : (pieces before s).2 = .ok rest) : rest.length ≤ s.length := by
  fun_induction pieces before s with
  | case1 => simp at h
  | case2 => simp_all
  | case3 _ _ _ _ _ _ _ _ ih => have := ih h; simp; omega
  | case4 => simp at h
  | case5 _ _ _ _ _ _ ih => have := ih h; simp; omega
  | case6 => simp at h
  | case7 => simp at h
  | case8 => simp at h
  | case9 _ _ _ _ _ _ _ _ ih => have := ih h; simp; omega

def isHigh (n : Nat) : Bool :=
  0xD800 ≤ n && n ≤ 0xDBFF

def isLow (n : Nat) : Bool :=
  0xDC00 ≤ n && n ≤ 0xDFFF

-- The character of a pair of surrogates.
def paired (high low : Nat) : Char :=
  .ofNat (0x10000 + (high - 0xD800) * 0x400 + (low - 0xDC00))

-- The bytes of a string, in reverse, onto those before it. A surrogate has to be one of a pair; if
-- the string breaks off after the first half, the reason is the one given.
def bytes (cut : Malformed) (before : List UInt8) : List Piece → Except Malformed (List UInt8)
  | [] => .ok before
  | .byte b :: ps => bytes cut (b :: before) ps
  | .unit n :: ps =>
    if isLow n then .error .unexpected
    else if isHigh n then
      match ps with
      | [] => .error cut
      | .byte _ :: _ => .error .unexpected
      | .unit m :: ps =>
        if isLow m then bytes cut ((String.utf8EncodeChar (paired n m)).reverse ++ before) ps
        else .error .unexpected
    else bytes cut ((String.utf8EncodeChar (.ofNat n)).reverse ++ before) ps

def utf8 (reversed : List UInt8) : Except Malformed String :=
  match String.fromUTF8? ⟨reversed.reverse.toArray⟩ with
  | some s => .ok s
  | none => .error .unexpected

-- The token of a string, after its opening quote.
def quoted (s : List UInt8) : Token × List UInt8 :=
  match pieces [] s with
  | (ps, .ok rest) => (text (bytes .unexpected [] ps >>= utf8), rest)
  | (ps, .error m) =>
    match bytes m [] ps with
    | .error n => (flawed (.quoted n m), [])
    | .ok _ => (flawed (.quoted m m), [])

theorem quoted_length_le (s : List UInt8) : (quoted s).2.length ≤ s.length := by
  unfold quoted
  split
  next h => exact pieces_length_le (by rw [h])
  · split <;> simp

-- The token of a word, of which the rest is to follow.
def word (t : Token) : List UInt8 → List UInt8 → Token × List UInt8
  | [], s => (t, s)
  | _ :: _, [] => (flawed (.literal .ended), [])
  | w :: ws, b :: s => if w = b then word t ws s else (flawed (.literal .unexpected), [])

theorem word_length_le : (word t ws s).2.length ≤ s.length := by
  fun_induction word t ws s <;> simp_all
  omega

-- Reads digits of which there has to be one.
def someDigits (s : List UInt8) : Except Malformed (List Nat × List UInt8) :=
  match s with
  | [] => .error .ended
  | b :: _ => if isDigit b then .ok (digits s) else .error .unexpected

theorem someDigits_length_lt {s : List UInt8} (h : someDigits s = .ok r) :
    r.2.length < s.length := by
  cases s with
  | nil => contradiction
  | cons b s =>
    simp only [someDigits] at h
    split at h
    next hb =>
      injection h with h
      subst h
      simpa [digits, List.dropWhile_cons, hb, Nat.lt_succ_iff] using digits_length_le s
    next => contradiction

-- Reads digits and says what they are of.
def digitsOf (part : List Nat → α) (s : List UInt8) : Except Malformed (α × List UInt8) :=
  (someDigits s).map fun r => (part r.1, r.2)

theorem digitsOf_length_le (h : digitsOf part s = .ok r) : r.2.length ≤ s.length := by
  unfold digitsOf at h
  cases hd : someDigits s with
  | error => simp [hd, Except.map] at h
  | ok d =>
    simp only [hd, Except.map, Except.ok.injEq] at h
    exact h ▸ Nat.le_of_lt (someDigits_length_lt hd)

def fraction : List UInt8 → Except Malformed (Option (List Nat) × List UInt8)
  | 0x2E :: s => digitsOf some s
  | s => .ok (none, s)

theorem fraction_length_le (h : fraction s = .ok r) : r.2.length ≤ s.length := by
  unfold fraction at h
  split at h
  · exact Nat.le_succ_of_le (digitsOf_length_le h)
  · injection h with h; simp [← h]

-- The sign of an exponent, if it is written.
def sign : List UInt8 → Bool × List UInt8
  | 0x2D :: s => (true, s)
  | 0x2B :: s => (false, s)
  | s => (false, s)

theorem sign_length_le : (sign s).2.length ≤ s.length := by
  unfold sign
  split <;> simp

def exponent : List UInt8 → Except Malformed (Option (Bool × List Nat) × List UInt8)
  | [] => .ok (none, [])
  | e :: s =>
    if e = 0x65 ∨ e = 0x45 then digitsOf (fun ds => some ((sign s).1, ds)) (sign s).2
    else .ok (none, e :: s)

theorem exponent_length_le (h : exponent s = .ok r) : r.2.length ≤ s.length := by
  unfold exponent at h
  split at h
  · injection h with h; simp [← h]
  · split at h
    · exact Nat.le_succ_of_le (Nat.le_trans (digitsOf_length_le h) sign_length_le)
    · injection h with h; simp [← h]

-- The digits before the point. A zero stands alone.
def wholePart (s : List UInt8) : Except Malformed (List Nat × List UInt8) :=
  match s with
  | [] => .error .ended
  | 0x30 :: b :: s => if isDigit b then .error .unexpected else .ok ([0], b :: s)
  | s => someDigits s

theorem wholePart_length_lt {s : List UInt8} (h : wholePart s = .ok r) :
    r.2.length < s.length := by
  unfold wholePart at h
  split at h
  · contradiction
  · split at h
    · contradiction
    · injection h with h; simp [← h]
  · exact someDigits_length_lt h

def numeral (negative : Bool) (s : List UInt8) : Token × List UInt8 :=
  match wholePart s with
  | .error m => (flawed (.numeral m), [])
  | .ok (whole, s₁) =>
    match fraction s₁ with
    | .error m => (flawed (.numeral m), [])
    | .ok (fraction, s₂) =>
      match exponent s₂ with
      | .error m => (flawed (.numeral m), [])
      | .ok (exponent, s₃) =>
        match Numeral.value { negative, whole, fraction, exponent } with
        | some n => (number (.ok n), s₃)
        | none => (number (.error .unexpected), s₃)

theorem numeral_length_le : (numeral negative s).2.length ≤ s.length - 1 := by
  unfold numeral
  split
  · simp
  next h₁ =>
    split
    · simp
    next h₂ =>
      split
      · simp
      next h₃ =>
        have := wholePart_length_lt h₁
        have := fraction_length_le h₂
        have := exponent_length_le h₃
        split <;> simp_all <;> omega

def mark? (b : UInt8) : Option Token :=
  [(0x2C, comma), (0x3A, colon), (0x7B, openRecord), (0x7D, closeRecord), (0x5B, openList),
    (0x5D, closeList)].lookup b

-- The word that starts with a byte, and the bytes that are to follow.
def word? (b : UInt8) : Option (Token × List UInt8) :=
  [(0x6E, null, [0x75, 0x6C, 0x6C]), (0x74, bool true, [0x72, 0x75, 0x65]),
    (0x66, bool false, [0x61, 0x6C, 0x73, 0x65])].lookup b

-- The token that starts with a byte, and the text after it.
def next (b : UInt8) (s : List UInt8) : Token × List UInt8 :=
  match mark? b, word? b with
  | some t, _ => (t, s)
  | none, some (t, ws) => word t ws s
  | none, none =>
    if b = 0x22 then quoted s
    else if b = 0x2D then numeral true s
    else if isDigit b then numeral false (b :: s)
    else (flawed (.absent .unexpected), [])

theorem next_length_le : (next b s).2.length ≤ s.length := by
  unfold next
  split
  · exact Nat.le_refl _
  · exact word_length_le
  · split
    · exact quoted_length_le s
    split
    · exact Nat.le_trans numeral_length_le (Nat.sub_le _ _)
    split
    · exact numeral_length_le
    · simp

end Token
end DataAccess.Json
