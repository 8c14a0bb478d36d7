/-!
Letters and digits of ASCII, beyond the classes that `Char` has for them.
-/

namespace DataAccess.Text

-- Characters of a word, as in `user_id`.
def isWord (c : Char) : Bool :=
  c.isAlphanum || c = '_'

@[simp]
theorem isWord_underscore : isWord '_' := rfl

theorem isWord_of_isDigit {c : Char} (h : c.isDigit) : isWord c := by
  simp [isWord, Char.isAlphanum, h]

theorem isWord_of_isAlpha {c : Char} (h : c.isAlpha) : isWord c := by
  simp [isWord, Char.isAlphanum, h]

-- Letters in lower case; all else is kept.
def asciiLower (s : String) : String :=
  s.map Char.toLower

-- The value of a digit in a base. Beyond nine, letters of either case are digits.
def digitValue? (base : Nat) (c : Char) : Option Nat :=
  let n :=
    if c.isDigit then c.toNat - '0'.toNat
    else if c.isLower then c.toNat - 'a'.toNat + 10
    else if c.isUpper then c.toNat - 'A'.toNat + 10
    else base
  if n < base then some n else none

theorem digitValue?_lt (h : digitValue? base c = some n) : n < base := by
  unfold digitValue? at h
  grind

end DataAccess.Text
