import DataAccess.Engine
import DataAccess.Text.Ascii
/-!
The SQL text of queries for drivers that bind parameters by name. In the text a colon would start a
name, so it is escaped; the placeholder `$1` becomes the name `:p1`.
-/

namespace DataAccess.Sql

def colonEscape : List Char :=
  ['\\', '\\', ':']

-- The digits of a placeholder after its dollar sign, and the rest. No word may follow directly.
def placeholder? (s : List Char) : Option (List Char × List Char) :=
  let digits := s.takeWhile Char.isDigit
  let rest := s.dropWhile Char.isDigit
  if digits = [] ∨ rest.head?.any Text.isWord then none else some (digits, rest)

theorem length_of_placeholder? (h : placeholder? s = some r) : r.2.length ≤ s.length := by
  simp only [placeholder?] at h
  split at h
  · contradiction
  · injection h with h
    exact h ▸ (List.dropWhile_sublist Char.isDigit).length_le

-- The text with names for placeholders, after the character that stands before it, if there is one.
def toNamedAfter (positional : Bool) (before : Option Char) : List Char → List Char
  | [] => []
  | c :: s =>
    if c = ':' then colonEscape ++ toNamedAfter positional (some c) s
    else if c = '$' ∧ positional ∧ ¬before.any Text.isWord then
      match _h : placeholder? s with
      | some (digits, rest) =>
        [':', 'p'] ++ digits ++ toNamedAfter positional digits.getLast? rest
      | none => c :: toNamedAfter positional (some c) s
    else c :: toNamedAfter positional (some c) s
termination_by s => s.length
decreasing_by
  · simp
  · exact Nat.lt_succ_of_le (length_of_placeholder? (by assumption))
  · simp
  · simp

def toNamedChars (positional : Bool) (sql : List Char) : List Char :=
  toNamedAfter positional none sql

def toNamed (e : Engine) (sql : String) : String :=
  .ofList (toNamedChars e.isPositional sql.toList)

end DataAccess.Sql
