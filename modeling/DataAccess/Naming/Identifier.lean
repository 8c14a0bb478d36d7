import DataAccess.Catalog
import DataAccess.Text.Ascii
import DataAccess.Text.Case
/-!
Names of generated types, methods, enum members and fields.
-/

namespace DataAccess.Naming

-- The parts of a name between underscores.
def segments : List Char → List (List Char)
  | [] => [[]]
  | '_' :: s => [] :: segments s
  | c :: s =>
    match segments s with
    | [] => [[c]]
    | w :: ws => (c :: w) :: ws

def capitalize : List Char → List Char
  | [] => []
  | c :: s => Text.upperChar c ++ s

-- `user_id` becomes `UserId`.
def typeName (name : String) : String :=
  .ofList ((segments name.toList).flatMap capitalize)

-- `GetAuthor` becomes `getAuthor`.
def lowerFirst (name : String) : String :=
  match name.toList with
  | [] => ""
  | c :: s => .ofList (Text.lowerChar c ++ s)

-- Puts an underscore before every capital that starts a run of small letters, unless a line or the
-- text starts there. What has been looked at for one capital is not looked at again for the next.
def splitWords : List Char → List Char
  | a :: b :: c :: s =>
    if a ≠ '\n' ∧ b.isUpper ∧ c.isLower then
      a :: '_' :: b :: (c :: s).takeWhile Char.isLower ++ splitWords ((c :: s).dropWhile Char.isLower)
    else a :: splitWords (b :: c :: s)
  | s => s
termination_by s => s.length
decreasing_by
  · have := (List.dropWhile_sublist Char.isLower (l := c :: s)).length_le
    simp only [List.length_cons] at *
    omega
  · simp

-- Puts an underscore between a small letter or digit and a capital.
def splitCases : List Char → List Char
  | a :: b :: s =>
    if (a.isLower ∨ a.isDigit) ∧ b.isUpper then a :: '_' :: splitCases (b :: s)
    else a :: splitCases (b :: s)
  | s => s

-- `GetUserByID` becomes `get_user_by_id`.
def methodName (name : String) : String :=
  .ofList (Text.lowerChars (splitCases (splitWords name.toList)))

-- Marks that separate words become underscores.
def joinMark (c : Char) : Char :=
  if c = '-' ∨ c = ':' ∨ c = '/' then '_' else c

-- An enum's value as an identifier in capitals.
def memberName (value : String) : String :=
  let id := ((value.toList.map joinMark).filter Text.isWord).map Char.toUpper
  match id with
  | [] => "_"
  | c :: s => .ofList (if c.isDigit then '_' :: c :: s else c :: s)

-- The name of a column, or else its place among the columns.
def columnName (c : Column) (i : Nat) : String :=
  if c.name.isEmpty then "column_" ++ toString (i + 1) else c.name

-- The name of a placeholder's column, or else its ordinal.
def paramName (number : Int32) (c : Column) : String :=
  if c.name.isEmpty then "dollar_" ++ toString number.toInt else c.name

end DataAccess.Naming
