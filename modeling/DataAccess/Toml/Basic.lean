/-!
TOML values, and how the lines of a document add up to tables.
-/

namespace DataAccess.Toml

-- How a table has come to be, on which depends what may be added to it.
inductive Origin
  | header
  -- Named on the way to another table's header.
  | implied
  -- Named on the way to a dotted key.
  | dotted
  | inline
deriving DecidableEq

inductive Value
  | text (s : String)
  | integer (n : Int)
  | boolean (b : Bool)
  -- A float, a date or a time. No option has one, so only its form matters.
  | other
  | list (items : List Value)
  -- Tables under headers in double brackets, last first.
  | tables (items : List Value)
  | table (origin : Origin) (members : List (String × Value))

namespace Value

def find? (name : String) : Value → Option Value
  | table _ ms => ms.lookup name
  | _ => none

-- Puts a member in the place of one with its name, or else at the end.
def put (name : String) (v : Value) : List (String × Value) → List (String × Value)
  | [] => [(name, v)]
  | (n, w) :: ms => if n = name then (name, v) :: ms else (n, w) :: put name v ms

-- Changes the table at a path. Tables that are missing on the way are made with the given origin. A
-- dotted key may not reach into a table with a header of its own.
def within (origin : Origin) (change : Value → Option Value) : List String → Value → Option Value
  | [], v => change v
  | name :: path, table o ms => do
    let child ←
      match ms.lookup name with
      | none => within origin change path (table origin [])
      | some (tables (last :: before)) =>
        (within origin change path last).map fun t => tables (t :: before)
      | some (table p ns) =>
        if p = .inline ∨ (origin = .dotted ∧ p = .header) then none
        else within origin change path (table p ns)
      | some _ => none
    return table o (put name child ms)
  | _ :: _, _ => none

-- Adds a member with a dotted key to a table. Its name must be new.
def define (path : List String) (name : String) (v : Value) : Value → Option Value :=
  let add : Value → Option Value
    | table o ms =>
      if (o = .dotted) = path.isEmpty ∨ (ms.lookup name).isSome then none
      else some (table o (put name v ms))
    | _ => none
  within .dotted add path

-- Opens the table of a header, unless it has one already.
def openTable (path : List String) (name : String) : Value → Option Value :=
  let add : Value → Option Value
    | table o ms =>
      match ms.lookup name with
      | none => some (table o (put name (table .header []) ms))
      | some (table .implied ns) => some (table o (put name (table .header ns) ms))
      | some _ => none
    | _ => none
  within .implied add path

-- Opens one more table of a header in double brackets.
def openNext (path : List String) (name : String) : Value → Option Value :=
  let add : Value → Option Value
    | table o ms =>
      match ms.lookup name with
      | none => some (table o (put name (tables [table .header []]) ms))
      | some (tables ts) => some (table o (put name (tables (table .header [] :: ts)) ms))
      | some _ => none
    | _ => none
  within .implied add path

end Value
end DataAccess.Toml
