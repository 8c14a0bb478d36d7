/-!
JSON values. Members of a record keep the order in which they are written; a record that is read
keeps one member per name, in the order of the names.
-/

namespace DataAccess

namespace Json

-- Whole numbers are those that fit 64 bits, signed or unsigned. All others are doubles.
inductive Number
  | whole (n : Int)
  | real (x : Float)

end Json

inductive Json
  | null
  | bool (b : Bool)
  | number (n : Json.Number)
  | text (s : String)
  | list (items : List Json)
  | record (members : List (String × Json))

namespace Json

instance : Inhabited Json := ⟨null⟩

def ofInt (n : Int) : Json :=
  number (.whole n)

def ofNat (n : Nat) : Json :=
  ofInt n

def ofInt32 (n : Int32) : Json :=
  ofInt n.toInt

def ofList (f : α → Json) (xs : List α) : Json :=
  list (xs.map f)

def ofOption (f : α → Json) : Option α → Json
  | none => null
  | some a => f a

def texts : List String → Json :=
  ofList text

-- The value of an enumeration's case that carries data beside its tag.
def tagged (kind : String) (members : List (String × Json)) : Json :=
  record (("kind", text kind) :: members)

-- Members that are left out when they hold nothing.
def unlessEmpty (name : String) (s : String) : List (String × Json) :=
  if s.isEmpty then [] else [(name, text s)]

-- Adds a member at the place of its name; a member of that name is replaced.
def insertMember (name : String) (v : Json) : List (String × Json) → List (String × Json)
  | [] => [(name, v)]
  | (n, w) :: ms =>
    if name < n then (name, v) :: (n, w) :: ms
    else if name = n then (name, v) :: ms
    else (n, w) :: insertMember name v ms

end Json
end DataAccess
