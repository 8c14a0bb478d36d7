import DataAccess.Json.Document
import DataAccess.Text.Quoted
import DataAccess.Decimal.Shortest
/-!
Decoding of values with a fixed shape. A record is decoded member by member in the order of the
text, so the first fault in that order is the one reported. A record may also be written as the list
of its members' values.
-/

namespace DataAccess.Json

-- What a decoder finds in the place of what it expects.
inductive Found
  | null
  | bool (b : Bool)
  | number (n : Number)
  | text (s : String)
  | list
  | record

inductive DecodeError
  | malformed (m : Malformed)
  | invalidType (found : Found) (expected : String)
  | outOfRange (n : Int) (expected : String)
  | invalidLength (n : Nat) (expected : String)
  | unknownVariant (name : String) (variants : List String)
  | duplicateField (name : String)
  | missingField (name : String)

def Found.describe : Found → String
  | null => "null"
  | bool b => "boolean `" ++ (if b then "true" else "false") ++ "`"
  | number (.whole n) => "integer `" ++ toString n ++ "`"
  | number (.real x) => "floating point `" ++ Decimal.render x ++ "`"
  | text s => "string " ++ Text.quoted s
  | list => "sequence"
  | record => "map"

-- What is wrong with text that is JSON but has the wrong shape.
def DecodeError.message : DecodeError → String
  | malformed _ => ""
  | invalidType found expected =>
    "invalid type: " ++ found.describe ++ ", expected " ++ expected
  | outOfRange n expected => "invalid value: integer `" ++ toString n ++ "`, expected " ++ expected
  | invalidLength n expected => "invalid length " ++ toString n ++ ", expected " ++ expected
  | unknownVariant name variants =>
    "unknown variant `" ++ name ++ "`, expected one of " ++
      ", ".intercalate (variants.map fun v => "`" ++ v ++ "`")
  | duplicateField name => "duplicate field `" ++ name ++ "`"
  | missingField name => "missing field `" ++ name ++ "`"

abbrev Decoded (α : Type) :=
  Except DecodeError α

abbrev Decoder (α : Type) :=
  Node → Decoded α

def ofText : Except Malformed α → Decoded α
  | .ok a => .ok a
  | .error m => .error (.malformed m)

namespace Node

def found : Node → Decoded Found
  | .null => .ok .null
  | .bool b => .ok (.bool b)
  | .number n => (ofText n).map .number
  | .text s => (ofText s).map .text
  | .list _ _ => .ok .list
  | .record _ _ => .ok .record
  | .flawed f => .error (.malformed f.read)

-- Reports a value of the wrong type, if there is a value.
def mismatch (expected : String) (v : Node) : Decoded α := do
  .error (.invalidType (← v.found) expected)

end Node

def Stop.check (s : Stop) : Decoded Unit :=
  match s.fault? with
  | none => .ok ()
  | some m => .error (.malformed m)

namespace Decoder

def skip : Decoder Unit := fun v =>
  match v.fault? with
  | none => .ok ()
  | some m => .error (.malformed m)

def text : Decoder String
  | .text (.ok s) => .ok s
  | v => v.mismatch "a string"

def bool : Decoder Bool
  | .bool b => .ok b
  | v => v.mismatch "a boolean"

def int32 : Decoder Int32 := fun v => do
  match v with
  | .number n =>
    match ← ofText n with
    | .whole i =>
      if Int32.minValue.toInt ≤ i ∧ i ≤ Int32.maxValue.toInt then .ok (.ofInt i)
      else .error (.outOfRange i "i32")
    | .real x => .error (.invalidType (.number (.real x)) "i32")
  | v => v.mismatch "i32"

def option (d : Decoder α) : Decoder (Option α)
  | .null => .ok none
  | v => (d v).map some

def list (d : Decoder α) : Decoder (List α)
  | .list items stop => do
    let xs ← items.mapM d
    stop.check
    return xs
  | v => v.mismatch "a sequence"

-- One of several names, which may also be written as a record with that name and no value.
def variant (choices : List (String × α)) : Decoder α := fun v => do
  let choose (name : String) : Decoded α :=
    match choices.lookup name with
    | some a => .ok a
    | none => .error (.unknownVariant name (choices.map (·.1)))
  match v with
  | .text s => choose (← ofText s)
  | .record [] .ended => .error (.malformed .ended)
  | .record ((key, v) :: rest) stop =>
    let a ← choose (← ofText key)
    match v with
    | .null => pure ()
    | v => v.mismatch "unit"
    match rest with
    | [] => stop.check
    | _ :: _ => .error (.malformed .unexpected)
    return a
  | .flawed (.quoted m _) | .flawed (.absent m) => .error (.malformed m)
  | _ => .error (.malformed .unexpected)

end Decoder

-- A member of a record: how its value is decoded and put into the result.
structure Field (α : Type) where
  name : String
  required : Bool
  put : Node → α → Decoded α

namespace Field

def optional (name : String) (d : Decoder β) (set : α → β → α) : Field α :=
  { name, required := false, put := fun v a => (d v).map (set a) }

def mandatory (name : String) (d : Decoder β) (set : α → β → α) : Field α :=
  { optional name d set with required := true }

-- Decodes values in the order of the fields. Those that are missing at the end keep their default.
def putInOrder (expected : String) (stop : Stop) (a : α) (i : Nat) :
    List (Field α) → List Node → Decoded α
  | [], [] => do stop.check; return a
  | [], _ :: _ => .error (.malformed .unexpected)
  | f :: fs, [] => do
    stop.check
    if f.required then .error (.invalidLength i expected) else putInOrder expected stop a (i + 1) fs []
  | f :: fs, v :: vs => do putInOrder expected stop (← f.put v a) (i + 1) fs vs

-- Decodes members by their names, each at most once. Those of no field are skipped.
def putByName (fields : List (Field α)) (a : α) (seen : List String) :
    List (Except Malformed String × Node) → Decoded (α × List String)
  | [] => .ok (a, seen)
  | (key, v) :: ms => do
    let name ← ofText key
    match fields.find? (·.name = name) with
    | none => do
      Decoder.skip v
      putByName fields a seen ms
    | some f =>
      if name ∈ seen then .error (.duplicateField name)
      else putByName fields (← f.put v a) (name :: seen) ms

def requireAll (seen : List String) (fields : List (Field α)) : Decoded Unit :=
  match fields.find? fun f => f.required ∧ f.name ∉ seen with
  | some f => .error (.missingField f.name)
  | none => .ok ()

end Field

-- A record's name and its fields, in the order in which a list gives their values.
structure Shape (α : Type) where
  name : String
  fields : List (Field α)
  blank : α

namespace Shape

def expected (s : Shape α) : String :=
  "struct " ++ s.name

def expectedLength (s : Shape α) : String :=
  let n := s.fields.length
  s.expected ++ " with " ++ toString n ++ (if n = 1 then " element" else " elements")

def decode (s : Shape α) : Decoder α
  | .list items stop => Field.putInOrder s.expectedLength stop s.blank 0 s.fields items
  | .record members stop => do
    let (a, seen) ← Field.putByName s.fields s.blank [] members
    stop.check
    Field.requireAll seen s.fields
    return a
  | v => v.mismatch s.expected

end Shape

mutual

-- Reads any value whose lists and records are nested no deeper than allowed.
def Node.toJson (depth : Nat) : Decoder Json
  | .null => .ok .null
  | .bool b => .ok (.bool b)
  | .number n => (ofText n).map .number
  | .text s => (ofText s).map .text
  | .flawed f => .error (.malformed f.read)
  | .list items stop =>
    match depth with
    | 0 => .error (.malformed .unexpected)
    | depth + 1 => do
      let vs ← itemsToJson depth items
      stop.check
      return .list vs
  | .record members stop =>
    match depth with
    | 0 => .error (.malformed .unexpected)
    | depth + 1 => do
      let ms ← membersToJson depth [] members
      stop.check
      return .record ms

def itemsToJson (depth : Nat) : List Node → Decoded (List Json)
  | [] => .ok []
  | v :: vs => do return (← v.toJson depth) :: (← itemsToJson depth vs)

def membersToJson (depth : Nat) (before : List (String × Json)) :
    List (Except Malformed String × Node) → Decoded (List (String × Json))
  | [] => .ok before
  | (key, v) :: ms => do
    let name ← ofText key
    membersToJson depth (insertMember name (← v.toJson depth) before) ms

end

mutual

-- The tree of a text that is the value's.
def Node.ofJson : Json → Node
  | .null => .null
  | .bool b => .bool b
  | .number n => .number (.ok n)
  | .text s => .text (.ok s)
  | .list items => .list (itemsOfJson items) .closed
  | .record members => .record (membersOfJson members) .closed

def itemsOfJson : List Json → List Node
  | [] => []
  | v :: vs => Node.ofJson v :: itemsOfJson vs

def membersOfJson : List (String × Json) → List (Except Malformed String × Node)
  | [] => []
  | (name, v) :: ms => (.ok name, Node.ofJson v) :: membersOfJson ms

end

def Document.decode (d : Decoder α) (doc : Document) : Decoded α := do
  let a ← d doc.root
  if doc.trailing then .error (.malformed .unexpected) else return a

end DataAccess.Json
