import DataAccess.Json.Basic
/-!
The types of columns, independent of an engine.
-/

namespace DataAccess

-- A reference to a generated enum. Outside of the models module it goes through the module.
structure EnumRef where
  module : Option String
  name : String
deriving DecidableEq

inductive BaseType
  | integer
  | float
  | decimal
  | string
  | bytes
  | bool
  | date
  | time
  | dateTime
  | interval
  | uuid
  | dynamic
  | enum (r : EnumRef)
deriving DecidableEq

namespace BaseType

def text : BaseType → String
  | integer => "integer"
  | float => "float"
  | decimal => "decimal"
  | string => "string"
  | bytes => "bytes"
  | bool => "bool"
  | date => "date"
  | time => "time"
  | dateTime => "datetime"
  | interval => "interval"
  | uuid => "uuid"
  | dynamic => "dynamic"
  | enum ⟨some module, name⟩ => module ++ "." ++ name
  | enum ⟨none, name⟩ => name

-- The type as seen from inside the models module.
def localized : BaseType → BaseType
  | enum r => enum { r with module := none }
  | t => t

@[simp]
theorem localized_localized (t : BaseType) : t.localized.localized = t.localized := by
  cases t <;> rfl

def toJson : BaseType → Json
  | enum r =>
    .tagged "enum" [("ref", .record [("module", .ofOption .text r.module), ("name", .text r.name)])]
  | dateTime => .tagged "date_time" []
  | t => .tagged t.text []

end BaseType

structure SemanticType where
  base : BaseType
  isArray : Bool := false
  isNullable : Bool := false
deriving DecidableEq

namespace SemanticType

def text (t : SemanticType) : String :=
  t.base.text ++ (if t.isArray then "[]" else "") ++ (if t.isNullable then "?" else "")

def localized (t : SemanticType) : SemanticType :=
  { t with base := t.base.localized }

@[simp]
theorem localized_localized (t : SemanticType) : t.localized.localized = t.localized := by
  simp [localized]

def toJson (t : SemanticType) : Json :=
  .record [("base", t.base.toJson), ("is_array", .bool t.isArray),
    ("is_nullable", .bool t.isNullable)]

end SemanticType
end DataAccess
