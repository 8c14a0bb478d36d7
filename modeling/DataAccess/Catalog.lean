import DataAccess.Engine
import DataAccess.Json.Basic
/-!
The catalog of a database: its schemas with their tables and enums.
-/

namespace DataAccess

structure Identifier where
  catalog : String := ""
  schema : String := ""
  name : String := ""
deriving DecidableEq

namespace Identifier

-- The name of a type, with its schema in front if there is one.
def dataType (i : Identifier) : String :=
  if i.schema.isEmpty then i.name else i.schema ++ "." ++ i.name

def toJson (i : Identifier) : Json :=
  .record [("catalog", .text i.catalog), ("schema", .text i.schema), ("name", .text i.name)]

-- A reference without a schema means the default one. The table itself always has its schema.
structure RefersTo (i table : Identifier) (defaultSchema : String) : Prop where
  catalog : i.catalog = table.catalog
  schema : (if i.schema.isEmpty then defaultSchema else i.schema) = table.schema
  name : i.name = table.name

theorem refersTo_iff {i table : Identifier} : RefersTo i table defaultSchema ↔
    i.catalog = table.catalog ∧
    (if i.schema.isEmpty then defaultSchema else i.schema) = table.schema ∧
    i.name = table.name where
  mp h := ⟨h.catalog, h.schema, h.name⟩
  mpr h := ⟨h.1, h.2.1, h.2.2⟩

instance : Decidable (RefersTo i table defaultSchema) :=
  decidable_of_iff _ refersTo_iff.symm

end Identifier

-- A column of a table, a parameter or a column of a result.
structure Column where
  name : String := ""
  notNull : Bool := false
  isArray : Bool := false
  comment : String := ""
  length : Int32 := 0
  table : Option Identifier := none
  type : Identifier := {}

structure Table where
  rel : Identifier := {}
  columns : List Column := []
  comment : String := ""

structure Enumeration where
  name : String := ""
  vals : List String := []
  comment : String := ""

structure Schema where
  name : String := ""
  comment : String := ""
  tables : List Table := []
  enums : List Enumeration := []

namespace Schema

def reservedNames : List String :=
  ["pg_catalog", "information_schema"]

-- Schemas of the system declare nothing.
def isReserved (s : Schema) : Bool :=
  s.name ∈ reservedNames

end Schema

structure Catalog where
  name : String := ""
  comment : String := ""
  defaultSchema : String := ""
  schemas : List Schema := []

namespace Catalog

variable (c : Catalog)

def visibleSchemas : List Schema :=
  c.schemas.filter (¬·.isReserved)

-- The enums of all schemas but those of the system, each with its schema.
def enums : List (Schema × Enumeration) :=
  c.visibleSchemas.flatMap fun s => s.enums.map (s, ·)

-- The tables of all schemas but those of the system, each with its schema.
def tables : List (Schema × Table) :=
  c.visibleSchemas.flatMap fun s => s.tables.map (s, ·)

-- Outside of the default schema, a name has that of its schema in front.
def qualify (s : Schema) (name : String) : String :=
  if s.name = c.defaultSchema then name else s.name ++ "_" ++ name

theorem mem_visibleSchemas {s : Schema} :
    s ∈ c.visibleSchemas ↔ s ∈ c.schemas ∧ ¬s.isReserved := by
  simp [visibleSchemas]

theorem mem_enums {s : Schema} {e : Enumeration} :
    (s, e) ∈ c.enums ↔ s ∈ c.visibleSchemas ∧ e ∈ s.enums := by
  simp [enums]

theorem mem_tables {s : Schema} {t : Table} :
    (s, t) ∈ c.tables ↔ s ∈ c.visibleSchemas ∧ t ∈ s.tables := by
  simp [tables]

end Catalog
end DataAccess
