import DataAccess.SemanticType.Keywords
import DataAccess.Naming.Identifier
/-!
Types of columns in a catalog. A type name is a keyword of the engine, else the name of an enum, else
nothing is known about the values.
-/

namespace DataAccess

-- Against what a column is resolved.
structure Scope where
  engine : Engine
  catalog : Catalog

-- A type name means an enum by its bare name, or by its name and schema.
def Identifier.Names (i : Identifier) (s : Schema) (e : Enumeration) : Prop :=
  i.dataType = e.name ∨ (i.schema = s.name ∧ i.name = e.name)

instance : Decidable (Identifier.Names i s e) :=
  inferInstanceAs (Decidable (_ ∨ _))

def modelsModule : String :=
  "models"

def Catalog.enumName (c : Catalog) (s : Schema) (e : Enumeration) : String :=
  Naming.typeName (c.qualify s e.name)

namespace Scope

variable (sc : Scope)

-- The generated name of the first enum that a type name means.
def enumName? (i : Identifier) : Option String :=
  (sc.catalog.enums.find? fun (s, e) => i.Names s e).map fun (s, e) => sc.catalog.enumName s e

def baseType (c : Column) : BaseType :=
  match sc.engine.baseType? (Text.asciiLower c.type.dataType) c.length with
  | some t => t
  | none =>
    match sc.enumName? c.type with
    | some name => .enum { module := some modelsModule, name }
    | none => .dynamic

-- The type of a column for query files.
def resolve (c : Column) : SemanticType :=
  { base := sc.baseType c, isArray := c.isArray, isNullable := !c.notNull }

-- The type of a column for the models module itself.
def resolveLocal (c : Column) : SemanticType :=
  (sc.resolve c).localized

end Scope
end DataAccess
