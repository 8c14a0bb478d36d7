import DataAccess.Declaration
import DataAccess.Naming.Collision
import DataAccess.Naming.Singular
import DataAccess.Options
import DataAccess.SemanticType.Resolve
/-!
Models of the tables of a catalog, in the order of their names.
-/

namespace DataAccess

-- The name of a table's model is singular, unless tables are to keep their names.
def Options.modelName (o : Options) (c : Catalog) (s : Schema) (table : String) : String :=
  let name := c.qualify s table
  Naming.typeName <|
    if o.exactTableNames then name else Naming.singular name o.inflectionExclusions

namespace RecordDecl

def ofTable (sc : Scope) (o : Options) (s : Schema) (t : Table) : RecordDecl where
  table := some { schema := s.name, name := t.rel.name }
  name := o.modelName sc.catalog s t.rel.name
  fields := t.columns.map fun c =>
    { name := c.name, type := sc.resolveLocal c, comment := c.comment }
  comment := t.comment

def byName (d e : RecordDecl) : Bool :=
  d.name ≤ e.name

end RecordDecl

namespace Scope

variable (sc : Scope) (o : Options)

-- The models of all tables, in the order of the catalog, with their origins.
def modelEntries : List (RecordDecl × String) :=
  sc.catalog.tables.map fun (s, t) => (.ofTable sc o s t, s.name ++ "." ++ t.rel.name)

def models : Except Problem (List RecordDecl) := do
  Naming.ensureUnique .model ((sc.modelEntries o).map fun (d, origin) => (d.name, origin))
  return ((sc.modelEntries o).map (·.1)).mergeSort RecordDecl.byName

end Scope
end DataAccess
