import DataAccess.Declaration
import DataAccess.Naming.Allocator
import DataAccess.Naming.Collision
import DataAccess.SemanticType.Resolve
/-!
Declarations of the enums of a catalog, in the order of their names.
-/

namespace DataAccess

namespace EnumDecl

-- Values keep their order. Those that make the same identifier are told apart by a suffix.
def ofValues (vals : List String) : List EnumMember :=
  List.zipWith (fun name value => { name, value })
    (Naming.Allocator.uniqueAll {} (vals.map Naming.memberName)) vals

def ofEnumeration (c : Catalog) (s : Schema) (e : Enumeration) : EnumDecl where
  name := c.enumName s e
  comment := e.comment
  members := ofValues e.vals

def byName (d e : EnumDecl) : Bool :=
  d.name ≤ e.name

end EnumDecl

namespace Catalog

variable (c : Catalog)

-- The declarations of all enums, in the order of the catalog, with their origins.
def enumEntries : List (EnumDecl × String) :=
  c.enums.map fun (s, e) => (.ofEnumeration c s e, s.name ++ "." ++ e.name)

def enumDecls : Except Problem (List EnumDecl) := do
  Naming.ensureUnique .enum (c.enumEntries.map fun (d, origin) => (d.name, origin))
  return (c.enumEntries.map (·.1)).mergeSort EnumDecl.byName

end Catalog
end DataAccess
