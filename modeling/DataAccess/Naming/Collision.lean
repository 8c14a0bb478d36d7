import DataAccess.Problem
/-!
Collisions of generated names.
-/

namespace DataAccess.Naming

-- An entry whose name an earlier one has, with the origins of both.
def collision? (seen : List (String × String)) :
    List (String × String) → Option (String × String × String)
  | [] => none
  | (name, origin) :: es =>
    match seen.lookup name with
    | some first => some (name, first, origin)
    | none => collision? ((name, origin) :: seen) es

-- Fails on the first name, of entries with their origins, that is not new.
def ensureUnique (kind : NameKind) (entries : List (String × String)) : Except Problem Unit :=
  match collision? [] entries with
  | some (name, first, second) => .error (.nameCollision kind name first second)
  | none => .ok ()

end DataAccess.Naming
