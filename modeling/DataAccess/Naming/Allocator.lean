import DataAccess.Naming.Identifier
/-!
Distinct names for the fields of a record or the arguments of a method.
-/

namespace DataAccess.Naming

structure Allocator where
  taken : List String := []
  byKey : List (Int32 × String) := []
  -- For a base, a number such that all suffixes below it are taken.
  next : List (String × Nat) := []

def suffixed (base : String) (n : Nat) : String :=
  base ++ "_" ++ toString n

-- The number of the first free name with a suffix, of a number of candidates. As many candidates as
-- there are names taken are enough when the base itself is one of them.
def firstFree (taken : List String) (base : String) : Nat → Nat → Nat
  | 0, n => n
  | more + 1, n => if suffixed base n ∈ taken then firstFree taken base more (n + 1) else n

namespace Allocator

variable (a : Allocator)

-- The number from which to look for a free suffix.
def start (base : String) : Nat :=
  (a.next.lookup base).getD 2

-- Takes a name that no one shares.
def unique (base : String) : String × Allocator :=
  if base ∈ a.taken then
    let n := firstFree a.taken base a.taken.length (a.start base)
    let name := suffixed base n
    (name, { a with taken := name :: a.taken, next := (base, n + 1) :: a.next })
  else (base, { a with taken := base :: a.taken })

-- Takes a name for a key, unless the key has one. Says whether the name is new.
def allocate (key : Int32) (base : String) : String × Bool × Allocator :=
  match a.byKey.lookup key with
  | some name => (name, false, a)
  | none =>
    let (name, a) := a.unique base
    (name, true, { a with byKey := (key, name) :: a.byKey })

-- Names for a list of bases, in order.
def uniqueAll (a : Allocator) : List String → List String
  | [] => []
  | base :: bases =>
    let (name, a) := a.unique base
    name :: a.uniqueAll bases

-- Names for what is new among keyed entries, in order.
def allocateAll (a : Allocator) : List (Int32 × String × α) → List (String × α)
  | [] => []
  | (key, base, x) :: es =>
    match a.allocate key base with
    | (name, true, a) => (name, x) :: a.allocateAll es
    | (_, false, a) => a.allocateAll es

end Allocator
end DataAccess.Naming
