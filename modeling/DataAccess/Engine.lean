import DataAccess.Text.Ascii
/-!
Database engines.
-/

namespace DataAccess

inductive Engine
  | postgresql
  | mysql
  | sqlite
deriving DecidableEq

namespace Engine

instance : Inhabited Engine := ⟨postgresql⟩

def name : Engine → String
  | postgresql => "postgresql"
  | mysql => "mysql"
  | sqlite => "sqlite"

def all : List Engine :=
  [postgresql, mysql, sqlite]

theorem mem_all (e : Engine) : e ∈ all := by
  cases e <;> simp [all]

theorem name_injective {e₁ e₂ : Engine} (h : e₁.name = e₂.name) : e₁ = e₂ := by
  cases e₁ <;> cases e₂ <;> first | rfl | simp [name] at h

-- The engine of a name as a user types it, in any case. The reason against others shows it.
def parse (s : String) : Except String Engine :=
  let s := Text.asciiLower s
  if s = "postgres" then .ok postgresql
  else
    match all.find? (·.name = s) with
    | some e => .ok e
    | none => .error ("unsupported engine '" ++ s ++ "'")

-- Placeholders are written `$1`, `$2` and so on.
def isPositional (e : Engine) : Bool :=
  e = postgresql

end Engine
end DataAccess
