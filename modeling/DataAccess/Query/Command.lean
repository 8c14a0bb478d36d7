import DataAccess.Problem
/-!
What executing a query yields, as its tag says.
-/

namespace DataAccess

inductive QueryKind
  | fetchOne
  | fetchMany
  | exec
  | execRows
  | execResult
deriving DecidableEq

namespace QueryKind

def tag : QueryKind → String
  | fetchOne => ":one"
  | fetchMany => ":many"
  | exec => ":exec"
  | execRows => ":execrows"
  | execResult => ":execresult"

-- The tag without its colon.
def word : QueryKind → String
  | fetchOne => "one"
  | fetchMany => "many"
  | exec => "exec"
  | execRows => "execrows"
  | execResult => "execresult"

theorem tag_eq_colon_word (k : QueryKind) : k.tag = ":" ++ k.word := by
  cases k <;> rfl

def text : QueryKind → String
  | fetchOne => "fetch_one"
  | fetchMany => "fetch_many"
  | exec => "exec"
  | execRows => "exec_rows"
  | execResult => "exec_result"

def returnsRows : QueryKind → Bool
  | fetchOne | fetchMany => true
  | exec | execRows | execResult => false

def all : List QueryKind :=
  [fetchOne, fetchMany, exec, execRows, execResult]

theorem mem_all (k : QueryKind) : k ∈ all := by
  cases k <;> simp [all]

end QueryKind

-- A tag that is known. Copying in bulk is known but has no method.
inductive Command
  | kind (k : QueryKind)
  | copyFrom
deriving DecidableEq

namespace Command

def parse (query tag : String) : Except Problem Command :=
  match QueryKind.all.find? (·.tag = tag) with
  | some k => .ok (kind k)
  | none => if tag = ":copyfrom" then .ok copyFrom else .error (.unknownCommand query tag)

def toKind (query : String) : Command → Except Problem QueryKind
  | kind k => .ok k
  | copyFrom => .error (.unsupportedCommand query "CopyFrom")

end Command

def QueryKind.ofTag (query tag : String) : Except Problem QueryKind := do
  (← Command.parse query tag).toKind query

end DataAccess
