import DataAccess.Declaration.Models
import DataAccess.Naming.Allocator
import DataAccess.Query
import DataAccess.Request
/-!
Analysis of queries against a catalog and its models: how arguments are passed, what is returned.
-/

namespace DataAccess

-- Everything but the query that its analysis depends on.
structure Analyzer where
  scope : Scope
  options : Options
  models : List RecordDecl

namespace SourceQuery

-- Queries that have a name and a tag are analyzed.
def isNamed (q : SourceQuery) : Bool :=
  !q.name.isEmpty && !q.cmd.isEmpty

-- Parameters with their names, by ordinal.
def paramEntries (q : SourceQuery) : List (Int32 × String × Column) :=
  q.params.map fun p => (p.number, Naming.paramName p.number p.column, p.column)

-- Columns with their names, by place.
def columnEntries (q : SourceQuery) : List (Int32 × String × Column) :=
  q.columns.zipIdx.map fun (c, i) => (.ofNat i, Naming.columnName c i, c)

end SourceQuery

namespace Analyzer

variable (a : Analyzer)

-- A record of columns. Entries with a key that has occurred share its field.
def recordOf (name : String) (entries : List (Int32 × String × Column)) : RecordDecl where
  name := name
  fields := (Naming.Allocator.allocateAll {} entries).map fun (name, c) =>
    { name, type := a.scope.resolve c }

-- Parameters are packed if there are more of them than the limit, or if it is zero.
def Packs (q : SourceQuery) : Prop :=
  q.params ≠ [] ∧ (a.options.limit < q.params.length ∨ a.options.limit = 0)

instance : Decidable (a.Packs q) :=
  decidable_of_iff (q.params.isEmpty = false ∧
    (a.options.limit < q.params.length ∨ a.options.limit = 0)) (by simp [Packs])

def args (q : SourceQuery) : List QueryValue :=
  if a.Packs q then
    [.record "arg" (a.recordOf (q.name ++ "Params") q.paramEntries) true]
  else
    (Naming.Allocator.allocateAll {} q.paramEntries).map fun (name, c) =>
      .scalar name (a.scope.resolve c)

-- A field of a model is a column of a result, from the model's table.
structure Matches (table : Identifier) (f : TypedField) (c : Column) (i : Nat) : Prop where
  name : f.name = Naming.columnName c i
  type : f.type = a.scope.resolveLocal c
  table : ∃ t ∈ c.table, t.RefersTo table a.scope.catalog.defaultSchema

theorem matches_iff : a.Matches table f c i ↔
    f.name = Naming.columnName c i ∧ f.type = a.scope.resolveLocal c ∧
    ∃ t ∈ c.table, t.RefersTo table a.scope.catalog.defaultSchema where
  mp h := ⟨h.name, h.type, h.table⟩
  mpr h := ⟨h.1, h.2.1, h.2.2⟩

instance : Decidable (a.Matches table f c i) :=
  decidable_of_iff _ a.matches_iff.symm

-- Whether a model has exactly the shape of a result.
def fits (columns : List Column) (m : RecordDecl) : Bool :=
  match m.table with
  | none => false
  | some table =>
    m.fields.length = columns.length &&
      (m.fields.zip columns).zipIdx.all fun ((f, c), i) => a.Matches table f c i

-- The first model that has the shape of a result.
def findModel? (columns : List Column) : Option RecordDecl :=
  a.models.find? (a.fits columns)

def ret (q : SourceQuery) : QueryValue :=
  match q.columns with
  | [] => .empty
  | [c] => .scalar (Naming.columnName c 0) (a.scope.resolve c)
  | columns =>
    match a.findModel? columns with
    | some m => .record "i" m false
    | none => .record "i" (a.recordOf (q.name ++ "Row") q.columnEntries) true

-- A query as it is generated, once its kind is known.
def queryOf (q : SourceQuery) (kind : QueryKind) : Query :=
  let methodName := Naming.methodName q.name
  { kind, methodName
    comments := q.comments
    constantName := Text.upper methodName
    fieldName := Naming.lowerFirst q.name ++ "Stmt"
    sql := Sql.toNamed a.scope.engine q.text
    sourceName := q.filename
    args := a.args q
    ret := a.ret q }

-- A query without a name or a tag is passed over.
def analyze (q : SourceQuery) : Except Problem (Option Query) :=
  if q.isNamed then (QueryKind.ofTag q.name q.cmd).map fun kind => some (a.queryOf q kind)
  else .ok none

end Analyzer

def Query.byMethodName (p q : Query) : Bool :=
  p.methodName ≤ q.methodName

namespace Analyzer

-- All queries, sorted by the names of their methods; those of one name keep their order.
def analyzeAll (a : Analyzer) (qs : List SourceQuery) : Except Problem (List Query) := do
  let analyzed ← qs.mapM a.analyze
  return (analyzed.filterMap id).mergeSort Query.byMethodName

end Analyzer
end DataAccess
