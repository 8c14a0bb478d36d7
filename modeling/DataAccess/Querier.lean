import DataAccess.Query
/-!
Queriers: classes around a connection with one method per query. A plan says how each method takes
its arguments, binds them, runs the statement and makes its result from rows.
-/

namespace DataAccess

inductive Flavor
  | sync
  | async
deriving DecidableEq

namespace Flavor

def className : Flavor → String
  | sync => "Querier"
  | async => "AsyncQuerier"

def text : Flavor → String
  | sync => "sync"
  | async => "async"

def isAsync (f : Flavor) : Bool :=
  f = async

end Flavor

inductive ArgStyle
  -- A single record.
  | positional
  | keywordOnly
deriving DecidableEq

structure MethodArg where
  name : String
  type : TypeRef
deriving DecidableEq

-- Where the value of a placeholder comes from.
inductive BindingSource
  | arg (arg : String)
  | field (arg field : String)
deriving DecidableEq

structure Binding where
  placeholder : String
  source : BindingSource
deriving DecidableEq

inductive ConnCall
  | execute
  | stream
deriving DecidableEq

structure Execution where
  call : ConnCall
  constant : String
  bindings : List Binding
  awaited : Bool
deriving DecidableEq

-- How a row becomes a value.
inductive RowMapping
  | column (index : Nat)
  -- Every field has its column.
  | construct (type : TypeRef) (fields : List (String × Nat))
deriving DecidableEq

inductive ResultHandling
  -- Nothing, if there is no row.
  | firstRow (row : RowMapping)
  | eachRow (row : RowMapping)
  | discard
  | rowCount
  | passthrough
deriving DecidableEq

inductive ReturnType
  | optional (t : TypeRef)
  | iterator (t : TypeRef)
  | asyncIterator (t : TypeRef)
  | nothing
  | rowCount
  | driverResult
deriving DecidableEq

structure Method where
  name : String
  isAsync : Bool
  style : ArgStyle
  args : List MethodArg
  returns : ReturnType
  execution : Execution
  result : ResultHandling
deriving DecidableEq

structure Querier where
  name : String
  flavor : Flavor
  methods : List Method
deriving DecidableEq

namespace QueryValue

def sources : QueryValue → List BindingSource
  | empty => []
  | scalar name _ => [.arg name]
  | record name decl _ => decl.fields.map (.field name ·.name)

def methodArg? (v : QueryValue) : Option MethodArg := do
  return { name := ← v.name?, type := ← v.typeRef? }

end QueryValue

namespace Query

variable (q : Query)

def argStyle : ArgStyle :=
  match q.args with
  | [v] => if v.isRecord then .positional else .keywordOnly
  | _ => .keywordOnly

-- Placeholders are numbered through all arguments, a record by its fields.
def bindings : List Binding :=
  (q.args.flatMap (·.sources)).zipIdx.map fun (source, i) =>
    { placeholder := "p" ++ toString (i + 1), source }

-- The type of a row and its mapping. Nothing is known of the first column if there is none.
def rowMapping : TypeRef × RowMapping :=
  match q.ret with
  | .empty => (.scalar { base := .dynamic }, .column 0)
  | .scalar _ type => (.scalar type, .column 0)
  | .record _ decl emit =>
    let type := if emit then .own decl.name else .model decl.name
    (type, .construct type (decl.fields.zipIdx.map fun (f, i) => (f.name, i)))

def returns (f : Flavor) : ReturnType :=
  match q.kind, f with
  | .fetchOne, _ => .optional q.rowMapping.1
  | .fetchMany, .sync => .iterator q.rowMapping.1
  | .fetchMany, .async => .asyncIterator q.rowMapping.1
  | .exec, _ => .nothing
  | .execRows, _ => .rowCount
  | .execResult, _ => .driverResult

def connCall (f : Flavor) : ConnCall :=
  match q.kind, f with
  | .fetchMany, .async => .stream
  | _, _ => .execute

def resultHandling : ResultHandling :=
  match q.kind with
  | .fetchOne => .firstRow q.rowMapping.2
  | .fetchMany => .eachRow q.rowMapping.2
  | .exec => .discard
  | .execRows => .rowCount
  | .execResult => .passthrough

def method (f : Flavor) : Method where
  name := q.methodName
  isAsync := f.isAsync
  style := q.argStyle
  args := q.args.filterMap (·.methodArg?)
  returns := q.returns f
  execution := {
    call := q.connCall f
    constant := q.constantName
    bindings := q.bindings
    awaited := f.isAsync }
  result := q.resultHandling

end Query

-- A querier with the methods of queries, in their order.
def Querier.plan (f : Flavor) (qs : List Query) : Querier where
  name := f.className
  flavor := f
  methods := qs.map (·.method f)

namespace Querier

open Json

def jsonOfArgStyle : ArgStyle → Json
  | .positional => text "positional"
  | .keywordOnly => text "keyword_only"

def jsonOfArg (a : MethodArg) : Json :=
  .record [("name", text a.name), ("type", a.type.toJson)]

def jsonOfSource : BindingSource → Json
  | .arg arg => tagged "arg" [("arg", text arg)]
  | .field arg field => tagged "field" [("arg", text arg), ("field", text field)]

def jsonOfBinding (b : Binding) : Json :=
  .record [("placeholder", text b.placeholder), ("source", jsonOfSource b.source)]

def jsonOfExecution (e : Execution) : Json :=
  .record [("call", text (if e.call = .stream then "stream" else "execute")),
    ("constant", text e.constant), ("bindings", ofList jsonOfBinding e.bindings),
    ("awaited", bool e.awaited)]

def jsonOfMapping : RowMapping → Json
  | .column index => tagged "column" [("index", ofNat index)]
  | .construct type fields =>
    tagged "construct" [("type", type.toJson),
      ("fields", ofList (fun (name, i) => list [text name, ofNat i]) fields)]

def jsonOfResult : ResultHandling → Json
  | .firstRow row => tagged "first_row" [("row", jsonOfMapping row)]
  | .eachRow row => tagged "each_row" [("row", jsonOfMapping row)]
  | .discard => tagged "discard" []
  | .rowCount => tagged "row_count" []
  | .passthrough => tagged "passthrough" []

def jsonOfReturn : ReturnType → Json
  | .optional t => tagged "optional" [("type", t.toJson)]
  | .iterator t => tagged "iterator" [("type", t.toJson)]
  | .asyncIterator t => tagged "async_iterator" [("type", t.toJson)]
  | .nothing => tagged "nothing" []
  | .rowCount => tagged "row_count" []
  | .driverResult => tagged "driver_result" []

def jsonOfMethod (m : Method) : Json :=
  .record [("name", text m.name), ("is_async", bool m.isAsync), ("style", jsonOfArgStyle m.style),
    ("args", ofList jsonOfArg m.args), ("returns", jsonOfReturn m.returns),
    ("execution", jsonOfExecution m.execution), ("result", jsonOfResult m.result)]

def toJson (q : Querier) : Json :=
  .record [("name", text q.name), ("flavor", text q.flavor.text),
    ("methods", ofList jsonOfMethod q.methods)]

end Querier
end DataAccess
