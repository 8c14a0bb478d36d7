import DataAccess.Declaration
import DataAccess.Query.Command
import DataAccess.Query.Placeholder
/-!
Queries as they have been analyzed: arguments, result and SQL text.
-/

namespace DataAccess

-- How a type is written where it is used.
inductive TypeRef
  | scalar (t : SemanticType)
  -- A record of the same file.
  | own (name : String)
  -- A record of the models module.
  | model (name : String)
deriving DecidableEq

-- An argument or a result. A record is emitted unless it is one of the models.
inductive QueryValue
  | empty
  | scalar (name : String) (type : SemanticType)
  | record (name : String) (decl : RecordDecl) (emit : Bool)
deriving DecidableEq

namespace QueryValue

def isRecord : QueryValue → Bool
  | record .. => true
  | _ => false

def name? : QueryValue → Option String
  | empty => none
  | scalar name _ | record name _ _ => some name

def emitted? : QueryValue → Option RecordDecl
  | record _ decl true => some decl
  | _ => none

def typeRef? : QueryValue → Option TypeRef
  | empty => none
  | scalar _ type => some (.scalar type)
  | record _ decl true => some (.own decl.name)
  | record _ decl false => some (.model decl.name)

end QueryValue

structure Query where
  kind : QueryKind
  comments : List String := []
  -- By this name, queries are sorted.
  methodName : String
  fieldName : String
  constantName : String
  sql : String
  sourceName : String
  args : List QueryValue
  ret : QueryValue
deriving DecidableEq

namespace Query

-- The text of the constant that holds the SQL: a line with the name, then the statement.
def constantText (q : Query) : String :=
  "-- name: " ++ q.methodName ++ " " ++ .ofList Sql.colonEscape ++ q.kind.word ++ "\n" ++
    q.sql ++ "\n"

def values (q : Query) : List QueryValue :=
  q.args ++ [q.ret]

-- The records to declare for a query: of its arguments, then of its result.
def emitted (q : Query) : List RecordDecl :=
  q.values.filterMap (·.emitted?)

end Query

open Json in
def TypeRef.toJson : TypeRef → Json
  | scalar t => tagged "scalar" [("value", t.toJson)]
  | own name => tagged "local" [("value", text name)]
  | model name => tagged "model" [("value", text name)]

open Json in
def QueryValue.toJson : QueryValue → Json
  | empty => tagged "empty" []
  | scalar name type => tagged "scalar" [("name", text name), ("type", type.toJson)]
  | record name decl emit =>
    tagged "struct" [("name", text name), ("struct", decl.toJson), ("emit", bool emit)]

open Json in
def Query.toJson (q : Query) : Json :=
  .record ([("kind", text q.kind.text)] ++
    (if q.comments.isEmpty then [] else [("comments", texts q.comments)]) ++
    [("method_name", text q.methodName), ("field_name", text q.fieldName),
      ("constant_name", text q.constantName), ("sql", text q.sql),
      ("source_name", text q.sourceName), ("args", ofList QueryValue.toJson q.args),
      ("ret", q.ret.toJson)])

end DataAccess
