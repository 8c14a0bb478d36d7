import DataAccess.Catalog
import DataAccess.SemanticType
/-!
What generated files declare: enums, and records with typed fields.
-/

namespace DataAccess

structure TypedField where
  name : String
  type : SemanticType
  comment : String := ""
deriving DecidableEq

-- A model of a table, or, without a table, a record of parameters or of a result.
structure RecordDecl where
  table : Option Identifier := none
  name : String
  fields : List TypedField
  comment : String := ""
deriving DecidableEq

structure EnumMember where
  name : String
  value : String
deriving DecidableEq

structure EnumDecl where
  name : String
  comment : String := ""
  members : List EnumMember
deriving DecidableEq

open Json in
def TypedField.toJson (f : TypedField) : Json :=
  .record ([("name", .text f.name), ("type", f.type.toJson)] ++ unlessEmpty "comment" f.comment)

open Json in
def RecordDecl.toJson (r : RecordDecl) : Json :=
  .record ([("table", ofOption Identifier.toJson r.table), ("name", .text r.name),
    ("fields", ofList TypedField.toJson r.fields)] ++ unlessEmpty "comment" r.comment)

def EnumMember.toJson (m : EnumMember) : Json :=
  .record [("name", .text m.name), ("value", .text m.value)]

open Json in
def EnumDecl.toJson (e : EnumDecl) : Json :=
  .record ([("name", .text e.name)] ++ unlessEmpty "comment" e.comment ++
    [("constants", ofList EnumMember.toJson e.members)])

end DataAccess
