import DataAccess.Engine
import DataAccess.SemanticType
/-!
The names that engines give to types, in lower case.
-/

namespace DataAccess

abbrev Keywords :=
  List (List String × BaseType)

namespace Keywords

def find? (ks : Keywords) (name : String) : Option BaseType :=
  (List.find? (name ∈ ·.1) ks).map (·.2)

def postgresql : Keywords := [
  (["serial", "serial2", "serial4", "serial8", "smallserial", "bigserial", "integer", "int", "int2",
    "int4", "int8", "smallint", "bigint"], .integer),
  (["float", "double precision", "float4", "float8", "real"], .float),
  (["numeric", "money"], .decimal),
  (["boolean", "bool"], .bool),
  (["json", "jsonb"], .dynamic),
  (["bytea", "blob"], .bytes),
  (["date"], .date),
  (["time", "timetz"], .time),
  (["timestamp", "timestamptz"], .dateTime),
  (["interval"], .interval),
  (["text", "varchar", "bpchar", "char", "string", "citext"], .string),
  (["inet", "cidr", "macaddr", "macaddr8"], .string),
  (["ltree", "lquery", "ltxtquery"], .string),
  (["uuid"], .uuid)]

-- The driver has no values of their own for binary columns, nor for times apart from dates.
def mysql : Keywords := [
  (["varchar", "text", "char", "tinytext", "mediumtext", "longtext"], .string),
  (["tinyint", "int", "integer", "smallint", "mediumint", "year", "bigint"], .integer),
  (["blob", "binary", "varbinary", "tinyblob", "mediumblob", "longblob"], .dynamic),
  (["double", "double precision", "real", "float"], .float),
  (["decimal", "dec", "fixed"], .string),
  (["enum"], .string),
  (["date", "timestamp", "datetime", "time"], .date),
  (["boolean", "bool"], .bool),
  (["json", "any"], .dynamic)]

def sqlite : Keywords := [
  (["int", "integer", "tinyint", "smallint", "mediumint", "bigint", "unsignedbigint", "int2",
    "int8"], .integer),
  (["blob"], .bytes),
  (["real", "double", "double precision", "float"], .float),
  (["boolean", "bool"], .bool),
  (["date"], .date),
  (["datetime", "timestamp"], .dateTime),
  (["any"], .dynamic),
  (["text", "clob", "json"], .string),
  (["numeric"], .float)]

-- Names that can go on, as in `varchar(255)`.
def sqliteStems : Keywords := [
  (["character", "varchar", "varyingcharacter", "nchar", "nativecharacter", "nvarchar"], .string),
  (["decimal"], .float)]

def findStem? (ks : Keywords) (name : String) : Option BaseType :=
  (List.find? (·.1.any fun k => k.toList.isPrefixOf name.toList) ks).map (·.2)

end Keywords

-- The name without the schema in which the engine keeps its own types.
def dropSystemSchema (name : String) : String :=
  let stem := "pg_catalog.".toList
  if stem.isPrefixOf name.toList then .ofList (name.toList.drop stem.length) else name

-- What a type name means to an engine. For `mysql`, a `tinyint` of length one is a flag.
def Engine.baseType? (e : Engine) (name : String) (length : Int32) : Option BaseType :=
  match e with
  | .postgresql => Keywords.postgresql.find? (dropSystemSchema name)
  | .mysql =>
    if name = "tinyint" ∧ length = 1 then some .bool else Keywords.mysql.find? name
  | .sqlite => Keywords.sqlite.find? name <|> Keywords.sqliteStems.findStem? name

end DataAccess
