import DataAccess.Request
import DataAccess.Json.Decode
/-!
Requests as JSON. Every member has a default, but for the names of schemas, enums and tables and the
ordinals of parameters.
-/

namespace DataAccess

open Json Field

namespace Engine

def decode : Decoder Engine :=
  Decoder.variant (all.map fun e => (e.name, e))

def toJson (e : Engine) : Json :=
  .text e.name

end Engine

namespace Identifier

def shape : Shape Identifier where
  name := "Identifier"
  blank := {}
  fields := [
    optional "catalog" Decoder.text fun i s => { i with catalog := s },
    optional "schema" Decoder.text fun i s => { i with schema := s },
    optional "name" Decoder.text fun i s => { i with name := s }]

end Identifier

namespace Column

def shape : Shape Column where
  name := "Column"
  blank := {}
  fields := [
    optional "name" Decoder.text fun c s => { c with name := s },
    optional "not_null" Decoder.bool fun c b => { c with notNull := b },
    optional "is_array" Decoder.bool fun c b => { c with isArray := b },
    optional "comment" Decoder.text fun c s => { c with comment := s },
    optional "length" Decoder.int32 fun c n => { c with length := n },
    optional "table" (Decoder.option Identifier.shape.decode) fun c t => { c with table := t },
    optional "type" Identifier.shape.decode fun c i => { c with type := i }]

def toJson (c : Column) : Json :=
  .record [("name", .text c.name), ("not_null", .bool c.notNull), ("is_array", .bool c.isArray),
    ("comment", .text c.comment), ("length", ofInt32 c.length),
    ("table", ofOption Identifier.toJson c.table), ("type", c.type.toJson)]

end Column

namespace Table

def shape : Shape Table where
  name := "Table"
  blank := {}
  fields := [
    mandatory "rel" Identifier.shape.decode fun t i => { t with rel := i },
    optional "columns" (Decoder.list Column.shape.decode) fun t cs => { t with columns := cs },
    optional "comment" Decoder.text fun t s => { t with comment := s }]

def toJson (t : Table) : Json :=
  .record [("rel", t.rel.toJson), ("columns", ofList Column.toJson t.columns),
    ("comment", .text t.comment)]

end Table

namespace Enumeration

def shape : Shape Enumeration where
  name := "Enum"
  blank := {}
  fields := [
    mandatory "name" Decoder.text fun e s => { e with name := s },
    optional "vals" (Decoder.list Decoder.text) fun e vs => { e with vals := vs },
    optional "comment" Decoder.text fun e s => { e with comment := s }]

def toJson (e : Enumeration) : Json :=
  .record [("name", .text e.name), ("vals", texts e.vals), ("comment", .text e.comment)]

end Enumeration

namespace Schema

def shape : Shape Schema where
  name := "Schema"
  blank := {}
  fields := [
    mandatory "name" Decoder.text fun s n => { s with name := n },
    optional "comment" Decoder.text fun s c => { s with comment := c },
    optional "tables" (Decoder.list Table.shape.decode) fun s ts => { s with tables := ts },
    optional "enums" (Decoder.list Enumeration.shape.decode) fun s es => { s with enums := es }]

def toJson (s : Schema) : Json :=
  .record [("name", .text s.name), ("comment", .text s.comment),
    ("tables", ofList Table.toJson s.tables), ("enums", ofList Enumeration.toJson s.enums)]

end Schema

namespace Catalog

def shape : Shape Catalog where
  name := "Catalog"
  blank := {}
  fields := [
    optional "name" Decoder.text fun c s => { c with name := s },
    optional "comment" Decoder.text fun c s => { c with comment := s },
    optional "default_schema" Decoder.text fun c s => { c with defaultSchema := s },
    optional "schemas" (Decoder.list Schema.shape.decode) fun c ss => { c with schemas := ss }]

def toJson (c : Catalog) : Json :=
  .record [("name", .text c.name), ("comment", .text c.comment),
    ("default_schema", .text c.defaultSchema), ("schemas", ofList Schema.toJson c.schemas)]

end Catalog

namespace Parameter

def shape : Shape Parameter where
  name := "Parameter"
  blank := {}
  fields := [
    mandatory "number" Decoder.int32 fun p n => { p with number := n },
    optional "column" Column.shape.decode fun p c => { p with column := c }]

def toJson (p : Parameter) : Json :=
  .record [("number", ofInt32 p.number), ("column", p.column.toJson)]

end Parameter

namespace SourceQuery

def shape : Shape SourceQuery where
  name := "Query"
  blank := {}
  fields := [
    optional "text" Decoder.text fun q s => { q with text := s },
    optional "name" Decoder.text fun q s => { q with name := s },
    optional "cmd" Decoder.text fun q s => { q with cmd := s },
    optional "columns" (Decoder.list Column.shape.decode) fun q cs => { q with columns := cs },
    optional "params" (Decoder.list Parameter.shape.decode) fun q ps => { q with params := ps },
    optional "comments" (Decoder.list Decoder.text) fun q cs => { q with comments := cs },
    optional "filename" Decoder.text fun q s => { q with filename := s }]

def toJson (q : SourceQuery) : Json :=
  .record [("text", .text q.text), ("name", .text q.name), ("cmd", .text q.cmd),
    ("columns", ofList Column.toJson q.columns), ("params", ofList Parameter.toJson q.params),
    ("comments", texts q.comments), ("filename", .text q.filename)]

end SourceQuery

namespace Settings

def shape : Shape Settings where
  name := "Settings"
  blank := {}
  fields := [optional "engine" Engine.decode fun s e => { s with engine := e }]

def toJson (s : Settings) : Json :=
  .record [("engine", s.engine.toJson)]

end Settings

namespace Request

-- How deep the plugin's options may be nested, in a request that is itself one level.
def optionsDepth : Nat :=
  126

def shape : Shape Request where
  name := "GenerateRequest"
  blank := {}
  fields := [
    optional "settings" Settings.shape.decode fun r s => { r with settings := s },
    optional "catalog" Catalog.shape.decode fun r c => { r with catalog := c },
    optional "queries" (Decoder.list SourceQuery.shape.decode) fun r qs => { r with queries := qs },
    optional "sqlc_version" Decoder.text fun r s => { r with version := s },
    optional "plugin_options" (Node.toJson optionsDepth) fun r v => { r with pluginOptions := v }]

def toJson (r : Request) : Json :=
  .record [("settings", r.settings.toJson), ("catalog", r.catalog.toJson),
    ("queries", ofList SourceQuery.toJson r.queries), ("sqlc_version", .text r.version),
    ("plugin_options", r.pluginOptions)]

def ofBytes (text : ByteArray) : Decoded Request :=
  (Document.ofBytes text).decode shape.decode

end Request
end DataAccess
