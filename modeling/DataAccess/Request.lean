import DataAccess.Catalog
import DataAccess.Json.Basic
/-!
A request: a catalog, the queries against it and how to treat them.
-/

namespace DataAccess

structure Parameter where
  -- The ordinal of its placeholder: `$1` is 1.
  number : Int32 := 0
  column : Column := {}

structure SourceQuery where
  text : String := ""
  name : String := ""
  -- What becomes of the result, as a tag such as `:one`.
  cmd : String := ""
  columns : List Column := []
  params : List Parameter := []
  comments : List String := []
  filename : String := ""

structure Settings where
  engine : Engine := .postgresql

structure Request where
  settings : Settings := {}
  catalog : Catalog := {}
  queries : List SourceQuery := []
  version : String := ""
  pluginOptions : Json := .null

end DataAccess
