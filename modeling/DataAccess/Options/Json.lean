import DataAccess.Options
import DataAccess.Json.Decode
/-!
Options as JSON, from text or from a value that has been read.
-/

namespace DataAccess

open Json Field

namespace Options

def shape : Shape Options where
  name := "Config"
  blank := {}
  fields := [
    optional "emit_exact_table_names" Decoder.bool fun o b => { o with exactTableNames := b },
    optional "inflection_exclude_table_names" (Decoder.list Decoder.text)
      fun o ts => { o with inflectionExclusions := ts },
    optional "query_parameter_limit" (Decoder.option Decoder.int32)
      fun o n => { o with parameterLimit := n },
    optional "emit_pydantic_models" Decoder.bool fun o b => { o with pydanticModels := b },
    optional "emit_sync_querier" Decoder.bool fun o b => { o with syncQuerier := b },
    optional "emit_async_querier" Decoder.bool fun o b => { o with asyncQuerier := b },
    optional "package" Decoder.text fun o s => { o with package := s },
    optional "out" Decoder.text fun o s => { o with out := s },
    optional "output_models_file_name" (Decoder.option Decoder.text)
      fun o s => { o with modelsFileName := s }]

def toJson (o : Options) : Json :=
  .record [("emit_exact_table_names", .bool o.exactTableNames),
    ("inflection_exclude_table_names", texts o.inflectionExclusions),
    ("query_parameter_limit", ofOption ofInt32 o.parameterLimit),
    ("emit_pydantic_models", .bool o.pydanticModels),
    ("emit_sync_querier", .bool o.syncQuerier),
    ("emit_async_querier", .bool o.asyncQuerier),
    ("package", .text o.package), ("out", .text o.out),
    ("output_models_file_name", ofOption .text o.modelsFileName)]

def ofDocument (d : Document) : Decoded Options :=
  d.decode shape.decode

-- Options from a value. Unlike in a text, nothing is wrong with a list that is too long but its
-- length. No value stands for the defaults.
def ofJson : Json → Decoded Options
  | .null => .ok {}
  | .list items => do
    let o ← shape.decode (.ofJson (.list (items.take shape.fields.length)))
    if shape.fields.length < items.length then
      .error (.invalidLength items.length "fewer elements in array")
    else return o
  | v => shape.decode (.ofJson v)

end Options
end DataAccess
