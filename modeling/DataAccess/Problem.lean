/-!
What can be wrong with a request. Every problem ends the generation.
-/

namespace DataAccess

-- What a generated name is the name of.
inductive NameKind
  | enum
  | model
  | type
  | outputFile
deriving DecidableEq

def NameKind.text : NameKind → String
  | enum => "enum"
  | model => "model"
  | type => "type"
  | outputFile => "output file"

inductive Problem
  | unsupportedCommand (query cmd : String)
  | negativeParameterLimit (n : Int32)
  | unknownCommand (query cmd : String)
  | nameCollision (kind : NameKind) (name first second : String)
  | blankModelsFileName
deriving DecidableEq

namespace Problem

def message : Problem → String
  | unsupportedCommand query cmd =>
    "Support for " ++ cmd ++ " is not implemented (query '" ++ query ++ "')"
  | negativeParameterLimit n =>
    "Invalid query parameter limit: " ++ toString n.toInt ++ " (expected 0 or a positive number)"
  | unknownCommand query cmd => "Unknown command '" ++ cmd ++ "' for query '" ++ query ++ "'"
  | nameCollision kind name first second =>
    "Name collision: " ++ kind.text ++ " '" ++ name ++ "' is generated from both " ++ first ++
      " and " ++ second
  | blankModelsFileName => "Configuration error: output_models_file_name must not be empty"

end Problem
end DataAccess
