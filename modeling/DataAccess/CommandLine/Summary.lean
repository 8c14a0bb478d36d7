import DataAccess.CommandLine.Style
import DataAccess.Generation
/-!
What is generated for a request, at a glance.
-/

namespace DataAccess.CommandLine

open Style

def TypeRef.describe : TypeRef → String
  | .scalar t => t.text
  | .own name => name
  | .model name => modelsModule ++ "." ++ name

variable (color : Bool)

def modelsLines (f : ModelsFile) : List String :=
  [boldGreen.paint color f.name] ++
  (f.enums.map fun e =>
    "  " ++ dimmed.paint color "enum" ++ " " ++ white.paint color e.name ++ " (" ++
      yellow.paint color (", ".intercalate (e.members.map (·.value))) ++ ")") ++
  (f.models.flatMap fun m =>
    ("  " ++ dimmed.paint color "model" ++ " " ++ white.paint color m.name) ::
      m.fields.map fun field =>
        "    " ++ field.name ++ " " ++ cyan.paint color field.type.text) ++
  [""]

def queryLine (q : Query) : String :=
  let args := q.args.filterMap (·.methodArg?)
  "  " ++ dimmed.paint color q.kind.tag ++ " " ++ white.paint color q.methodName ++ "(" ++
    ", ".intercalate (args.map fun a => a.name ++ ": " ++ TypeRef.describe a.type) ++ ") -> " ++
    cyan.paint color ((q.ret.typeRef?.map TypeRef.describe).getD "-")

def queryFileLines (f : QueryFile) : List String :=
  [boldGreen.paint color f.name ++ " " ++ dimmed.paint color ("<- " ++ f.sourceName)] ++
  (f.declarations.map fun d =>
    "  " ++ dimmed.paint color "struct" ++ " " ++ white.paint color d.name) ++
  f.queries.map (queryLine color) ++
  (f.queriers.map fun q =>
    "  " ++ dimmed.paint color "querier" ++ " " ++ white.paint color q.name ++ " (" ++
      toString q.methods.length ++ " methods)") ++
  [""]

def summaryLines (e : Engine) (g : Generation) : List String :=
  [boldCyan.paint color "sqlc-ir" ++ " " ++ dimmed.paint color e.name ++ " " ++
    dimmed.paint color g.version, ""] ++
  g.modelsFile.toList.flatMap (modelsLines color) ++
  g.queryFiles.flatMap (queryFileLines color) ++
  [cyan.paint color (toString g.fileNames.length) ++ " file(s)"]

def unlines (lines : List String) : String :=
  String.join (lines.map (· ++ "\n"))

def summary (e : Engine) (g : Generation) : String :=
  unlines (summaryLines color e g)

end DataAccess.CommandLine
