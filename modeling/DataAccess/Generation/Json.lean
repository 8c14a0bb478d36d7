import DataAccess.Generation
/-!
Analyses and generations as JSON.
-/

namespace DataAccess

open Json

namespace Analysis

def toJson (a : Analysis) : Json :=
  .record [("enums", ofList EnumDecl.toJson a.enums), ("models", ofList RecordDecl.toJson a.models),
    ("queries", ofList Query.toJson a.queries)]

end Analysis

namespace ModelsImport

def toJson (i : ModelsImport) : Json :=
  .record [("package", text i.package), ("module", text i.module)]

end ModelsImport

namespace ModelsFile

def toJson (f : ModelsFile) : Json :=
  .record [("name", text f.name), ("style", text f.style.text),
    ("enums", ofList EnumDecl.toJson f.enums), ("models", ofList RecordDecl.toJson f.models),
    ("requirements", f.requirements.toJson)]

end ModelsFile

namespace QueryFile

def toJson (f : QueryFile) : Json :=
  .record [("name", text f.name), ("source_name", text f.sourceName),
    ("models_import", f.modelsImport.toJson), ("queries", ofList Query.toJson f.queries),
    ("declarations", ofList RecordDecl.toJson f.declarations),
    ("queriers", ofList Querier.toJson f.queriers), ("requirements", f.requirements.toJson)]

end QueryFile

namespace Generation

def toJson (g : Generation) : Json :=
  .record [("sqlc_version", text g.version), ("models_file", ofOption ModelsFile.toJson g.modelsFile),
    ("query_files", ofList QueryFile.toJson g.queryFiles)]

end Generation
end DataAccess
