import DataAccess.Files
import DataAccess.Options.Json
import DataAccess.Options.Toml
/-!
Options from files. A file is TOML unless its name ends in `.json`.
-/

namespace DataAccess

-- Why there are no options in a file or text.
inductive LoadError
  | json (e : Json.DecodeError)
  | toml
  | unreadable (e : FileError)
  | notText

namespace Options

def ofJsonText (text : String) : Except LoadError Options :=
  (ofDocument (.ofString text)).mapError .json

def ofTomlText (text : String) : Except LoadError Options :=
  match ofToml text with
  | some o => .ok o
  | none => .error .toml

-- What follows the last slash of a path that does not end there.
def fileName (path : String) : List Char :=
  let body := (path.toList.reverse.dropWhile (· = '/'))
  (body.takeWhile (· ≠ '/')).reverse

-- A file has an extension if there is a dot in its name after the first character.
def isJsonName (path : String) : Bool :=
  let name := fileName path
  5 < name.length && ".json".toList.isSuffixOf name

-- Options from a file's content, if it can be read.
def ofFile (path : String) (content : Except FileError ByteArray) : Except LoadError Options :=
  match content with
  | .error e => .error (.unreadable e)
  | .ok bytes =>
    match String.fromUTF8? bytes with
    | none => .error .notText
    | some text => if isJsonName path then ofJsonText text else ofTomlText text

end Options
end DataAccess
