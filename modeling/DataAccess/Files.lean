/-!
Files by their paths, and why one cannot be read.
-/

namespace DataAccess

inductive FileError
  | missing
  | directory
  | notDirectory
  | nameTooLong
  | other (reason : String)
deriving DecidableEq

def FileError.message : FileError → String
  | missing => "No such file or directory (os error 2)"
  | directory => "Is a directory (os error 21)"
  | notDirectory => "Not a directory (os error 20)"
  | nameTooLong => "File name too long (os error 36)"
  | other reason => reason

-- The files below a directory, each with the names on the way to it.
-- Everything is under its names on the way from the root, and paths start from the root or `here`.
structure FileTree where
  files : List (List String × ByteArray)
  here : List String
  directories : List (List String) := []

namespace FileTree

def split (path : String) : List String :=
  path.splitOn "/"

-- Parts of a path that name nothing: between two slashes, at its end, or a dot.
def isIdle (part : String) : Bool :=
  part = "" || part = "."

variable (t : FileTree)

-- Whatever stands on the way to something is a directory.
def holds (names : List String) : Bool :=
  (t.here :: t.directories ++ t.files.map (·.1)).any names.isPrefixOf

-- Follows a path part by part. Only a directory can be passed, and the root is its own parent.
def follow (names : List String) : List String → Except FileError ByteArray
  | [] =>
    match t.files.lookup names with
    | some content => .ok content
    | none => .error .directory
  | part :: parts =>
    if (t.files.lookup names).isSome then .error .notDirectory
    else if isIdle part then follow names parts
    else if part = ".." then follow names.dropLast parts
    else if 255 < part.utf8ByteSize then .error .nameTooLong
    else if t.holds (names ++ [part]) then follow (names ++ [part]) parts
    else .error .missing

def read (path : String) : Except FileError ByteArray :=
  if path = "" then .error .missing
  else if 4096 ≤ path.utf8ByteSize then .error .nameTooLong
  else t.follow (if path.startsWith "/" then [] else t.here) (split path)

end FileTree
end DataAccess
