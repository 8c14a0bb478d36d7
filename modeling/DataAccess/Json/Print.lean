import DataAccess.Json.Basic
import DataAccess.Decimal.Shortest
/-!
The text of JSON values: compact, or with every item on a line of its own.
-/

namespace DataAccess.Json

def Number.render : Number → String
  | whole n => toString n
  | real x => Decimal.render x

def hexDigit (n : Nat) : Char :=
  Nat.digitChar (n % 16)

-- Control characters, quotes and backslashes are escaped; all else is written as it is.
def escapeChar (c : Char) : List Char :=
  if c = '"' ∨ c = '\\' then ['\\', c]
  else if c = '\n' then ['\\', 'n']
  else if c = '\r' then ['\\', 'r']
  else if c = '\t' then ['\\', 't']
  else if c.toNat = 0x8 then ['\\', 'b']
  else if c.toNat = 0xC then ['\\', 'f']
  else if c.toNat < 0x20 then ['\\', 'u', '0', '0', hexDigit (c.toNat / 16), hexDigit c.toNat]
  else [c]

def renderText (s : String) : String :=
  .ofList ('"' :: s.toList.flatMap escapeChar ++ ['"'])

mutual

def compact : Json → String
  | null => "null"
  | bool b => if b then "true" else "false"
  | number n => n.render
  | text s => renderText s
  | list items => "[" ++ ",".intercalate (compactItems items) ++ "]"
  | record members => "\x7b" ++ ",".intercalate (compactMembers members) ++ "\x7d"

def compactItems : List Json → List String
  | [] => []
  | v :: vs => compact v :: compactItems vs

def compactMembers : List (String × Json) → List String
  | [] => []
  | (name, v) :: ms => (renderText name ++ ":" ++ compact v) :: compactMembers ms

end

def newline (depth : Nat) : String :=
  "\n".pushn ' ' (2 * depth)

-- Brackets around parts on lines of their own. Without parts they stand together.
def block (opening closing : String) (depth : Nat) (parts : List String) : String :=
  if parts.isEmpty then opening ++ closing
  else
    opening ++ newline (depth + 1) ++ ("," ++ newline (depth + 1)).intercalate parts ++
      newline depth ++ closing

mutual

def prettyAt (depth : Nat) : Json → String
  | null => "null"
  | bool b => if b then "true" else "false"
  | number n => n.render
  | text s => renderText s
  | list items => block "[" "]" depth (prettyItems (depth + 1) items)
  | record members => block "\x7b" "\x7d" depth (prettyMembers (depth + 1) members)

def prettyItems (depth : Nat) : List Json → List String
  | [] => []
  | v :: vs => prettyAt depth v :: prettyItems depth vs

def prettyMembers (depth : Nat) : List (String × Json) → List String
  | [] => []
  | (name, v) :: ms => (renderText name ++ ": " ++ prettyAt depth v) :: prettyMembers depth ms

end

def pretty (v : Json) : String :=
  prettyAt 0 v

end DataAccess.Json
