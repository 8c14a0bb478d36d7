import DataAccess.Text.Ascii
/-!
Singular forms of English nouns, as far as rules on their endings go. The rules look at the name in
small letters; what they keep of it is kept as it is spelled.
-/

namespace DataAccess.Naming

namespace Singular

def uncountable : List String :=
  ["equipment", "information", "rice", "money", "species", "series", "fish", "sheep", "jeans",
    "police", "news"]

def irregular : List (String × String) :=
  [("people", "person"), ("men", "man"), ("children", "child"), ("sexes", "sex"),
    ("moves", "move"), ("calories", "calorie"), ("mice", "mouse"), ("lice", "louse"),
    ("oxen", "ox"), ("axes", "axis"), ("testes", "testis")]

-- Names that the rules on endings are not for.
def fixed : List String :=
  ["campus", "meta"]

-- Plural and singular endings. The first that fits is taken.
def endings : List (String × String) :=
  [("statuses", "status"), ("status", "status"), ("quizzes", "quiz"), ("matrices", "matrix"),
    ("vertices", "vertex"), ("indices", "index"), ("aliases", "alias"), ("alias", "alias"),
    ("octopi", "octopus"), ("octopus", "octopus"), ("viri", "virus"), ("virus", "virus"),
    ("crises", "crisis"), ("shoes", "shoe"), ("buses", "bus"), ("bus", "bus"),
    ("movies", "movie"), ("analyses", "analysis"), ("theses", "thesis"), ("xes", "x"),
    ("ches", "ch"), ("sses", "ss"), ("shes", "sh"), ("oes", "o"), ("tives", "tive"),
    ("hives", "hive"), ("ss", "ss")]

def endsWith (name : List Char) (ending : String) : Bool :=
  ending.toList.isSuffixOf name

-- A word ends a name if it is all of it or what follows an underscore.
def endsWithWord (name : List Char) (word : String) : Bool :=
  name = word.toList || endsWith name ("_" ++ word)

-- The letter before an ending.
def before? (name : List Char) (ending : String) : Option Char :=
  if endsWith name ending then (name.take (name.length - ending.length)).getLast? else none

-- What to take from the end of a name and what to put there.
structure Change where
  cut : Nat
  add : String

def Change.none : Change :=
  ⟨0, ""⟩

def Change.apply (c : Change) (name : List Char) : List Char :=
  name.take (name.length - c.cut) ++ c.add.toList

-- The change for endings whose singular depends on the letter before.
def tailChange (name : List Char) : Change :=
  let ies : Option Change := do
    let c ← before? name "ies"
    if c ∉ ['a', 'e', 'i', 'o', 'u', 'y'] ∨ endsWith name "quies" then some ⟨3, "y"⟩ else .none
  let ves : Option Change := do
    let c ← before? name "ves"
    if c = 'l' ∨ c = 'r' then some ⟨3, "f"⟩
    else if c ≠ 'f' then some ⟨3, "fe"⟩
    else .none
  let a : Option Change := do
    let c ← before? name "a"
    if c = 't' ∨ c = 'i' then some ⟨1, "um"⟩ else .none
  let s : Change := if 1 < name.length ∧ endsWith name "s" then ⟨1, ""⟩ else .none
  (ies <|> ves <|> a).getD s

-- The change for a name in small letters.
def change (name : List Char) : Change :=
  if fixed.any (name = ·.toList) then .none
  else if uncountable.any (endsWithWord name) then .none
  else
    match irregular.find? fun (plural, _) => endsWithWord name plural with
    | some (plural, singular) => ⟨plural.length, singular⟩
    | none =>
      match endings.find? fun (plural, _) => endsWith name plural with
      | some (plural, singular) => ⟨plural.length, singular⟩
      | none => tailChange name

end Singular

-- The singular form of a name, unless it is one of those to be kept.
def singular (name : String) (exclusions : List String) : String :=
  if exclusions.any (Text.asciiLower · = Text.asciiLower name) then name
  else .ofList ((Singular.change (Text.asciiLower name).toList).apply name.toList)

end DataAccess.Naming
