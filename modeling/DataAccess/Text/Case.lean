import DataAccess.Text.CaseTable
/-!
Case mappings of text. Upper case maps character by character. So does lower case, but for a capital
sigma, whose form depends on whether it ends a word.
-/

namespace DataAccess.Text

def inRanges (ranges : List (Nat × Nat)) (c : Char) : Bool :=
  ranges.any fun (first, last) => first ≤ c.toNat && c.toNat ≤ last

def CaseRun.map? (c : Char) (r : CaseRun) : Option Char :=
  if r.first ≤ c.toNat ∧ c.toNat ≤ r.last ∧ (c.toNat - r.first) % r.step = 0 then
    some (.ofNat (r.target + (c.toNat - r.first)))
  else none

-- The upper case of a character, which can be several.
def upperChar (c : Char) : List Char :=
  match CaseTable.upperExpansions.lookup c.toNat with
  | some cs => cs.map .ofNat
  | none => [(CaseTable.upper.findSome? (·.map? c)).getD c]

-- The lower case of a character on its own. Only the dotted capital i is mapped to two.
def lowerChar (c : Char) : List Char :=
  if c.toNat = 0x130 then [.ofNat 0x69, .ofNat 0x307]
  else [(CaseTable.lower.findSome? (·.map? c)).getD c]

def capitalSigma : Char :=
  .ofNat 0x3A3

def finalSigma : Char :=
  .ofNat 0x3C2

-- Whether the first letter of a text, ignorable characters aside, has a case.
def startsCased (s : List Char) : Bool :=
  ((s.dropWhile (inRanges CaseTable.ignorable)).head?).any (inRanges CaseTable.cased)

-- The text before is kept last character first, so that its last letter is the nearest.
def lowerAfter (before : List Char) : List Char → List Char
  | [] => []
  | c :: s =>
    let mapped :=
      if c = capitalSigma ∧ startsCased before ∧ ¬startsCased s then [finalSigma]
      else lowerChar c
    mapped ++ lowerAfter (c :: before) s

def lowerChars (s : List Char) : List Char :=
  lowerAfter [] s

def upperChars (s : List Char) : List Char :=
  s.flatMap upperChar

def lower (s : String) : String :=
  .ofList (lowerChars s.toList)

def upper (s : String) : String :=
  .ofList (upperChars s.toList)

end DataAccess.Text
