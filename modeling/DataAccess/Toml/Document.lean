import DataAccess.Toml.Scalar
/-!
Reading of TOML documents. A reader takes what it reads from the front of a text, or fails. Loops are
bounded by the length of the text, of which every round takes something.
-/

namespace DataAccess.Toml

abbrev Reader (α : Type) :=
  StateT (List Char) Option α

namespace Reader

def fail : Reader α :=
  fun _ => none

-- The next character, if there is one and it passes. It is not taken.
def sees (p : Char → Bool) : Reader Bool :=
  fun s => some (s.head?.any p, s)

def startsWith (t : String) : Reader Bool :=
  fun s => some (t.toList.isPrefixOf s, s)

def drop (n : Nat) : Reader Unit :=
  fun s => some ((), s.drop n)

-- Takes a text if it comes next.
def accept (t : String) : Reader Bool := do
  if ← startsWith t then
    drop t.length
    return true
  else return false

def expect (t : String) : Reader Unit := do
  if ← accept t then return () else fail

def takeWhile (p : Char → Bool) : Reader (List Char) :=
  fun s => some (s.takeWhile p, s.dropWhile p)

def next : Reader Char
  | [] => none
  | c :: s => some (c, s)

def atEnd : Reader Bool :=
  fun s => some (s.isEmpty, s)

def isBlank (c : Char) : Bool :=
  c = ' ' || c = '\t'

-- Characters that may stand in comments and, but for the quotes, in strings.
def isPrinted (c : Char) : Bool :=
  c = '\t' || (' ' ≤ c && c.toNat ≠ 0x7F)

def blanks : Reader Unit := do
  let _ ← takeWhile isBlank

def newline : Reader Bool := do
  if ← accept "\n" then return true else accept "\r\n"

-- A comment up to the end of its line, if one comes next.
def comment : Reader Unit := do
  if ← accept "#" then
    let _ ← takeWhile isPrinted

-- The end of a line, after blanks and a comment.
def lineEnd : Reader Unit := do
  blanks
  comment
  if ← atEnd then return ()
  if ← newline then return ()
  fail

-- Blanks, comments and line ends.
def space : Nat → Reader Unit
  | 0 => return ()
  | n + 1 => do
    blanks
    comment
    if ← newline then space n

-- The character of a number in hexadecimal, of a given width.
def codePoint (width : Nat) : Reader Char := do
  let s ← get
  let ds ← (s.take width).mapM fun c => (Text.digitValue? 16 c : Option Nat)
  let n := Scalar.ofDigits 16 ds
  if h : ds.length = width ∧ n.isValidChar then
    drop width
    return ⟨.ofNat n, by
      have hv := h.2
      have : n < UInt32.size := by rcases hv with hv | hv <;> simp only [UInt32.size] <;> omega
      simpa [UInt32.isValidChar, Nat.mod_eq_of_lt this] using hv⟩
  else fail

-- What a character after a backslash stands for.
def escape : Reader Char := do
  match ← next with
  | 'b' => return '\x08'
  | 't' => return '\t'
  | 'n' => return '\n'
  | 'f' => return '\x0c'
  | 'r' => return '\r'
  | '"' => return '"'
  | '\\' => return '\\'
  | 'u' => codePoint 4
  | 'U' => codePoint 8
  | _ => fail

-- A string on one line, after its opening quote.
def basicText (before : List Char) : Nat → Reader (List Char)
  | 0 => fail
  | n + 1 => do
    match ← next with
    | '"' => return before.reverse
    | '\\' => do basicText ((← escape) :: before) n
    | c => if isPrinted c then basicText (c :: before) n else fail

def literalText : Reader (List Char) := do
  let s ← takeWhile fun c => c ≠ '\'' && isPrinted c
  expect "'"
  return s

-- The end of a text over several lines. Two more quotes at most belong to the text.
def closing (quote : Char) (before : List Char) : Reader (List Char) := do
  let quotes ← takeWhile (· = quote)
  if 2 < quotes.length then fail
  return (quotes ++ before).reverse

-- Blanks and line ends after a backslash, of which there has to be a line end.
def continued (n : Nat) : Reader Unit := do
  blanks
  if !(← newline) then fail
  let rec rest : Nat → Reader Unit
    | 0 => return ()
    | n + 1 => do
      blanks
      if ← newline then rest n
  rest n

-- A text over several lines, after its opening quotes.
def multilineText (escapes : Bool) (quote : Char) (before : List Char) : Nat → Reader (List Char)
  | 0 => fail
  | n + 1 => do
    if ← accept (.ofList [quote, quote, quote]) then closing quote before
    else if ← newline then multilineText escapes quote ('\n' :: before) n
    else
      let c ← next
      if escapes ∧ c = '\\' then
        if ← sees fun c => isBlank c || c = '\n' || c = '\r' then
          continued n
          multilineText escapes quote before n
        else multilineText escapes quote ((← escape) :: before) n
      else if isPrinted c then multilineText escapes quote (c :: before) n
      else fail

def textLines (escapes : Bool) (quote : Char) (n : Nat) : Reader (List Char) := do
  let _ ← newline
  multilineText escapes quote [] n

-- A string as a value, if one comes next.
def text? (n : Nat) : Reader (Option String) := do
  if ← accept "\"\"\"" then return some (.ofList (← textLines true '"' n))
  else if ← accept "\"" then return some (.ofList (← basicText [] n))
  else if ← accept "'''" then return some (.ofList (← textLines false '\'' n))
  else if ← accept "'" then return some (.ofList (← literalText))
  else return none

def isBare (c : Char) : Bool :=
  Text.isWord c || c = '-'

-- A part of a key.
def keyPart (n : Nat) : Reader String := do
  if ← accept "\"" then return .ofList (← basicText [] n)
  else if ← accept "'" then return .ofList (← literalText)
  else
    let s ← takeWhile isBare
    if s.isEmpty then fail
    return .ofList s

def keyParts (n : Nat) : Nat → Reader (List String)
  | 0 => fail
  | m + 1 => do
    blanks
    let part ← keyPart n
    blanks
    if ← accept "." then return part :: (← keyParts n m) else return [part]

-- How deep keys, lists and tables in braces may go.
def depthLimit : Nat :=
  80

-- A dotted key: the path to a table and a name in it.
def key (n : Nat) : Reader (List String × String) := do
  let parts ← keyParts n n
  if depthLimit ≤ parts.length then fail
  match parts.getLast? with
  | none => fail
  | some name => return (parts.dropLast, name)

-- A value in one word. A date and a time can stand a blank apart.
def scalar : Reader Value := do
  let inWord (c : Char) : Bool := c ∉ [' ', '\t', '\n', '\r', ',', ']', '\x7d', '#']
  let word ← takeWhile inWord
  let word ←
    if Scalar.isDate word ∧ (← get).head? = some ' ' ∧
        ((← get).drop 1).head?.any Char.isDigit then do
      drop 1
      pure (word ++ ' ' :: (← takeWhile inWord))
    else pure word
  match Scalar.read? word with
  | some v => return v
  | none => fail

mutual

def value (depth : Nat) : Nat → Reader Value
  | 0 => fail
  | n + 1 => do
    match ← text? n with
    | some s => return .text s
    | none =>
      if ← accept "[" then
        if depth = 0 then fail
        return .list (← items (depth - 1) n)
      else if ← accept "\x7b" then
        if depth = 0 then fail
        blanks
        if ← accept "\x7d" then return .table .inline []
        match ← members (depth - 1) (.table .header []) n with
        | .table _ ms => return .table .inline ms
        | _ => fail
      else scalar

-- The items of a list after its bracket. A comma may follow the last.
def items (depth : Nat) : Nat → Reader (List Value)
  | 0 => fail
  | n + 1 => do
    space n
    if ← accept "]" then return []
    let v ← value depth n
    space n
    if ← accept "," then return v :: (← items depth n)
    expect "]"
    return [v]

-- The members of a table in braces, added to those before. No comma may follow the last.
def members (depth : Nat) (before : Value) : Nat → Reader Value
  | 0 => fail
  | n + 1 => do
    let (path, name) ← key n
    expect "="
    blanks
    let v ← value depth n
    match Value.define path name v before with
    | none => fail
    | some t =>
      blanks
      if ← accept "," then members depth t n
      else
        expect "\x7d"
        return t

end

-- What has been read, and the path of the table to which the next lines add.
structure Progress where
  root : Value
  path : List String

def header (n : Nat) (p : Progress) : Reader Progress := do
  let isNext ← accept "[["
  if !isNext then expect "["
  let (path, name) ← key n
  expect (if isNext then "]]" else "]")
  lineEnd
  match if isNext then p.root.openNext path name else p.root.openTable path name with
  | some root => return { root, path := path ++ [name] }
  | none => fail

def keyValue (n : Nat) (p : Progress) : Reader Progress := do
  let (path, name) ← key n
  expect "="
  blanks
  let v ← value (depthLimit - 1) n
  lineEnd
  match Value.within .implied (Value.define path name v) p.path p.root with
  | some root => return { p with root }
  | none => fail

-- The lines of a document.
def lines (n : Nat) (p : Progress) : Nat → Reader Value
  | 0 => fail
  | m + 1 => do
    blanks
    if ← atEnd then return p.root
    else if ← newline then lines n p m
    else if ← sees (· = '#') then
      lineEnd
      lines n p m
    else if ← sees (· = '[') then lines n (← header n p) m
    else lines n (← keyValue n p) m

end Reader

-- The table of a document, if it is one. A byte order mark may stand in front.
def read? (text : String) : Option Value :=
  let s := text.toList
  let s := if s.head? = some '\uFEFF' then s.drop 1 else s
  let n := 2 * s.length + 2
  (Reader.lines n { root := .table .header [], path := [] } n s).map (·.1)

end DataAccess.Toml
