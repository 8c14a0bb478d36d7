import DataAccess.Json.Token
/-!
The tree of a JSON text. A text that is not JSON has a tree too: it breaks off at the first flaw.
So what a decoder finds wrong with a value, and what is wrong with the text, come to light in the
order in which they are written.
-/

namespace DataAccess.Json

-- What stands at the end of a list or record, where its closing bracket should.
inductive Stop
  | closed
  | ended
  | stray

inductive Node
  | null
  | bool (b : Bool)
  | number (n : Except Malformed Number)
  | text (s : Except Malformed String)
  | list (items : List Node) (stop : Stop)
  | record (members : List (Except Malformed String × Node)) (stop : Stop)
  | flawed (f : Flaw)

structure Document where
  root : Node
  -- Something follows the value.
  trailing : Bool

def Stop.fault? : Stop → Option Malformed
  | closed => none
  | ended => some .ended
  | stray => some .unexpected

mutual

-- What is wrong with the text of a value that is skipped: only its last part can be flawed.
def Node.fault? : Node → Option Malformed
  | .null | .bool _ | .number _ | .text _ => none
  | .flawed f => some f.skipped
  | .list items stop => lastItemFault? stop items
  | .record members stop => lastMemberFault? stop members

def lastItemFault? (stop : Stop) : List Node → Option Malformed
  | [] => stop.fault?
  | [v] => v.fault? <|> stop.fault?
  | _ :: vs => lastItemFault? stop vs

def lastMemberFault? (stop : Stop) : List (Except Malformed String × Node) → Option Malformed
  | [] => stop.fault?
  | [(_, v)] => v.fault? <|> stop.fault?
  | _ :: ms => lastMemberFault? stop ms

end

namespace Document

-- The list or record of which a value is being read is a part. Parts are kept last first.
inductive Frame
  | item (before : List Node)
  | member (before : List (Except Malformed String × Node)) (key : Except Malformed String)

-- What has been read, and what has to come next.
inductive State
  | value (within : List Frame)
  | listStart (within : List Frame)
  | listRest (within : List Frame) (items : List Node)
  | recordStart (within : List Frame)
  | key (within : List Frame) (members : List (Except Malformed String × Node))
  | colon (within : List Frame) (members : List (Except Malformed String × Node))
      (key : Except Malformed String)
  | recordRest (within : List Frame) (members : List (Except Malformed String × Node))
  | complete (d : Document)

-- A value has been read.
def fill : List Frame → Node → State
  | [], v => .complete ⟨v, false⟩
  | .item before :: fs, v => .listRest fs (v :: before)
  | .member before key :: fs, v => .recordRest fs ((key, v) :: before)

-- The text breaks off within a value.
def cut : List Frame → Node → Document
  | [], v => ⟨v, false⟩
  | .item before :: fs, v => cut fs (.list (v :: before).reverse .ended)
  | .member before key :: fs, v => cut fs (.record ((key, v) :: before).reverse .ended)

-- A token where a name has to stand. A name that is flawed takes the place of its value too.
def name (within : List Frame) (members : List (Except Malformed String × Node)) :
    Token → State
  | .text s => .colon within members s
  | .flawed (.quoted r s) =>
    .complete (cut (.member members (.error r) :: within) (.flawed (.quoted r s)))
  | _ => .complete (cut within (.record members.reverse .stray))

-- A token where a value has to start.
def start (within : List Frame) : Token → State
  | .null => fill within .null
  | .bool b => fill within (.bool b)
  | .number n => fill within (.number n)
  | .text s => fill within (.text s)
  | .openList => .listStart within
  | .openRecord => .recordStart within
  | .flawed f => .complete (cut within (.flawed f))
  | .closeList | .closeRecord | .comma | .colon =>
    .complete (cut within (.flawed (.absent .unexpected)))

def step : State → Token → State
  | .value within, t => start within t
  | .listStart within, .closeList => fill within (.list [] .closed)
  | .listStart within, t => start (.item [] :: within) t
  | .listRest within items, .closeList => fill within (.list items.reverse .closed)
  | .listRest within items, .comma => .value (.item items :: within)
  | .listRest within items, _ => .complete (cut within (.list items.reverse .stray))
  | .recordStart within, .closeRecord => fill within (.record [] .closed)
  | .recordStart within, t => name within [] t
  | .key within members, t => name within members t
  | .colon within members key, .colon => .value (.member members key :: within)
  | .colon within members key, _ =>
    .complete (cut (.member members key :: within) (.flawed (.absent .unexpected)))
  | .recordRest within members, .closeRecord => fill within (.record members.reverse .closed)
  | .recordRest within members, .comma => .key within members
  | .recordRest within members, _ =>
    .complete (cut within (.record members.reverse .stray))
  | .complete d, _ => .complete { d with trailing := true }

-- The text has ended.
def finish : State → Document
  | .value within => cut within (.flawed (.absent .ended))
  | .listStart within => cut within (.list [] .ended)
  | .listRest within items => cut within (.list items.reverse .ended)
  | .recordStart within => cut within (.record [] .ended)
  | .key within members =>
    cut (.member members (.error .ended) :: within) (.flawed (.absent .ended))
  | .colon within members key => cut (.member members key :: within) (.flawed (.absent .ended))
  | .recordRest within members => cut within (.record members.reverse .ended)
  | .complete d => d

def readFrom (s : State) : List UInt8 → Document
  | [] => finish s
  | b :: bs =>
    if Token.isSpace b then readFrom s bs
    else
      match s with
      | .complete d => { d with trailing := true }
      | s =>
        let r := Token.next b bs
        readFrom (step s r.1) r.2
termination_by bs => bs.length
decreasing_by
  · simp
  · exact Nat.lt_succ_of_le Token.next_length_le

def read (text : List UInt8) : Document :=
  readFrom (.value []) text

def ofBytes (text : ByteArray) : Document :=
  read text.toList

def ofString (text : String) : Document :=
  ofBytes text.toUTF8

end Document
end DataAccess.Json
