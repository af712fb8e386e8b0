import DispatchServer.Text.Written

/-! What can be wrong with a JSON text, and where. -/
namespace DispatchServer.Json

/-- The three kinds of faults: no JSON, JSON of another form than wanted, or the text ends early. -/
inductive Category
  | malformed
  | unexpected
  | truncated
  deriving DecidableEq, Repr

inductive Cause
  | eofInList
  | eofInObject
  | eofInString
  | eofInValue
  | expectedColon
  | expectedListEnd
  | expectedObjectEnd
  | expectedIdent
  | expectedValue
  | invalidEscape
  | invalidNumber
  | numberOutOfRange
  | controlCharacter
  | keyNotString
  | loneSurrogate
  | halfSurrogate
  | trailingComma
  | trailingCharacters
  | data (text : String)
  deriving DecidableEq, Repr

namespace Cause

def category : Cause → Category
  | eofInList | eofInObject | eofInString | eofInValue => .truncated
  | data _ => .unexpected
  | _ => .malformed

def message : Cause → String
  | eofInList => "EOF while parsing a list"
  | eofInObject => "EOF while parsing an object"
  | eofInString => "EOF while parsing a string"
  | eofInValue => "EOF while parsing a value"
  | expectedColon => "expected `:`"
  | expectedListEnd => "expected `,` or `]`"
  | expectedObjectEnd => "expected `,` or `\x7d`"
  | expectedIdent => "expected ident"
  | expectedValue => "expected value"
  | invalidEscape => "invalid escape"
  | invalidNumber => "invalid number"
  | numberOutOfRange => "number out of range"
  | controlCharacter =>
    "control character (\\u0000-\\u001F) found while parsing a string"
  | keyNotString => "key must be a string"
  | loneSurrogate => "lone leading surrogate in hex escape"
  | halfSurrogate => "unexpected end of hex escape"
  | trailingComma => "trailing comma"
  | trailingCharacters => "trailing characters"
  | data text => text

end Cause

/-- A fault, what was left to read when it was found, and how many bytes of that count as read. It
is not placed as long as its place is still to be decided. -/
structure Fault where
  cause : Cause
  left : List Char
  ahead : Nat
  placed : Bool
  deriving DecidableEq, Repr

def byteLength (text : List Char) : Nat := text.foldl (fun n c => n + c.utf8Size) 0

/-- Line and column after so many bytes of a text; columns count bytes. -/
def placeAfter : (line column bytes : Nat) → List Char → Nat × Nat
  | line, column, _, [] => (line, column)
  | line, column, bytes, c :: text =>
    if bytes = 0 then (line, column)
    else if c = '\n' then placeAfter (line + 1) 0 (bytes - 1) text
    else placeAfter line (column + min c.utf8Size bytes) (bytes - c.utf8Size) text

namespace Fault

/-- Line and column of a fault in the text that was read. -/
def place (fault : Fault) (text : List Char) : Nat × Nat :=
  let all := byteLength text
  placeAfter 1 0 (min all (all - byteLength fault.left + fault.ahead)) text

def message (fault : Fault) (text : List Char) : String :=
  let (line, column) := fault.place text
  fault.cause.message ++ s!" at line {line} column {column}"

end Fault

end DispatchServer.Json
