import DispatchServer.Decimal.Shortest
import DispatchServer.Json.Fault

/-! Reading JSON from left to right. Each reader takes what is left of the text and gives what is
left behind the part it has read; the first fault ends it. -/
namespace DispatchServer.Json

abbrev Read (α : Type) := Except Fault (α × List Char)

variable {α : Type}

/-- A fault with so many bytes of the rest counted as read. -/
def stop (cause : Cause) (left : List Char) (ahead : Nat) : Read α :=
  .error ⟨cause, left, ahead, true⟩

def isBlank (c : Char) : Bool := c = ' ' || c = '\n' || c = '\t' || c = '\r'

def skipBlank (left : List Char) : List Char := left.dropWhile isBlank

/-- The rest of a word of which the first letter was seen. -/
def word : (expected left : List Char) → Read Unit
  | [], left => .ok ((), left)
  | _ :: _, [] => stop .eofInValue [] 0
  | e :: expected, c :: left =>
    if c = e then word expected left else stop .expectedIdent (c :: left) 1

def hexDigit? (c : Char) : Option Nat :=
  if '0' ≤ c ∧ c ≤ '9' then some (c.toNat - 48)
  else if 'a' ≤ c ∧ c ≤ 'f' then some (c.toNat - 87)
  else if 'A' ≤ c ∧ c ≤ 'F' then some (c.toNat - 55)
  else none

def hexValue? (a b c d : Char) : Option Nat := do
  return (((← hexDigit? a) * 16 + (← hexDigit? b)) * 16 + (← hexDigit? c)) * 16 + (← hexDigit? d)

/-- Why there are no four hexadecimal digits: the text is too short for them, or has others. -/
def hexFault (left : List Char) : Read α :=
  if byteLength left < 4 then stop .eofInString [] 0 else stop .invalidEscape left 4

def simpleEscape? : Char → Option Char
  | '"' => some '"'
  | '\\' => some '\\'
  | '/' => some '/'
  | 'b' => some '\x08'
  | 'f' => some '\x0c'
  | 'n' => some '\n'
  | 'r' => some '\r'
  | 't' => some '\t'
  | _ => none

/-- The rest of a string whose opening quote was read, with what came before it reversed. -/
def string : (left before : List Char) → Read String
  | [], _ => stop .eofInString [] 0
  | '"' :: left, before => .ok (String.ofList before.reverse, left)
  | ['\\'], _ => stop .eofInString [] 0
  | '\\' :: 'u' :: a :: b :: c :: d :: left, before =>
    match hexValue? a b c d with
    | none => hexFault (a :: b :: c :: d :: left)
    | some n =>
      if 0xDC00 ≤ n ∧ n ≤ 0xDFFF then stop .loneSurrogate left 0
      else if n < 0xD800 ∨ 0xDBFF < n then string left (Char.ofNat n :: before)
      else
        match left with
        | [] | ['\\'] => stop .eofInString [] 0
        | '\\' :: 'u' :: e :: f :: g :: h :: left =>
          match hexValue? e f g h with
          | none => hexFault (e :: f :: g :: h :: left)
          | some m =>
            if m < 0xDC00 ∨ 0xDFFF < m then stop .loneSurrogate left 0
            else string left (Char.ofNat ((n - 0xD800) * 0x400 + (m - 0xDC00) + 0x10000) :: before)
        | '\\' :: 'u' :: left => hexFault left
        | '\\' :: left => stop .halfSurrogate left 1
        | left => stop .halfSurrogate left 1
  | '\\' :: 'u' :: left, _ => hexFault left
  | '\\' :: c :: left, before =>
    match simpleEscape? c with
    | none => stop .invalidEscape (c :: left) 1
    | some e => string left (e :: before)
  | c :: left, before =>
    if c < ' ' then stop .controlCharacter (c :: left) 1 else string left (c :: before)

/-- Whole numbers of the signed and unsigned words; everything else is a double. -/
inductive Number
  | unsigned (n : Nat)
  | negative (n : Nat)
  | double (x : Float)

def digit? (c : Char) : Option Nat :=
  if '0' ≤ c ∧ c ≤ '9' then some (c.toNat - 48) else none

/-- Digits that still fit a word behind those read, how many they are, and whether a digit that does
not fit follows. -/
def significand : (value count : Nat) → List Char → Nat × Nat × Bool × List Char
  | value, count, [] => (value, count, false, [])
  | value, count, c :: left =>
    match digit? c with
    | none => (value, count, false, c :: left)
    | some d =>
      if UInt64.size ≤ value * 10 + d then (value, count, true, c :: left)
      else significand (value * 10 + d) (count + 1) left

def countDigits (left : List Char) : Nat × List Char :=
  ((left.takeWhile fun c => (digit? c).isSome).length, left.dropWhile fun c => (digit? c).isSome)

/-- Divides by the largest power of ten until the exponent has one of its own. -/
def scaleDown : (fuel : Nat) → Float → Int → Float × Int
  | 0, x, exponent => (x, exponent)
  | fuel + 1, x, exponent =>
    if exponent < -308 ∧ !(x == 0) then scaleDown fuel (x / 1e308) (exponent + 308)
    else (x, exponent)

/-- Scales the digits once by a power of ten, which rounds once more than need be. -/
def double (positive : Bool) (value : Nat) (exponent : Int) (left : List Char) : Read Number :=
  let start := value.toUInt64.toFloat
  let (x, exponent) := scaleDown (exponent.natAbs / 308 + 1) start exponent
  let signed (x : Float) : Read Number := .ok (.double (if positive then x else -x), left)
  if exponent.natAbs ≤ 308 then
    let power := Float.ofScientific 1 false exponent.natAbs
    if exponent < 0 then signed (x / power)
    else if (x * power).isInf then stop .numberOutOfRange left 0
    else signed (x * power)
  else if x == 0 then signed x
  else stop .numberOutOfRange left 0

def exponentLimit : Nat := 0x7fffffff

/-- An exponent as read: its value, or that it is too large to be counted. -/
def exponentDigits : (value : Nat) → List Char → Option Nat × List Char
  | value, [] => (some value, [])
  | value, c :: left =>
    match digit? c with
    | none => (some value, c :: left)
    | some d =>
      if exponentLimit < value * 10 + d then (none, left) else exponentDigits (value * 10 + d) left

/-- Behind the letter of an exponent. -/
def exponent (positive : Bool) (value : Nat) (start : Int) (left : List Char) : Read Number :=
  let (up, left) := match left with
    | '+' :: left => (true, left)
    | '-' :: left => (false, left)
    | left => (true, left)
  match left with
  | [] => stop .eofInValue [] 0
  | c :: rest =>
    match digit? c with
    | none => stop .invalidNumber (c :: rest) 1
    | some d =>
      match exponentDigits d rest with
      | (some e, left) => double positive value (if up then start + e else start - e) left
      | (none, left) =>
        if value ≠ 0 ∧ up then stop .numberOutOfRange left 0
        else .ok (.double (if positive then 0.0 else -0.0), (countDigits left).2)

def afterDigits (positive : Bool) (value : Nat) (start : Int) (left : List Char) : Read Number :=
  match left with
  | 'e' :: left | 'E' :: left => exponent positive value start left
  | left => double positive value start left

def fraction (positive : Bool) (value : Nat) (start : Int) (left : List Char) : Read Number :=
  match significand value 0 left with
  | (value, count, true, left) => afterDigits positive value (start - count) (countDigits left).2
  | (_, 0, false, []) => stop .eofInValue [] 0
  | (_, 0, false, left) => stop .invalidNumber left 1
  | (value, count, false, left) => afterDigits positive value (start - count) left

/-- Behind the digits of a whole number that fits a word. -/
def wholeNumber (positive : Bool) (value : Nat) (left : List Char) : Read Number :=
  match left with
  | '.' :: left => fraction positive value 0 left
  | 'e' :: left | 'E' :: left => exponent positive value 0 left
  | left =>
    if positive then .ok (.unsigned value, left)
    else if 0 < value ∧ 2 * value ≤ UInt64.size then .ok (.negative value, left)
    else .ok (.double (-value.toUInt64.toFloat), left)

/-- A number, behind its sign. -/
def number (positive : Bool) : List Char → Read Number
  | [] => stop .eofInValue [] 0
  | '0' :: left =>
    match left.head?.bind digit? with
    | some _ => stop .invalidNumber left 1
    | none => wholeNumber positive 0 left
  | c :: left =>
    match digit? c with
    | none => stop .invalidNumber (c :: left) 1
    | some d =>
      match significand d 0 left with
      | (value, _, false, left) => wholeNumber positive value left
      | (value, _, true, left) =>
        match countDigits left with
        | (more, '.' :: left) => fraction positive value more left
        | (more, left) => afterDigits positive value more left

/-- Doubles have no exponent while the leading digit stands between the fifth place behind the point
and the sixteenth before it. -/
def doubleLayout : Decimal.Layout := ⟨-5, 15⟩

def Number.found : Number → String
  | unsigned n => s!"integer `{n}`"
  | negative n => s!"integer `-{n}`"
  | double x => "floating point `" ++ doubleLayout.double x ++ "`"

/-- The fault that something else was found where a value of some type was expected. What was found
is read first, as far as it is a simple value. -/
def mismatch (expected : String) (left : List Char) : Fault :=
  let wrong (found : String) (left : List Char) : Fault :=
    ⟨.data ("invalid type: " ++ found ++ ", expected " ++ expected), left, 0, true⟩
  let after {β : Type} (read : Read β) (found : β → String) : Fault :=
    match read with
    | .error fault => fault
    | .ok (value, left) => wrong (found value) left
  match left with
  | 'n' :: left => after (word "ull".toList left) fun _ => "null"
  | 't' :: left => after (word "rue".toList left) fun _ => "boolean `true`"
  | 'f' :: left => after (word "alse".toList left) fun _ => "boolean `false`"
  | '"' :: left => after (string left []) fun s => "string " ++ Text.quoted s
  | '-' :: left => after (number false left) Number.found
  | '[' :: _ => wrong "sequence" left
  | '\x7b' :: _ => wrong "map" left
  | left =>
    if (left.head?.bind digit?).isSome then after (number true left) Number.found
    else ⟨.expectedValue, left, 1, true⟩

/-- The number that was read, as a whole number below a limit. -/
def fitting (limit : Nat) (expected : String) : Read Number → Read Nat
  | .error fault => .error fault
  | .ok (.unsigned n, left) =>
    if n < limit then .ok (n, left)
    else stop (.data s!"invalid value: integer `{n}`, expected {expected}") left 0
  | .ok (.negative n, left) =>
    stop (.data s!"invalid value: integer `-{n}`, expected {expected}") left 0
  | .ok (.double x, left) =>
    stop (.data s!"invalid type: {(Number.double x).found}, expected {expected}") left 0

/-- A whole number of a word with the given limit. -/
def unsigned (limit : Nat) (expected : String) (left : List Char) : Read Nat :=
  match skipBlank left with
  | [] => stop .eofInValue [] 0
  | '-' :: left => fitting limit expected (number false left)
  | left =>
    if (left.head?.bind digit?).isSome then fitting limit expected (number true left)
    else .error (mismatch expected left)

def boolean (left : List Char) : Read Bool :=
  match skipBlank left with
  | [] => stop .eofInValue [] 0
  | 't' :: left => (word "rue".toList left).map fun (_, left) => (true, left)
  | 'f' :: left => (word "alse".toList left).map fun (_, left) => (false, left)
  | left => .error (mismatch "a boolean" left)

def null (expected : String) (left : List Char) : Read Unit :=
  match skipBlank left with
  | [] => stop .eofInValue [] 0
  | 'n' :: left => word "ull".toList left
  | left => .error (mismatch expected left)

def colon (left : List Char) : Read Unit :=
  match skipBlank left with
  | [] => stop .eofInObject [] 0
  | ':' :: left => .ok ((), left)
  | left => stop .expectedColon left 1

/-- Whether a list goes on, and where its next element starts. -/
def nextElement (first : Bool) (left : List Char) : Read Bool :=
  match skipBlank left with
  | [] => stop .eofInList [] 0
  | ']' :: left => .ok (false, ']' :: left)
  | c :: left =>
    if first then .ok (true, c :: left)
    else if c = ',' then
      match skipBlank left with
      | [] => stop .eofInValue [] 0
      | ']' :: left => stop .trailingComma (']' :: left) 1
      | left => .ok (true, left)
    else stop .expectedListEnd (c :: left) 1

/-- The end of a list. -/
def endList (left : List Char) : Read Unit :=
  match skipBlank left with
  | [] => stop .eofInList [] 0
  | ']' :: left => .ok ((), left)
  | ',' :: left =>
    match skipBlank left with
    | ']' :: left => stop .trailingComma (']' :: left) 1
    | left => stop .trailingCharacters left 1
  | left => stop .trailingCharacters left 1

/-- A key that has to come next in an object. -/
def key : List Char → Read String
  | '"' :: left => string left []
  | [] => stop .eofInValue [] 0
  | '\x7d' :: left => stop .trailingComma ('\x7d' :: left) 1
  | left => stop .keyNotString left 1

/-- The key that comes next in an object, unless the object is over. -/
def nextKey (first : Bool) (left : List Char) : Read (Option String) :=
  match skipBlank left with
  | [] => stop .eofInObject [] 0
  | '\x7d' :: left => .ok (none, '\x7d' :: left)
  | c :: left =>
    if first then (key (c :: left)).map fun (name, left) => (some name, left)
    else if c = ',' then (key (skipBlank left)).map fun (name, left) => (some name, left)
    else stop .expectedObjectEnd (c :: left) 1

def endObject (left : List Char) : Read Unit :=
  match skipBlank left with
  | [] => stop .eofInObject [] 0
  | '\x7d' :: left => .ok ((), left)
  | ',' :: left => stop .trailingComma (',' :: left) 1
  | left => stop .trailingCharacters left 1

def endText (left : List Char) : Read Unit :=
  match skipBlank left with
  | [] => .ok ((), [])
  | left => stop .trailingCharacters left 1

/-- The elements of a list of which nothing or something was read already; an element has at least
one character, so the fuel can be what is left of the text. -/
def elements (element : List Char → Read α) : (fuel : Nat) → (first : Bool) → List Char →
    Read (List α)
  | 0, _, left => stop .eofInList left 0
  | fuel + 1, first, left =>
    match nextElement first left with
    | .error fault => .error fault
    | .ok (false, left) => .ok ([], left)
    | .ok (true, left) =>
      match element left with
      | .error fault => .error fault
      | .ok (value, left) =>
        match elements element fuel false left with
        | .error fault => .error fault
        | .ok (values, left) => .ok (value :: values, left)

def list (element : List Char → Read α) (left : List Char) : Read (List α) :=
  match skipBlank left with
  | [] => stop .eofInValue [] 0
  | '[' :: left =>
    match elements element (left.length + 1) true left with
    | .error fault => .error fault
    | .ok (values, left) => (endList left).map fun (_, left) => (values, left)
  | left => .error (mismatch "a sequence" left)

/-- The rest of a string that has to be one of several names. -/
def nameOf (names : String → Option α) (expected : String) (left : List Char) : Read α :=
  match string left [] with
  | .error fault => .error fault
  | .ok (text, left) =>
    match names text with
    | some value => .ok (value, left)
    | none => stop (.data s!"unknown variant `{text}`, expected one of {expected}") left 0

def nameKey (names : String → Option α) (expected : String) (left : List Char) : Read α :=
  match skipBlank left with
  | [] => stop .eofInObject [] 0
  | '"' :: left => nameOf names expected left
  | '\x7d' :: left => stop .expectedValue ('\x7d' :: left) 1
  | left => stop .keyNotString left 1

/-- A name as a key, and null for its value. -/
def nameEntry (names : String → Option α) (expected : String) (left : List Char) : Read α :=
  match nameKey names expected left with
  | .error fault => .error fault
  | .ok (value, left) =>
    match colon left with
    | .error fault => .error fault
    | .ok (_, left) => (null "unit" left).map fun (_, left) => (value, left)

/-- One of several names: a string, or an object with the name as its only key and null as value. -/
def variant (names : String → Option α) (expected : String) (left : List Char) : Read α :=
  match skipBlank left with
  | [] => stop .eofInValue [] 0
  | '"' :: left => nameOf names expected left
  | '\x7b' :: left =>
    match nameEntry names expected left with
    | .error fault => .error fault
    | .ok (value, left) =>
      match skipBlank left with
      | [] => stop .eofInObject [] 0
      | '\x7d' :: left => .ok (value, left)
      | left => stop .expectedValue left 0
  | left => stop .expectedValue left 1

end DispatchServer.Json
