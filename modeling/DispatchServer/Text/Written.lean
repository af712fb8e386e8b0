import DispatchServer.Text.Shapeless

/-! Hexadecimal numbers, addresses and quoted text as messages write them, and the lines of what was
written. -/
namespace DispatchServer.Text

def hex (n : Nat) : String := String.ofList (Nat.toDigits 16 n)

/-- Where addresses are counted from when they are written. The start of a mapped segment is the
kernel's choice, so what is inside one is written by its distance from there. -/
inductive Origin
  | absolute
  | segment (base : Nat)
  deriving DecidableEq, Repr

def Origin.address : Origin → Nat → String
  | .absolute, a => "0x" ++ hex a
  | .segment base, a => "base+0x" ++ hex (a - base)

/-- First and last address of a range; an empty range names its start twice. -/
def Origin.range (origin : Origin) (address length : Nat) : String :=
  origin.address address ++ "-" ++ origin.address (address + (length - 1))

def quotedChar (c : Char) : List Char :=
  if c = '\x00' then ['\\', '0']
  else if c = '\t' then ['\\', 't']
  else if c = '\r' then ['\\', 'r']
  else if c = '\n' then ['\\', 'n']
  else if c = '"' then ['\\', '"']
  else if c = '\\' then ['\\', '\\']
  else if shapeless c then "\\u\x7b".toList ++ Nat.toDigits 16 c.toNat ++ ['\x7d']
  else [c]

/-- Text between quotes, with every character that has no shape of its own spelled out. -/
def quoted (s : String) : String :=
  String.ofList ('"' :: s.toList.flatMap quotedChar ++ ['"'])

def withoutReturn (line : String) : String :=
  match line.toList.reverse with
  | '\r' :: before => String.ofList before.reverse
  | _ => line

/-- The lines of a text that is written with a line feed behind it. -/
def lines (text : String) : List String := (text.splitOn "\n").map withoutReturn

end DispatchServer.Text
