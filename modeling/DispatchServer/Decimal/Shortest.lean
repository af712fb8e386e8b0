/-! The shortest decimal that reads back as a given double: among the decimals with the fewest
digits that round to it, the nearest. Doubles are taken apart into a whole number and a power of
two, and all comparisons are between whole numbers. -/
namespace DispatchServer.Decimal

/-- A positive double: `mantissa * 2 ^ exponent`, and whether the gap below is half the gap above.
-/
structure Binary where
  mantissa : Nat
  exponent : Int
  narrowBelow : Bool
  deriving DecidableEq, Repr

/-- The magnitude of a finite double by its bits; `none` is zero. -/
def Binary.ofBits (bits : Nat) : Option Binary :=
  let field : Nat := bits / 0x10000000000000 % 0x800
  let fraction := bits % 0x10000000000000
  if field = 0 then
    if fraction = 0 then none else some ⟨fraction, -1074, false⟩
  else some ⟨0x10000000000000 + fraction, (field : Int) - 1075, fraction = 0 ∧ 1 < field⟩

/-- Digits and the power of ten behind the last of them. -/
structure Digits where
  value : Nat
  scale : Int
  deriving DecidableEq, Repr

namespace Binary

def numerator (x : Binary) : Nat := x.mantissa * Nat.pow 2 x.exponent.toNat

def denominator (x : Binary) : Nat := Nat.pow 2 (-x.exponent).toNat

def bounds (x : Binary) : Nat × Nat :=
  (4 * x.mantissa - (if x.narrowBelow then 1 else 2), 4 * x.mantissa + 2)

def leading (x : Binary) : Int :=
  if x.denominator ≤ x.numerator then
    ((Nat.toDigits 10 (x.numerator / x.denominator)).length : Int) - 1
  else
    match (List.range 400).find? fun j => x.denominator ≤ x.numerator * Nat.pow 10 j with
    | some j => -(j : Int)
    | none => 0

/-- Whether `value * 10 ^ scale` rounds to the double; the ends do if the mantissa is even. -/
def accepts (x : Binary) (d : Digits) : Bool :=
  let up := Nat.pow 10 (-d.scale).toNat * Nat.pow 2 x.exponent.toNat
  let middle := d.value * 4 * x.denominator * Nat.pow 10 d.scale.toNat
  let (low, high) := x.bounds
  if x.mantissa % 2 = 0 then low * up ≤ middle && middle ≤ high * up
  else low * up < middle && middle < high * up

/-- The decimal below and the one above, on the grid of a power of ten, nearer one first. -/
def neighbours (x : Binary) (scale : Int) : List Digits :=
  let top := x.numerator * Nat.pow 10 (-scale).toNat
  let bottom := x.denominator * Nat.pow 10 scale.toNat
  let below := top / bottom
  let rest := top % bottom
  if 2 * rest < bottom ∨ (2 * rest = bottom ∧ below % 2 = 0) then
    [⟨below, scale⟩, ⟨below + 1, scale⟩]
  else [⟨below + 1, scale⟩, ⟨below, scale⟩]

/-- Tries one digit, then two, and so on; seventeen are always enough. -/
def shortest (x : Binary) : Digits :=
  let grids := (List.range 17).map fun (n : Nat) => x.leading - (n : Int)
  match grids.findSome? fun scale => (x.neighbours scale).find? x.accepts with
  | some digits => digits
  | none => ⟨0, 0⟩

end Binary

/-- How a decimal is laid out: from which position of the leading digit to which one it is written
without an exponent. -/
structure Layout where
  lowest : Int
  highest : Int
  deriving DecidableEq, Repr

def zeros (n : Nat) : List Char := List.replicate n '0'

/-- Digits without the zeros at their end. -/
def stripped (digits : List Char) : List Char :=
  (digits.reverse.dropWhile (· == '0')).reverse

/-- An exponent with its sign. -/
def exponentText (e : Int) : List Char :=
  'e' :: (if e < 0 then '-' else '+') :: Nat.toDigits 10 e.natAbs

def Layout.text (layout : Layout) (d : Digits) : List Char :=
  let all := Nat.toDigits 10 d.value
  let e := d.scale + (all.length : Int) - 1
  let digits := stripped all
  if layout.lowest ≤ e ∧ e ≤ layout.highest then
    if e < 0 then '0' :: '.' :: zeros ((-e).toNat - 1) ++ digits
    else if digits.length ≤ e.toNat + 1 then
      digits ++ zeros (e.toNat + 1 - digits.length) ++ ['.', '0']
    else digits.take (e.toNat + 1) ++ '.' :: digits.drop (e.toNat + 1)
  else
    match digits with
    | [] => []
    | [digit] => digit :: exponentText e
    | digit :: more => digit :: '.' :: more ++ exponentText e

def Layout.double (layout : Layout) (x : Float) : String :=
  let bits := x.toBits.toNat
  let magnitude := match Binary.ofBits bits with
    | none => ['0', '.', '0']
    | some x => layout.text x.shortest
  String.ofList (if 0x8000000000000000 ≤ bits then '-' :: magnitude else magnitude)

end DispatchServer.Decimal
