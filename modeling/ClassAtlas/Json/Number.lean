import ClassAtlas.Decimal.Shortest
import ClassAtlas.Document.Tree

/-! Numbers in a JSON text. A number without fraction and exponent that fits 64
bits, with or without a sign, is an integer; every other number is floating point.
Its value comes from the leading digits that fit 64 bits and a power of ten, and a
number beyond the floating-point range cannot be read. -/
namespace ClassAtlas.Json

open Document

/-- The digits before a point or an exponent, whether a point was passed, and what
is left. -/
structure NumberText where
  negative : Bool
  whole : List Char
  /-- The digits after the point, if there is one. -/
  fraction : Option (List Char)
  /-- The sign and the digits of the exponent, if there is one. -/
  exponent : Option (Bool × List Char)

/-- Whether there is a minus sign, and what is left. -/
def takeSign : List Char → Bool × List Char
  | '-' :: rest => (true, rest)
  | text => (false, text)

def NumberText.read? (text : List Char) : Option (NumberText × List Char) := do
  let (negative, text) := takeSign text
  let whole := text.takeWhile Char.isDigit
  let text := text.dropWhile Char.isDigit
  guard (whole != [] && (whole.head? != some '0' || whole.length = 1))
  let (fraction, text) ←
    match text with
    | '.' :: rest =>
      let digits := rest.takeWhile Char.isDigit
      if digits.isEmpty then none else some (some digits, rest.dropWhile Char.isDigit)
    | _ => some (none, text)
  let (exponent, text) ←
    match text with
    | e :: rest =>
      if e = 'e' || e = 'E' then
        let (down, rest) :=
          match rest with
          | '+' :: rest => (false, rest)
          | '-' :: rest => (true, rest)
          | _ => (false, rest)
        let digits := rest.takeWhile Char.isDigit
        if digits.isEmpty then none else some (some (down, digits), rest.dropWhile Char.isDigit)
      else some (none, text)
    | _ => some (none, text)
  return (⟨negative, whole, fraction, exponent⟩, text)

def greatestWord : Nat := UInt64.size - 1

/-- Take in digits while the number fits 64 bits. The result counts the digits
that were left out. -/
def takeDigits (value : Nat) : List Char → Nat × Nat
  | [] => (value, 0)
  | c :: rest =>
    let next := 10 * value + (c.toNat - '0'.toNat)
    if greatestWord < next then (value, rest.length + 1) else takeDigits next rest

/-- The product `value * 10 ^ exponent` in floating-point steps, or nothing if that is beyond
the range. -/
def scaleFloat (value : Float) (exponent : Int) : Option Float :=
  if exponent.natAbs ≤ 308 then
    if 0 ≤ exponent then
      let x := value * Float.ofScientific 1 false exponent.toNat
      if x.isInf then none else some x
    else some (value / Float.ofScientific 1 false exponent.natAbs)
  else if value == 0.0 then some value
  else if 0 ≤ exponent then none
  else scaleFloat (value / Float.ofScientific 1 false 308) (exponent + 308)
termination_by exponent.natAbs
decreasing_by omega

def greatestExponent : Nat := Nat.pow 2 31 - 1

def NumberText.toFloat? (n : NumberText) : Option Float := do
  let (value, leftOut) := takeDigits 0 n.whole
  let (value, point) :=
    match n.fraction with
    | some digits =>
      let (value, dropped) := takeDigits value digits
      (value, (leftOut : Int) - ((digits.length : Int) - dropped))
    | none => (value, (leftOut : Int))
  let size ←
    match n.exponent with
    | some (down, digits) =>
      let power := digits.foldl (fun v c => 10 * v + (c.toNat - '0'.toNat)) 0
      if greatestExponent < power then
        if value != 0 && !down then none else some 0.0
      else
        scaleFloat value.toUInt64.toFloat (if down then point - power else point + power)
    | none => scaleFloat value.toUInt64.toFloat point
  return if n.negative then -size else size

/-- Exponents from -5 to 15 are written in place, others with their sign, and a tie
goes to the even digit. -/
def floatLayout : Decimal.Layout :=
  ⟨.even, fun exponent => -5 ≤ exponent && exponent ≤ 15, "+"⟩

def NumberText.found (n : NumberText) : Except ReadFault Found :=
  let whole := n.whole.foldl (fun v c => 10 * v + (c.toNat - '0'.toNat)) 0
  let float : Except ReadFault Found :=
    match n.toFloat? with
    | some x => .ok (.decimal (Decimal.write floatLayout x))
    | none => .error .malformed
  match n.fraction, n.exponent with
  | none, none =>
    if n.negative then
      if 0 < whole && whole ≤ Nat.pow 2 63 then .ok (.integer (-(whole : Int))) else float
    else if whole ≤ greatestWord then .ok (.integer whole)
    else float
  | _, _ => float

end ClassAtlas.Json
