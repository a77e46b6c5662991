import ClassAtlas.Decimal.Shortest
import ClassAtlas.Document.Tree
import ClassAtlas.Yaml.Node

/-! What a scalar is. A plain scalar without a tag is told by its text; a tag of the
core schema demands that the text fits it; every other scalar is a text. Whatever
it is, a scalar can be read as its text. -/
namespace ClassAtlas.Yaml

open Document

def isNullText (text : List Char) : Bool :=
  ["null", "Null", "NULL", "~"].contains (String.ofList text)

def boolean? (text : List Char) : Option Bool :=
  let text := String.ofList text
  if ["true", "True", "TRUE"].contains text then some true
  else if ["false", "False", "FALSE"].contains text then some false
  else none

def digits? (base : Nat) (text : List Char) : Option Nat :=
  if text.isEmpty then none
  else
    text.foldlM
      (fun value c =>
        (hexValue? c).bind fun d => if d < base then some (base * value + d) else none) 0

def isPadded (text : List Char) : Bool :=
  let digits :=
    match text with
    | '-' :: rest | '+' :: rest => rest
    | _ => text
  1 < digits.length && digits.head? = some '0' && digits.all Char.isDigit

/-- The size of an integer without its sign, which may be written in base 16, 8, 2
or 10. -/
def size? (text : List Char) : Option Nat :=
  match text with
  | '0' :: 'x' :: digits => digits? 16 digits
  | '0' :: 'o' :: digits => digits? 8 digits
  | '0' :: 'b' :: digits => digits? 2 digits
  | digits => if isPadded digits then none else digits? 10 digits

def integer? (text : List Char) : Option Int :=
  match text with
  | '-' :: size =>
    (size? size).bind fun n => if n ≤ Nat.pow 2 127 then some (-(n : Int)) else none
  | '+' :: size | size =>
    (size? size).bind fun n => if n < Nat.pow 2 128 then some (n : Int) else none

/-- An integer beyond 64 bits is none of the values that a program knows. -/
def foundInteger (n : Int) : Found :=
  if n < -(Nat.pow 2 63 : Int) then .other s!"integer `{n}` as i128"
  else if UInt64.size ≤ n then .other s!"integer `{n}` as u128"
  else .integer n

/-- The parts of a decimal number without its sign: its digits and the power of ten
they are multiplied with. -/
def decimalParts? (text : List Char) : Option (List Char × Int) := do
  let whole := text.takeWhile Char.isDigit
  let text := text.dropWhile Char.isDigit
  let (fraction, text) :=
    match text with
    | '.' :: rest => (rest.takeWhile Char.isDigit, rest.dropWhile Char.isDigit)
    | _ => ([], text)
  guard !(whole.isEmpty && fraction.isEmpty)
  let exponent ←
    match text with
    | [] => some (0 : Int)
    | e :: power =>
      if e = 'e' || e = 'E' then
        match power with
        | '-' :: digits => (digits? 10 digits).map fun n => -(n : Int)
        | '+' :: digits | digits => (digits? 10 digits).map fun n => (n : Int)
      else none
  return (whole ++ fraction, exponent - fraction.length)

/-- The floating-point number next to `digits * 10 ^ exponent`, if it is finite. -/
def finiteFloat? (digits : List Char) (exponent : Int) : Option Float :=
  let digits := digits.dropWhile (· = '0')
  let top : Int := digits.length + exponent
  if digits.isEmpty || top < -400 then some 0.0
  else if 400 < top then none
  else
    let mantissa := (digits? 10 digits).getD 0
    let x := Float.ofScientific mantissa (exponent < 0) exponent.natAbs
    if x.isInf then none else some x

def float? (text : List Char) : Option Float :=
  let infinity : Float := 1.0 / 0.0
  let (negative, size) :=
    match text with
    | '-' :: size => (true, size)
    | '+' :: size => (false, size)
    | size => (false, size)
  let named := String.ofList size
  if [".inf", ".Inf", ".INF"].contains named then some (if negative then -infinity else infinity)
  else if [".nan", ".NaN", ".NAN"].contains (String.ofList text) then some (0.0 / 0.0)
  else do
    let (digits, exponent) ← decimalParts? size
    let x ← finiteFloat? digits exponent
    return if negative then -x else x

/-- All digits of a number stand in place, and a tie goes up. -/
def floatLayout : Decimal.Layout := ⟨.up, fun _ => true, ""⟩

def foundFloat (x : Float) : Found := .decimal (Decimal.write floatLayout x)

/-- What a plain scalar without a tag is. -/
def foundPlain (text : List Char) : Found :=
  if text.isEmpty || isNullText text then .nothing
  else
    match boolean? text, integer? text with
    | some b, _ => .boolean b
    | none, some n => foundInteger n
    | none, none =>
      match if isPadded text then none else float? text with
      | some x => foundFloat x
      | none => .text (String.ofList text)

def coreTag? (tag : List Char) : Option String :=
  let start := "tag:yaml.org,2002:".toList
  if start.isPrefixOf tag then some (String.ofList (tag.drop start.length)) else none

def foundTagged (tag text : List Char) (style : Style) : Except ReadFault Found :=
  let demand (wanted : String) (found? : Option Found) : Except ReadFault Found :=
    match found? with
    | some found => .ok found
    | none => .error (.invalidValue (.text (String.ofList text)) wanted)
  match coreTag? tag with
  | some "bool" => demand "a boolean" ((boolean? text).map .boolean)
  | some "int" => demand "an integer" ((integer? text).map foundInteger)
  | some "float" => demand "a float" ((float? text).map foundFloat)
  | some "null" => demand "null" (if isNullText text then some .nothing else none)
  | _ =>
    if tag.head? = some '!' && style = .plain then .ok (foundPlain text)
    else .ok (.text (String.ofList text))

def isUnset (tag : Option (List Char)) (text : List Char) (style : Style) : Except ReadFault Bool :=
  if style = .plain then
    match tag with
    | none => .ok (text.isEmpty || isNullText text)
    | some tag =>
      if coreTag? tag = some "null" then
        if isNullText text then .ok true
        else .error (.invalidValue (.text (String.ofList text)) "null")
      else .ok false
  else .ok false

def scalar (tag : Option (List Char)) (text : List Char) (style : Style) : Scalar where
  found :=
    match tag with
    | some tag => foundTagged tag text style
    | none => .ok (if style = .plain then foundPlain text else .text (String.ofList text))
  text := some (String.ofList text)
  unset := isUnset tag text style
  blank := text.isEmpty && style = .plain

end ClassAtlas.Yaml
