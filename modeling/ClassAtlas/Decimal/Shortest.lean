/-! The shortest decimal that reads back as a given binary floating-point number.
A finite number is `mantissa * 2 ^ exponent`; the reals that round to it form an
interval around it, whose ends belong to it exactly when the mantissa is even. Of
the decimal grids with one, two, and more digits the first that meets the
interval is taken, and on it the point nearest to the number. Where two points are
equally near, a `Tie` tells which is taken. -/
namespace ClassAtlas.Decimal

/-- A positive decimal `digits * 10 ^ exponent`. -/
structure Digits where
  digits : Nat
  exponent : Int
  deriving DecidableEq

/-- A positive number `mantissa * 2 ^ exponent`. `lowerHalf` says that the gap to
the number below is half the gap to the number above. -/
structure Binary where
  mantissa : Nat
  exponent : Int
  lowerHalf : Bool

inductive Tie where
  /-- The one with an even last digit. -/
  | even
  | up
  deriving DecidableEq

/-- The number `n * base ^ e` as a fraction. -/
def scaled (base n : Nat) (e : Int) : Nat × Nat :=
  if 0 ≤ e then (n * base.pow e.toNat, 1) else (n, base.pow (-e).toNat)

/-- The greatest `k` with `10 ^ k ≤ num / den`, for positive fractions. -/
def magnitude (num den : Nat) : Int :=
  if den ≤ num then ((Nat.toDigits 10 (num / den)).length : Int) - 1
  else
    let places := (Nat.toDigits 10 (den / num)).length
    if den ≤ Nat.pow 10 (places - 1) * num then -((places : Int) - 1) else -(places : Int)

/-- Whether a decimal lies in the interval of the reals that round to `b`. In
quarters of the binary unit the number is `4 * mantissa`. -/
def Binary.attracts (b : Binary) (d : Digits) : Bool :=
  let low := 4 * b.mantissa - (if b.lowerHalf then 1 else 2)
  let high := 4 * b.mantissa + 2
  let unit := scaled 2 1 (b.exponent - 2)
  let point := scaled 10 d.digits d.exponent
  let left := low * unit.1 * point.2
  let middle := point.1 * unit.2
  let right := high * unit.1 * point.2
  if b.mantissa % 2 = 0 then left ≤ middle && middle ≤ right else left < middle && middle < right

/-- The neighbour of `b` on the grid with step `10 ^ e`, if one rounds to it; of
two the nearer. -/
def Binary.onGrid? (tie : Tie) (b : Binary) (e : Int) : Option Digits :=
  let value := scaled 2 b.mantissa b.exponent
  let step := scaled 10 1 e
  let num := value.1 * step.2
  let den := value.2 * step.1
  let below : Digits := ⟨num / den, e⟩
  let above : Digits := ⟨num / den + 1, e⟩
  let twice := 2 * (num % den)
  let tieBelow := tie = .even && below.digits % 2 = 0
  let nearer := if twice < den || (twice = den && tieBelow) then below else above
  let farther := if nearer = below then above else below
  if b.attracts nearer then some nearer
  else if b.attracts farther then some farther
  else none

def Digits.trimZeros (d : Digits) : Digits :=
  let zeros : Nat := ((Nat.toDigits 10 d.digits).reverse.takeWhile (· = '0')).length
  if d.digits = 0 then d else ⟨d.digits / Nat.pow 10 zeros, d.exponent + (zeros : Int)⟩

/-- The shortest decimal of a positive number. Seventeen digits always suffice. -/
def Binary.shortest (tie : Tie) (b : Binary) : Digits :=
  let value := scaled 2 b.mantissa b.exponent
  let k := magnitude value.1 value.2
  let grids := (List.range 17).filterMap fun (n : Nat) => b.onGrid? tie (k - n)
  (grids.head?.getD ⟨b.mantissa, b.exponent⟩).trimZeros

inductive Parts where
  | nan
  | infinite (negative : Bool)
  | zero (negative : Bool)
  | finite (negative : Bool) (size : Binary)

def parts (x : Float) : Parts :=
  let bits : Nat := x.toBits.toNat
  let negative : Bool := bits / Nat.pow 2 63 == 1
  let biased : Nat := bits / Nat.pow 2 52 % Nat.pow 2 11
  let fraction : Nat := bits % Nat.pow 2 52
  if biased = 2047 then if fraction = 0 then .infinite negative else .nan
  else if biased = 0 then
    if fraction = 0 then .zero negative else .finite negative ⟨fraction, -1074, false⟩
  else
    let lowerHalf := fraction == 0 && decide (1 < biased)
    .finite negative ⟨Nat.pow 2 52 + fraction, (biased : Int) - 1075, lowerHalf⟩

/-- How a number is written: which digits a tie gives, where the digits stop being
written in place, and how an exponent is marked then. -/
structure Layout where
  tie : Tie
  /-- Exponents of the first digit that are written in place. -/
  inPlace : Int → Bool
  /-- The sign of an exponent that is not negative. -/
  plus : String

/-- Digits with a point before the place `point`, which may lie outside them. At
least one digit stands on each side of the point. -/
def positional (digits : List Char) (point : Int) : List Char :=
  let count : Int := digits.length
  if count ≤ point then digits ++ List.replicate (point - count).toNat '0' ++ ['.', '0']
  else if 0 < point then digits.take point.toNat ++ '.' :: digits.drop point.toNat
  else ['0', '.'] ++ List.replicate (-point).toNat '0' ++ digits

/-- One digit, the others after a point, and the exponent of the first. -/
def scientific (layout : Layout) (digits : List Char) (point : Int) : List Char :=
  let exponent := point - 1
  let sign := if exponent < 0 then "-" else layout.plus
  let power := (toString exponent.natAbs).toList
  match digits with
  | [] => []
  | [d] => d :: 'e' :: sign.toList ++ power
  | d :: rest => d :: '.' :: rest ++ 'e' :: sign.toList ++ power

def Digits.write (layout : Layout) (d : Digits) : List Char :=
  let digits := Nat.toDigits 10 d.digits
  let point := (digits.length : Int) + d.exponent
  if layout.inPlace (point - 1) then positional digits point else scientific layout digits point

def write (layout : Layout) (x : Float) : String :=
  let signed (negative : Bool) (text : List Char) : String :=
    String.ofList (if negative then '-' :: text else text)
  match parts x with
  | .nan => "NaN"
  | .infinite negative => signed negative ['i', 'n', 'f']
  | .zero negative => signed negative ['0', '.', '0']
  | .finite negative size => signed negative ((size.shortest layout.tie).write layout)

end ClassAtlas.Decimal
