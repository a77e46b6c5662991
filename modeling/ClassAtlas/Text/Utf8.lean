/-! Bytes as characters. A byte string is cut into the well-formed UTF-8
encodings of characters and single bytes that start none, so that a reader can
tell where text is broken and go on behind it. -/
namespace ClassAtlas.Text

/-- A character, or `none` for a byte that starts no well-formed encoding. -/
abbrev Cell := Option Char

def continuation? (b : UInt8) : Option Nat :=
  if 0x80 ≤ b.toNat && b.toNat < 0xC0 then some (b.toNat - 0x80) else none

/-- The character with a code point of at least `least`. Smaller code points have
a shorter encoding, and surrogates have none. -/
def charFrom? (least n : Nat) : Option Char :=
  if least ≤ n then
    if h : n.isValidChar then some (Char.ofNatAux n h) else none
  else none

/-- The character at the start of a byte string, and the number of bytes it takes
beyond the first. -/
def leadingChar? (b0 : UInt8) (rest : List UInt8) : Option (Char × Nat) :=
  let n := b0.toNat
  if n < 0x80 then (charFrom? 0 n).map (·, 0)
  else if n < 0xC0 then none
  else if n < 0xE0 then
    match rest with
    | b1 :: _ => do
      let p1 ← continuation? b1
      (charFrom? 0x80 ((n - 0xC0) * 64 + p1)).map (·, 1)
    | _ => none
  else if n < 0xF0 then
    match rest with
    | b1 :: b2 :: _ => do
      let p1 ← continuation? b1
      let p2 ← continuation? b2
      (charFrom? 0x800 (((n - 0xE0) * 64 + p1) * 64 + p2)).map (·, 2)
    | _ => none
  else if n < 0xF8 then
    match rest with
    | b1 :: b2 :: b3 :: _ => do
      let p1 ← continuation? b1
      let p2 ← continuation? b2
      let p3 ← continuation? b3
      (charFrom? 0x10000 ((((n - 0xF0) * 64 + p1) * 64 + p2) * 64 + p3)).map (·, 3)
    | _ => none
  else none

/-- Decode, after leaving out the first `skip` bytes. -/
def cellsAfter (skip : Nat) : List UInt8 → List Cell
  | [] => []
  | b :: rest =>
    match skip with
    | skip + 1 => cellsAfter skip rest
    | 0 =>
      match leadingChar? b rest with
      | some (c, more) => some c :: cellsAfter more rest
      | none => none :: cellsAfter 0 rest

def cells (bytes : List UInt8) : List Cell :=
  cellsAfter 0 bytes

def decodeUtf8? (bytes : List UInt8) : Option (List Char) :=
  (cells bytes).mapM id

end ClassAtlas.Text
