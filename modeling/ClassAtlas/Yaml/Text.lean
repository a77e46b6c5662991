import ClassAtlas.Text.Utf8

/-! The characters of a YAML stream, which is UTF-8. It is decoded portion by
portion; a portion with a byte that is no text, or with a control character other than
the usual blanks, is lost as a whole, and what stands before it is still there. However
a line ends, it ends in a line feed from here on; only the separators of lines and
paragraphs stay what they are. -/
namespace ClassAtlas.Yaml

/-- The byte order mark, which may stand at the start of a line and takes up a column
there. -/
def byteOrderMark : Char := '\ufeff'

def isAllowed (c : Char) : Bool :=
  let n := c.toNat
  n = 0x09 || n = 0x0A || n = 0x0D || (0x20 ≤ n && n ≤ 0x7E) || n = 0x85 ||
    (0xA0 ≤ n && n ≤ 0xD7FF) || (0xE000 ≤ n && n ≤ 0xFFFD) || 0x10000 ≤ n

/-- Every line break but a separator becomes one line feed. -/
def unifyBreaks : List Char → List Char
  | [] => []
  | c :: rest =>
    if c = '\r' then
      if rest.head? = some '\n' then unifyBreaks rest else '\n' :: unifyBreaks rest
    else if c = '\u0085' then '\n' :: unifyBreaks rest
    else c :: unifyBreaks rest

/-- The text of a stream as far as it can be decoded, and whether that is all of it. -/
structure Source where
  text : List Char
  whole : Bool

def portionSize : Nat := 16384

def charWidth (lead : UInt8) : Nat :=
  if lead < 0xC0 then 1 else if lead < 0xE0 then 2 else if lead < 0xF0 then 3 else 4

/-- How many bytes at the end of a portion belong to a character that goes on behind
it. -/
def danglingBytes (portion : List UInt8) : Nat :=
  let isCut (count : Nat) : Bool :=
    match (portion.drop (portion.length - count)).head? with
    | some lead => 0xC0 ≤ lead && lead < 0xF8 && count < charWidth lead
    | none => false
  (([3, 2, 1] : List Nat).find? isCut).getD 0

/-- Decode a stream portion by portion. A character that is cut off by the end of the
stream is not part of its text. -/
def decodePortions : Nat → List UInt8 → Source
  | 0, bytes => ⟨[], bytes.isEmpty⟩
  | bound + 1, bytes =>
    let portion := bytes.take portionSize
    let length := portion.length - danglingBytes portion
    match Text.decodeUtf8? (portion.take length) with
    | none => ⟨[], false⟩
    | some text =>
      if !text.all isAllowed then ⟨[], false⟩
      else if portion.length < portionSize then ⟨text, length = portion.length⟩
      else
        let rest := decodePortions bound (bytes.drop length)
        ⟨text ++ rest.text, rest.whole⟩

/-- The text of a stream. Every portion takes up at least one byte. -/
def decode (bytes : List UInt8) : Source :=
  let source := decodePortions (bytes.length + 1) bytes
  { source with text := unifyBreaks source.text }

def isBlank (c : Char) : Bool := c = ' ' || c = '\t'

def isBreak (c : Char) : Bool :=
  c = '\n' || c = '\u2028' || c = '\u2029'

/-- Whether a blank, a line break or the end of the text stands here. -/
def endsWord : List Char → Bool
  | [] => true
  | c :: _ => isBlank c || isBreak c

/-- A character of names: a letter or digit of ASCII, a hyphen or an underscore. -/
def isNameChar (c : Char) : Bool :=
  c.isAlphanum || c = '_' || c = '-'

/-- Whether some characters in front of a text can be seen. Behind its end there is
nothing to see unless the text is whole. -/
def canSee (whole : Bool) (count : Nat) (text : List Char) : Bool :=
  whole || !(text.drop (count - 1)).isEmpty

structure Mark where
  index : Nat
  line : Nat
  column : Nat

/-- The place after a character that ends no line. -/
def Mark.next (m : Mark) (c : Char) : Mark := ⟨m.index + c.utf8Size, m.line, m.column + 1⟩

def Mark.newLine (m : Mark) : Mark := ⟨m.index + 1, m.line + 1, 0⟩

end ClassAtlas.Yaml
