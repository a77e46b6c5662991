import ClassAtlas.Yaml.Text

/-! The texts of scalars in the five styles: plain, single-quoted, double-quoted,
literal and folded. Each is read character by character; blanks and line breaks are
held back until it is known what follows them. Words are read with a view of the next
two characters, and their starts with a view of four; a text that is not whole ends
where that view is gone. -/
namespace ClassAtlas.Yaml

inductive Style where
  | plain
  | quoted
  | block
  deriving DecidableEq

/-- A text that was read, the place after it and what is left. -/
structure Reading where
  text : List Char
  mark : Mark
  rest : List Char
  newLine : Bool

/-- Blanks and line breaks between two words. Lists are kept in reverse. -/
structure Gap where
  /-- Blanks in front of the first line break. -/
  blanks : List Char := []
  broken : Bool := false
  /-- The first line break, unless it was escaped. -/
  first : Option Char := none
  /-- The line breaks after the first. -/
  more : List Char := []

def Gap.addBlank (g : Gap) (c : Char) : Gap :=
  if g.broken then g else { g with blanks := c :: g.blanks }

def Gap.addBreak (g : Gap) (c : Char) : Gap :=
  if g.broken then { g with more := c :: g.more }
  else ⟨[], true, some c, []⟩

/-- What a gap contributes to the text, in reverse: its blanks, or its line breaks
with a single one folded to a space. -/
def Gap.joined (g : Gap) : List Char :=
  if g.broken then
    match g.first with
    | some c =>
      if c = '\n' then if g.more.isEmpty then [' '] else g.more
      else g.more ++ [c]
    | none => g.more
  else g.blanks

/-- Whether a text starts with `---` or `...` as a word of its own. -/
def isDocumentMark (text : List Char) : Bool :=
  match text with
  | '-' :: '-' :: '-' :: rest => endsWord rest
  | '.' :: '.' :: '.' :: rest => endsWord rest
  | _ => false

def isFlowMark (c : Char) : Bool :=
  c = ',' || c = '[' || c = ']' || c = '\x7b' || c = '\x7d'

/-- Read a plain scalar. `gap` holds what was passed since the last word, if
anything was. -/
def readPlain (whole flow : Bool) (indent : Int) (soFar : List Char) (gap : Option Gap)
    (mark : Mark) : List Char → Option Reading
  | [] => if whole then some ⟨soFar.reverse, mark, [], (gap.map Gap.broken).getD false⟩ else none
  | c :: rest =>
    let stop (_ : Unit) : Option Reading :=
      some ⟨soFar.reverse, mark, c :: rest, (gap.map Gap.broken).getD false⟩
    let held := gap.getD {}
    if gap.isNone && !canSee whole 2 (c :: rest) then none
    else if isBlank c then
      if held.broken && (mark.column : Int) < indent && c = '\t' then none
      else readPlain whole flow indent soFar (some (held.addBlank c)) (mark.next c) rest
    else if isBreak c then
      readPlain whole flow indent soFar (some (held.addBreak c)) mark.newLine rest
    else if gap.isSome && !flow && (mark.column : Int) < indent then stop ()
    else if gap.isSome && !canSee whole 4 (c :: rest) then none
    else if gap.isSome && ((mark.column = 0 && isDocumentMark (c :: rest)) || c = '#') then stop ()
    else if flow && c = ':' && (rest.head?.map fun d => isFlowMark d || d = '?').getD false then
      none
    else if (c = ':' && endsWord rest) || (flow && isFlowMark c) then stop ()
    else readPlain whole flow indent (c :: (held.joined ++ soFar)) none (mark.next c) rest

inductive Escape where
  | none
  | start
  | code (left value : Nat)
  /-- In front of the second of two quotes, which stand for one. -/
  | doubled

def escaped? : Char → Option Char
  | '0' => some '\x00'
  | 'a' => some '\x07'
  | 'b' => some '\x08'
  | 't' => some '\t'
  | '\t' => some '\t'
  | 'n' => some '\n'
  | 'v' => some '\x0b'
  | 'f' => some '\x0c'
  | 'r' => some '\r'
  | 'e' => some '\x1b'
  | ' ' => some ' '
  | '\x22' => some '\x22'
  | '/' => some '/'
  | '\\' => some '\\'
  | 'N' => some '\u0085'
  | '_' => some '\u00a0'
  | 'L' => some '\u2028'
  | 'P' => some '\u2029'
  | _ => none

def codeLength? : Char → Option Nat
  | 'x' => some 2
  | 'u' => some 4
  | 'U' => some 8
  | _ => none

def hexValue? (c : Char) : Option Nat :=
  if c.isDigit then some (c.toNat - '0'.toNat)
  else if 'a' ≤ c && c ≤ 'f' then some (c.toNat - 'a'.toNat + 10)
  else if 'A' ≤ c && c ≤ 'F' then some (c.toNat - 'A'.toNat + 10)
  else none

/-- Read a quoted scalar behind its first quote. -/
def readQuoted (whole : Bool) (quote : Char) (soFar : List Char) (escape : Escape)
    (gap : Option Gap) (mark : Mark) : List Char → Option Reading
  | [] => none
  | c :: rest =>
    match escape with
    | .code left value =>
      match hexValue? c with
      | none => none
      | some d =>
        let value := 16 * value + d
        if left = 1 then
          if h : value.isValidChar then
            readQuoted whole quote (Char.ofNatAux value h :: soFar) .none none (mark.next c) rest
          else none
        else readQuoted whole quote soFar (.code (left - 1) value) none (mark.next c) rest
    | .doubled => readQuoted whole quote (c :: soFar) .none none (mark.next c) rest
    | .start =>
      if isBreak c then
        readQuoted whole quote soFar .none (some ⟨[], true, none, []⟩) mark.newLine rest
      else
        match escaped? c, codeLength? c with
        | some d, _ => readQuoted whole quote (d :: soFar) .none none (mark.next c) rest
        | none, some length => readQuoted whole quote soFar (.code length 0) none (mark.next c) rest
        | none, none => none
    | .none =>
      let held := gap.getD {}
      if gap.isNone && !canSee whole 2 (c :: rest) then none
      else if isBlank c then
        readQuoted whole quote soFar .none (some (held.addBlank c)) (mark.next c) rest
      else if isBreak c then
        readQuoted whole quote soFar .none (some (held.addBreak c)) mark.newLine rest
      else if gap.isSome && !canSee whole 4 (c :: rest) then none
      else if gap.isSome && mark.column = 0 && isDocumentMark (c :: rest) then none
      else
        let soFar := held.joined ++ soFar
        if c = quote then
          if quote = '\x27' && rest.head? = some quote then
            readQuoted whole quote soFar .doubled none (mark.next c) rest
          else some ⟨soFar.reverse, mark.next c, rest, false⟩
        else if c = '\\' && quote = '\x22' then
          readQuoted whole quote soFar .start none (mark.next c) rest
        else readQuoted whole quote (c :: soFar) .none none (mark.next c) rest

inductive Chomping where
  | strip
  | clip
  | keep
  deriving DecidableEq

/-- How a block scalar is read: folded or not, its end, and the indentation of the
block around it. -/
structure BlockHeader where
  folded : Bool
  chomping : Chomping
  parent : Int

/-- A block scalar so far. Lists are kept in reverse. -/
structure Block where
  /-- The indentation, zero as long as it is not known. -/
  indent : Nat
  reached : Nat
  text : List Char
  /-- The line break of the last line. -/
  ending : Option Char
  blankLines : List Char
  /-- Whether the last line starts with a blank. -/
  indented : Bool
  inLine : Bool

def Block.finish (header : BlockHeader) (b : Block) : List Char :=
  let ending := if header.chomping = .strip then [] else b.ending.toList
  let blankLines := if header.chomping = .keep then b.blankLines else []
  (blankLines ++ ending ++ b.text).reverse

/-- The indentation, found from the leading spaces if it is not known. -/
def Block.settle (header : BlockHeader) (b : Block) (column : Nat) : Block :=
  let reached := max b.reached column
  if b.indent = 0 then
    { b with reached := reached, indent := max (max reached (header.parent + 1).toNat) 1 }
  else { b with reached := reached }

/-- Begin a line with its first character. The line break before it is folded if
neither line starts with a blank. -/
def Block.startLine (header : BlockHeader) (b : Block) (c : Char) : Block :=
  let joined :=
    if header.folded && b.ending = some '\n' && !b.indented && !isBlank c then
      if b.blankLines.isEmpty then [' '] else []
    else b.ending.toList
  { b with
    text := c :: (b.blankLines ++ joined ++ b.text)
    ending := none
    blankLines := []
    indented := isBlank c
    inLine := true }

/-- Read the lines of a block scalar, from the start of a line on. -/
def readBlock (whole : Bool) (header : BlockHeader) (b : Block) (mark : Mark) :
    List Char → Option Reading
  | [] => if whole then some ⟨b.finish header, mark, [], true⟩ else none
  | c :: rest =>
    if b.inLine then
      if isBreak c then
        readBlock whole header { b with inLine := false, ending := some c } mark.newLine rest
      else readBlock whole header { b with text := c :: b.text } (mark.next c) rest
    else
      let inMargin := b.indent = 0 || mark.column < b.indent
      if inMargin && c = ' ' then readBlock whole header b (mark.next c) rest
      else if inMargin && c = '\t' then none
      else if isBreak c then
        readBlock whole header
          { b with reached := max b.reached mark.column, blankLines := c :: b.blankLines }
          mark.newLine rest
      else
        let b := b.settle header mark.column
        if mark.column = b.indent then
          readBlock whole header (b.startLine header c) (mark.next c) rest
        else some ⟨b.finish header, mark, c :: rest, true⟩

end ClassAtlas.Yaml
