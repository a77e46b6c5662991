import ClassAtlas.Yaml.ScalarText

/-! The tokens of a YAML stream. Block structure is found from indentation: a
column deeper than the open blocks opens one, a shallower column closes some. A
mapping key is recognised only by the colon behind it, so every token that could
begin a key is remembered, and the tokens from it on are held back until the colon
has come or can no longer come. A text that breaks a rule has the tokens that could be
handed out before. -/
namespace ClassAtlas.Yaml

inductive Token where
  | streamEnd
  | version (major minor : Nat)
  | tagDirective (handle start : List Char)
  | documentStart
  | documentEnd
  | blockListStart
  | blockRecordStart
  | blockEnd
  | flowListStart
  | flowListEnd
  | flowRecordStart
  | flowRecordEnd
  | blockEntry
  | flowEntry
  | key
  | value
  | alias (name : List Char)
  | anchor (name : List Char)
  | tag (handle suffix : List Char)
  | scalar (text : List Char) (style : Style)

structure PossibleKey where
  flow : Nat
  /-- Whether the block it stands in can go on with a key only. -/
  required : Bool
  /-- The number of its first token. -/
  token : Nat
  mark : Mark

structure Lexer where
  rest : List Char
  whole : Bool
  mark : Mark
  flow : Nat
  /-- The column of the innermost open block, -1 outside all blocks. -/
  indent : Int
  indents : List Int
  keyAllowed : Bool
  /-- The possible keys, at most one for every flow level, innermost first. -/
  keys : List PossibleKey
  /-- The tokens so far, the last one first, and how many there are. -/
  tokens : List Token
  count : Nat

namespace Lexer

def start (source : Source) : Lexer :=
  ⟨source.text, source.whole, ⟨0, 0, 0⟩, 0, -1, [], true, [], [], 0⟩

def push (l : Lexer) (t : Token) : Lexer :=
  { l with tokens := t :: l.tokens, count := l.count + 1 }

def insert (l : Lexer) (number : Nat) (t : Token) : Lexer :=
  let later := l.count - number
  { l with tokens := l.tokens.take later ++ t :: l.tokens.drop later, count := l.count + 1 }

/-- Pass over characters that end no line. -/
def skip (l : Lexer) (count : Nat) : Lexer :=
  { l with rest := l.rest.drop count, mark := (l.rest.take count).foldl Mark.next l.mark }

/-- Whether some more characters can be seen, or the end of the stream. -/
def sees (l : Lexer) (count : Nat) : Bool := canSee l.whole count l.rest

def column (l : Lexer) : Int := l.mark.column

/-- A possible key that can still get its colon: on this line, and not more than
1024 bytes back. -/
def isFresh (l : Lexer) (k : PossibleKey) : Bool :=
  k.mark.line = l.mark.line && l.mark.index ≤ k.mark.index + 1024

/-- Forget the possible keys that are out of reach. One that had to be a key is an
error. -/
def dropStale (l : Lexer) : Option Lexer :=
  if l.keys.any fun k => !l.isFresh k && k.required then none
  else some { l with keys := l.keys.filter l.isFresh }

/-- The possible key of this flow level, and the others. -/
def takeKey (l : Lexer) : Option PossibleKey × List PossibleKey :=
  match l.keys with
  | k :: rest => if k.flow = l.flow then (some k, rest) else (none, l.keys)
  | [] => (none, [])

def removeKey (l : Lexer) : Option Lexer :=
  let (k?, others) := l.takeKey
  if (k?.map PossibleKey.required).getD false then none else some { l with keys := others }

def saveKey (l : Lexer) : Option Lexer :=
  if l.keyAllowed then do
    let required := l.flow = 0 && l.indent = l.column
    let l ← l.removeKey
    return { l with keys := ⟨l.flow, required, l.count, l.mark⟩ :: l.keys }
  else some l

def closeBlocks (l : Lexer) (column : Int) : Lexer :=
  if l.flow = 0 then
    let closed := (l.indent :: l.indents).takeWhile fun indent => column < indent
    let remaining := (l.indent :: l.indents).drop closed.length
    closed.foldl (fun l _ => l.push .blockEnd)
      { l with indent := remaining.headD (-1), indents := remaining.drop 1 }
  else l

/-- Open a block at a column if it is deeper than the open blocks, by a token in
front of the one with a number. -/
def openBlock (l : Lexer) (column : Int) (number : Nat) (t : Token) : Lexer :=
  if l.flow = 0 && l.indent < column then
    { l with indent := column, indents := l.indent :: l.indents }.insert number t
  else l

/-- Pass over blanks, comments and line breaks up to the next token. -/
def toNextToken (flow : Bool) (keyAllowed : Bool) (comment : Bool) (mark : Mark) :
    List Char → Bool × Mark × List Char
  | [] => (keyAllowed, mark, [])
  | c :: rest =>
    if isBreak c then toNextToken flow (keyAllowed || !flow) false mark.newLine rest
    else if comment || c = '#' then toNextToken flow keyAllowed true (mark.next c) rest
    else if c = ' ' || ((flow || !keyAllowed) && c = '\t') ||
        (mark.column = 0 && c = byteOrderMark) then
      toNextToken flow keyAllowed false (mark.next c) rest
    else (keyAllowed, mark, c :: rest)

def passBlanks (l : Lexer) : Lexer :=
  l.skip (l.rest.takeWhile isBlank).length

/-- Pass over the rest of a line, which may hold nothing but a comment. -/
def passLineEnd (l : Lexer) : Option Lexer :=
  let l := l.passBlanks
  let l :=
    if l.rest.head? = some '#' then l.skip (l.rest.takeWhile fun c => !isBreak c).length else l
  match l.rest with
  | [] => if l.whole then some l else none
  | c :: rest => if isBreak c then some { l with rest := rest, mark := l.mark.newLine } else none

def leaveBlocks (l : Lexer) : Option Lexer := do
  let l ← (l.closeBlocks (-1)).removeKey
  return { l with keyAllowed := false }

def isTagChar (verbatim : Bool) (c : Char) : Bool :=
  isNameChar c || ";/?:@&=+$.!~*'()".contains c || (verbatim && (c = ',' || c = '[' || c = ']'))

/-- Read a part of a tag. A percent sign is followed by two hexadecimal digits, and
the bytes that they write are the UTF-8 encodings of characters; `more` counts the
bytes that are still to come. -/
def readTag (verbatim : Bool) (more : Nat) (soFar : List Char) : List Char → Option (List Char)
  | [] => if more = 0 then some soFar.reverse else none
  | '%' :: a :: b :: rest => do
    let byte := 16 * (← hexValue? a) + (← hexValue? b)
    let more ←
      match more with
      | more + 1 => if 0x80 ≤ byte && byte < 0xC0 then some more else none
      | 0 =>
        if byte < 0x80 then some 0
        else if 0xC0 ≤ byte && byte < 0xE0 then some 1
        else if 0xE0 ≤ byte && byte < 0xF0 then some 2
        else if 0xF0 ≤ byte && byte < 0xF8 then some 3
        else none
    readTag verbatim more (Char.ofNat byte :: soFar) rest
  | c :: rest =>
    if more = 0 && isTagChar verbatim c then readTag verbatim 0 (c :: soFar) rest else none

def tagLength (verbatim : Bool) (text : List Char) : Nat :=
  (text.takeWhile fun c => isTagChar verbatim c || c = '%').length

/-- Read a part of a tag, which may be empty, and pass over it. What stands behind an
escaped NUL does not count. -/
def takeTagPart (l : Lexer) (verbatim : Bool) : Option (List Char × Lexer) := do
  let length := tagLength verbatim l.rest
  let text ← readTag verbatim 0 [] (l.rest.take length)
  return (text.takeWhile (· ≠ '\x00'), l.skip length)

def takeTag (l : Lexer) (verbatim : Bool) : Option (List Char × Lexer) :=
  if tagLength verbatim l.rest = 0 then none else l.takeTagPart verbatim

/-- Read a handle: an exclamation mark, a name, and the exclamation mark behind it
if there is one. -/
def takeHandle (l : Lexer) : Option (List Char × Lexer) :=
  match l.rest with
  | '!' :: rest =>
    let name := rest.takeWhile isNameChar
    if (rest.drop name.length).head? = some '!' then
      some ('!' :: name ++ ['!'], l.skip (name.length + 2))
    else some ('!' :: name, l.skip (name.length + 1))
  | _ => none

def takeNumber (l : Lexer) : Option (Nat × Lexer) :=
  let digits := l.rest.takeWhile Char.isDigit
  if digits.isEmpty || 9 < digits.length then none
  else some (digits.foldl (fun v c => 10 * v + (c.toNat - '0'.toNat)) 0, l.skip digits.length)

def lexDirective (l : Lexer) : Option Lexer := do
  let l ← l.leaveBlocks
  let l := l.skip 1
  let name := l.rest.takeWhile isNameChar
  let l := l.skip name.length
  guard (!name.isEmpty && endsWord l.rest)
  if name = ['Y', 'A', 'M', 'L'] then
    let (major, l) ← l.passBlanks.takeNumber
    guard (l.rest.head? = some '.')
    let (minor, l) ← (l.skip 1).takeNumber
    (l.push (.version major minor)).passLineEnd
  else if name = ['T', 'A', 'G'] then
    let (handle, l) ← l.passBlanks.takeHandle
    guard (handle = ['!'] || (1 < handle.length && handle.getLast? = some '!'))
    guard ((l.rest.head?.map isBlank).getD false)
    let (start, l) ← l.passBlanks.takeTag true
    guard (endsWord l.rest)
    (l.push (.tagDirective handle start)).passLineEnd
  else none

def lexDocumentMark (l : Lexer) (t : Token) : Option Lexer := do
  let l ← l.leaveBlocks
  return (l.skip 3).push t

def lexFlowStart (l : Lexer) (t : Token) : Option Lexer := do
  let l ← l.saveKey
  return ({ l with flow := l.flow + 1, keyAllowed := true }.skip 1).push t

def lexFlowEnd (l : Lexer) (t : Token) : Option Lexer := do
  let l ← l.removeKey
  return ({ l with flow := l.flow - 1, keyAllowed := false }.skip 1).push t

def lexFlowEntry (l : Lexer) : Option Lexer := do
  let l ← l.removeKey
  return ({ l with keyAllowed := true }.skip 1).push .flowEntry

def lexBlockEntry (l : Lexer) : Option Lexer := do
  guard (l.flow != 0 || l.keyAllowed)
  let l ← (l.openBlock l.column l.count .blockListStart).removeKey
  return ({ l with keyAllowed := true }.skip 1).push .blockEntry

def lexKey (l : Lexer) : Option Lexer := do
  guard (l.flow != 0 || l.keyAllowed)
  let l ← (l.openBlock l.column l.count .blockRecordStart).removeKey
  return ({ l with keyAllowed := l.flow = 0 }.skip 1).push .key

def lexValue (l : Lexer) : Option Lexer :=
  match l.takeKey with
  | (some k, others) =>
    let l := l.insert k.token .key
    let l := l.openBlock k.mark.column k.token .blockRecordStart
    some (({ l with keys := others, keyAllowed := false }.skip 1).push .value)
  | (none, _) => do
    guard (l.flow != 0 || l.keyAllowed)
    let l := l.openBlock l.column l.count .blockRecordStart
    return ({ l with keyAllowed := l.flow = 0 }.skip 1).push .value

def lexName (l : Lexer) (token : List Char → Token) : Option Lexer := do
  let l ← l.saveKey
  let l := { l with keyAllowed := false }.skip 1
  let name := l.rest.takeWhile isNameChar
  let l := l.skip name.length
  guard (!name.isEmpty && l.sees 1)
  guard (endsWord l.rest || (l.rest.head?.map fun c => "?:,]\x7d%@\x60".contains c).getD false)
  return l.push (token name)

def lexTag (l : Lexer) : Option Lexer := do
  let l ← l.saveKey
  let l := { l with keyAllowed := false }
  let (t, l) ←
    match l.rest with
    | '!' :: '<' :: _ => do
      let (suffix, l) ← (l.skip 2).takeTag true
      guard (l.rest.head? = some '>')
      some (Token.tag [] suffix, l.skip 1)
    | _ => do
      let (handle, l) ← l.takeHandle
      if 1 < handle.length && handle.getLast? = some '!' then
        let (suffix, l) ← l.takeTag false
        some (Token.tag handle suffix, l)
      else
        let (rest, l) ← l.takeTagPart false
        let suffix := handle.drop 1 ++ rest
        some (if suffix.isEmpty then Token.tag [] ['!'] else Token.tag ['!'] suffix, l)
  guard (l.sees 1 && (endsWord l.rest || (l.flow != 0 && l.rest.head? = some ',')))
  return l.push t

def pushScalar (l : Lexer) (r : Reading) (style : Style) : Lexer :=
  { l with rest := r.rest, mark := r.mark }.push (.scalar r.text style)

def lexQuoted (l : Lexer) (quote : Char) : Option Lexer := do
  let l ← l.saveKey
  let l := { l with keyAllowed := false }.skip 1
  guard (l.sees 4)
  let r ← readQuoted l.whole quote [] .none none l.mark l.rest
  return l.pushScalar r .quoted

def lexPlain (l : Lexer) : Option Lexer := do
  let l ← l.saveKey
  let r ← readPlain l.whole (l.flow != 0) (l.indent + 1) [] none l.mark l.rest
  return { l with keyAllowed := r.newLine }.pushScalar r .plain

/-- Read the chomping and indentation marks of a block scalar, in either order. -/
def takeBlockMarks (l : Lexer) : Option ((Chomping × Nat) × Lexer) :=
  let chomping? : List Char → Option Chomping
    | '+' :: _ => some .keep
    | '-' :: _ => some .strip
    | _ => none
  let indent? : List Char → Option Nat
    | c :: _ => if c.isDigit then some (c.toNat - '0'.toNat) else none
    | [] => none
  match chomping? l.rest, indent? l.rest with
  | some chomping, _ =>
    let l := l.skip 1
    match indent? l.rest with
    | some 0 => none
    | some n => some ((chomping, n), l.skip 1)
    | none => some ((chomping, 0), l)
  | none, some 0 => none
  | none, some n =>
    let l := l.skip 1
    match chomping? l.rest with
    | some chomping => some ((chomping, n), l.skip 1)
    | none => some ((.clip, n), l)
  | none, none => some ((.clip, 0), l)

def lexBlockScalar (l : Lexer) (folded : Bool) : Option Lexer := do
  let l ← l.removeKey
  let l := { l with keyAllowed := true }.skip 1
  let ((chomping, increment), l) ← l.takeBlockMarks
  let l ← l.passLineEnd
  let indent := if increment = 0 then 0 else (max l.indent 0).toNat + increment
  let header : BlockHeader := ⟨folded, chomping, l.indent⟩
  let r ← readBlock l.whole header ⟨indent, 0, [], none, [], false, false⟩ l.mark l.rest
  return l.pushScalar r .block

def beginsPlain (flow : Bool) (c : Char) (rest : List Char) : Bool :=
  !(isBlank c || "-?:,[]\x7b\x7d#&*!|>'\x22%@\x60".contains c) ||
    (c = '-' && !(rest.head?.map isBlank).getD false) ||
    (!flow && (c = '?' || c = ':') && !endsWord rest)

/-- The end of the stream, which stands at the start of a line. -/
def lexStreamEnd (l : Lexer) : Option Lexer := do
  let l ← { l with mark := if l.mark.column = 0 then l.mark else l.mark.newLine }.leaveBlocks
  return l.push .streamEnd

/-- Fetch the next token, with the tokens that come with it. Nothing is left to
fetch at the end of the stream. -/
def fetch (l : Lexer) : Option (Lexer × Bool) := do
  let (keyAllowed, mark, rest) := toNextToken (l.flow != 0) l.keyAllowed false l.mark l.rest
  let l ← { l with keyAllowed := keyAllowed, mark := mark, rest := rest }.dropStale
  let l := l.closeBlocks l.column
  guard (l.sees 4)
  let go (l? : Option Lexer) : Option (Lexer × Bool) := l?.map fun l => (l, false)
  let flow := l.flow != 0
  let atMargin := l.mark.column = 0
  match l.rest with
  | [] => l.lexStreamEnd.map fun l => (l, true)
  | c :: rest =>
    if atMargin && c = '%' then go l.lexDirective
    else if atMargin && isDocumentMark (c :: rest) then
      go (l.lexDocumentMark (if c = '-' then .documentStart else .documentEnd))
    else if c = '[' then go (l.lexFlowStart .flowListStart)
    else if c = '\x7b' then go (l.lexFlowStart .flowRecordStart)
    else if c = ']' then go (l.lexFlowEnd .flowListEnd)
    else if c = '\x7d' then go (l.lexFlowEnd .flowRecordEnd)
    else if c = ',' then go l.lexFlowEntry
    else if c = '-' && endsWord rest then go l.lexBlockEntry
    else if c = '?' && (flow || endsWord rest) then go l.lexKey
    else if c = ':' && (flow || endsWord rest) then go l.lexValue
    else if c = '*' then go (l.lexName .alias)
    else if c = '&' then go (l.lexName .anchor)
    else if c = '!' then go l.lexTag
    else if c = '|' && !flow then go (l.lexBlockScalar false)
    else if c = '>' && !flow then go (l.lexBlockScalar true)
    else if c = '\x27' || c = '\x22' then go (l.lexQuoted c)
    else if beginsPlain flow c rest then go l.lexPlain
    else none

/-- How many tokens are not held back by a key that may still come. -/
def released (l : Lexer) : Nat :=
  (l.keys.map PossibleKey.token).foldl min l.count

/-- The first tokens, in order. -/
def firstTokens (l : Lexer) (number : Nat) : List Token :=
  (l.tokens.drop (l.count - number)).reverse

/-- Fetch tokens to the end of the stream, or to the first error. Before tokens are
handed out the possible keys must still be in reach, so an error of a key that had to
come takes all tokens along that were fetched since. Every fetch but the last takes up
a character, so their number is bounded by the text. -/
def fetchAll : Nat → Nat → Lexer → List Token
  | 0, handedOut, l => l.firstTokens handedOut
  | bound + 1, handedOut, l =>
    match l.fetch with
    | none => l.firstTokens handedOut
    | some (next, last) =>
      match next.dropStale with
      | none => l.firstTokens handedOut
      | some next =>
        if last then next.firstTokens next.count else fetchAll bound next.released next

end Lexer

/-- The tokens of a stream. Only a stream without errors ends in `streamEnd`. -/
def tokens (source : Source) : List Token :=
  Lexer.fetchAll (source.text.length + 1) 0 (Lexer.start source)

end ClassAtlas.Yaml
