import ClassAtlas.Json.Number
import ClassAtlas.Json.Value
import ClassAtlas.Document.Record
import ClassAtlas.Text.Utf8

/-! Reading JSON. The cells of a text become tokens, and the tokens a tree; both
steps go through their input once, from left to right. Where the text breaks off,
the tokens end in a fault, and so does the tree. A string whose characters cannot
be told, because of a lone surrogate or a byte that is no text, is a scalar that
nobody can read; where nobody reads it, it does no harm. -/
namespace ClassAtlas.Json

open Document Text

inductive Token where
  | openList
  | closeList
  | openRecord
  | closeRecord
  | comma
  | colon
  | string (s : Scalar)
  | word (s : Scalar)
  | fault

def nullScalar : Scalar := ⟨.ok .null, none, .ok true, false⟩

def textScalar (text : String) : Scalar := ⟨.ok (.text text), some text, .ok false, false⟩

def brokenScalar : Scalar := ⟨.error .malformed, none, .ok false, false⟩

/-- A character of a string, or half of a surrogate pair. -/
inductive Piece where
  | char (c : Char)
  | high (n : Nat)
  | low (n : Nat)
  | broken

def Piece.ofCell : Cell → Piece
  | some c => char c
  | none => broken

def Piece.ofUnit (n : Nat) : Piece :=
  if h : n.isValidChar then char (Char.ofNatAux n h)
  else if n < 0xDC00 then high (n - 0xD800)
  else low (n - 0xDC00)

/-- The text of a string, if its surrogates come in pairs and nothing is broken. -/
def join? : List Piece → Option (List Char)
  | [] => some []
  | .char c :: rest => (join? rest).map (c :: ·)
  | .high a :: .low b :: rest =>
    (join? rest).map (Char.ofNat (0x10000 + a * 0x400 + b) :: ·)
  | _ => none

def stringScalar (pieces : List Piece) : Scalar :=
  match join? pieces with
  | some text => textScalar (String.ofList text)
  | none => brokenScalar

/-- The tokens of a run of characters between marks, blanks and quotes. A literal
or number may be followed by something that belongs to nothing. -/
def wordTokens (word : List Char) : List Token :=
  let literal (name : List Char) (s : Scalar) : List Token :=
    if name.isPrefixOf word then
      if word.length = name.length then [.word s] else [.word s, .fault]
    else [.fault]
  match word with
  | 'n' :: _ => literal ['n', 'u', 'l', 'l'] nullScalar
  | 't' :: _ => literal ['t', 'r', 'u', 'e'] (Scalar.plain (.boolean true))
  | 'f' :: _ => literal ['f', 'a', 'l', 's', 'e'] (Scalar.plain (.boolean false))
  | _ =>
    match NumberText.read? word with
    | some (n, rest) =>
      let s : Scalar := ⟨n.found, none, .ok false, false⟩
      if rest.isEmpty then [.word s] else [.word s, .fault]
    | none => [.fault]

/-- Where the lexer stands. Words and pieces are kept in reverse. -/
inductive Mode where
  | between
  | word (soFar : List Char)
  | string (soFar : List Piece)
  | escape (soFar : List Piece)
  | hex (soFar : List Piece) (digits value : Nat)
  | stopped

def mark? : Char → Option Token
  | '[' => some .openList
  | ']' => some .closeList
  | '\x7b' => some .openRecord
  | '\x7d' => some .closeRecord
  | ',' => some .comma
  | ':' => some .colon
  | _ => none

def isSpace (c : Char) : Bool :=
  c = ' ' || c = '\n' || c = '\t' || c = '\r'

def unescape? : Char → Option Char
  | '\x22' => some '\x22'
  | '\\' => some '\\'
  | '/' => some '/'
  | 'b' => some '\x08'
  | 'f' => some '\x0c'
  | 'n' => some '\n'
  | 'r' => some '\r'
  | 't' => some '\t'
  | _ => none

def hexDigit? (c : Char) : Option Nat :=
  if c.isDigit then some (c.toNat - '0'.toNat)
  else if 'a' ≤ c && c ≤ 'f' then some (c.toNat - 'a'.toNat + 10)
  else if 'A' ≤ c && c ≤ 'F' then some (c.toNat - 'A'.toNat + 10)
  else none

def flush : Mode → List Token
  | .word soFar => wordTokens soFar.reverse
  | _ => []

def betweenStep (mode : Mode) (cell : Cell) : Mode × List Token :=
  match cell with
  | none => (.stopped, flush mode ++ [.fault])
  | some c =>
    if c = '\x22' then (.string [], flush mode)
    else if isSpace c then (.between, flush mode)
    else
      match mark? c with
      | some token => (.between, flush mode ++ [token])
      | none =>
        match mode with
        | .word soFar => (.word (c :: soFar), [])
        | _ => (.word [c], [])

def lexStep : Mode → Cell → Mode × List Token
  | .string soFar, some c =>
    if c = '\x22' then (.between, [.string (stringScalar soFar.reverse)])
    else if c = '\\' then (.escape soFar, [])
    else if c.toNat < 0x20 then (.stopped, [.fault])
    else (.string (.char c :: soFar), [])
  | .string soFar, none => (.string (.broken :: soFar), [])
  | .escape soFar, some c =>
    if c = 'u' then (.hex soFar 0 0, [])
    else
      match unescape? c with
      | some plain => (.string (.char plain :: soFar), [])
      | none => (.stopped, [.fault])
  | .escape _, none => (.stopped, [.fault])
  | .hex soFar digits value, cell =>
    match cell.bind hexDigit? with
    | some d =>
      let value := 16 * value + d
      if digits = 3 then (.string (Piece.ofUnit value :: soFar), [])
      else (.hex soFar (digits + 1) value, [])
    | none => (.stopped, [.fault])
  | .stopped, _ => (.stopped, [])
  | mode, cell => betweenStep mode cell

/-- The tokens from a mode on. A string that is not closed is a fault. -/
def lex (mode : Mode) : List Cell → List Token
  | [] =>
    match mode with
    | .between | .word _ => flush mode
    | .stopped => []
    | _ => [.fault]
  | cell :: rest =>
    let next := lexStep mode cell
    next.2 ++ lex next.1 rest

def tokens (text : List Cell) : List Token :=
  lex .between text

/-- An open list or record with what it holds so far, in reverse. -/
inductive Frame where
  | list (items : List Tree)
  | record (members : List (Tree × Tree))
  /-- A record whose last key waits for its value. -/
  | member (members : List (Tree × Tree)) (key : Tree)

inductive Expect where
  | value
  | valueOrEnd
  | key
  | keyOrEnd
  | colon
  | commaOrEnd
  deriving DecidableEq

/-- The outcome of one token: go on, or a whole value, or the text breaks off. -/
inductive Step where
  | next (stack : List Frame) (expect : Expect)
  | whole (t : Tree)
  | broken

def complete (t : Tree) : List Frame → Step
  | [] => .whole t
  | .list items :: rest => .next (.list (t :: items) :: rest) .commaOrEnd
  | .member members key :: rest => .next (.record ((key, t) :: members) :: rest) .commaOrEnd
  | .record _ :: _ => .broken

/-- Whether a value may stand where `expect` says. -/
def Expect.admitsValue : Expect → Bool
  | .value | .valueOrEnd => true
  | _ => false

def buildStep (stack : List Frame) (expect : Expect) : Token → Step
  | .openList =>
    if expect.admitsValue then .next (.list [] :: stack) .valueOrEnd else .broken
  | .openRecord =>
    if expect.admitsValue then .next (.record [] :: stack) .keyOrEnd else .broken
  | .closeList =>
    match stack with
    | .list items :: rest =>
      if expect = .valueOrEnd || expect = .commaOrEnd then complete (.list items.reverse) rest
      else .broken
    | _ => .broken
  | .closeRecord =>
    match stack with
    | .record members :: rest =>
      if expect = .keyOrEnd || expect = .commaOrEnd then complete (.record members.reverse) rest
      else .broken
    | _ => .broken
  | .comma =>
    match stack, expect with
    | .list _ :: _, .commaOrEnd => .next stack .value
    | .record _ :: _, .commaOrEnd => .next stack .key
    | _, _ => .broken
  | .colon => if expect = .colon then .next stack .value else .broken
  | .string s =>
    if expect.admitsValue then complete (.scalar s) stack
    else
      match stack with
      | .record members :: rest =>
        if expect = .key || expect = .keyOrEnd then
          .next (.member members (.scalar s) :: rest) .colon
        else .broken
      | _ => .broken
  | .word s =>
    if expect.admitsValue then complete (.scalar s) stack else .broken
  | .fault => .broken

def abandon (stack : List Frame) : Tree :=
  stack.foldl
    (fun t frame =>
      match frame with
      | .list items => .list (t :: items).reverse
      | .record members => .record ((t, .fault) :: members).reverse
      | .member members key => .record ((key, t) :: members).reverse)
    .fault

/-- The tree of a token list, and whether it takes up all tokens. -/
def build (stack : List Frame) (expect : Expect) : List Token → Tree × Bool
  | [] => (abandon stack, false)
  | token :: rest =>
    match buildStep stack expect token with
    | .next stack expect => build stack expect rest
    | .whole t => (t, rest.isEmpty)
    | .broken => (abandon stack, false)

/-- A JSON text as a tree, and whether nothing follows the value. -/
def parse (text : List Cell) : Tree × Bool :=
  build [] .value (tokens text)

/-- A record may be written as a list, and there are no references. -/
def format : Format := ⟨true, fun _ => .fault⟩

def maxLevels : Nat := 127

def read {α : Type} (reader : Reader α) (text : List Cell) : Except ReadFault α := do
  let (tree, whole) := parse text
  let value ← (reader format maxLevels tree).run' 0
  if whole then return value else throw .malformed

end ClassAtlas.Json
