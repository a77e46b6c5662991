/-! JSON values and their texts. The compact text has no blanks; the indented one
has a line for every item. In strings only the quotation mark, the backslash and
the control characters below the blank are escaped. -/
namespace ClassAtlas

inductive Json where
  | null
  | bool (b : Bool)
  | number (n : Nat)
  | string (s : String)
  | array (items : List Json)
  | object (members : List (String × Json))

namespace Json

/-- An optional value, null where it is unset. -/
def ofOption {α : Type} (write : α → Json) : Option α → Json
  | some a => write a
  | none => null

def strings (texts : List String) : Json :=
  array (texts.map string)

def escape (c : Char) : List Char :=
  if c = '\x22' then ['\\', '\x22']
  else if c = '\\' then ['\\', '\\']
  else if c = '\x08' then ['\\', 'b']
  else if c = '\t' then ['\\', 't']
  else if c = '\n' then ['\\', 'n']
  else if c = '\x0c' then ['\\', 'f']
  else if c = '\r' then ['\\', 'r']
  else if c.toNat < 0x20 then
    ['\\', 'u', '0', '0', Nat.digitChar (c.toNat / 16), Nat.digitChar (c.toNat % 16)]
  else [c]

def quote (s : String) : List Char :=
  '\x22' :: s.toList.flatMap escape ++ ['\x22']

mutual

def write : Json → List Char
  | null => ['n', 'u', 'l', 'l']
  | bool true => ['t', 'r', 'u', 'e']
  | bool false => ['f', 'a', 'l', 's', 'e']
  | number n => Nat.toDigits 10 n
  | string s => quote s
  | array items => '[' :: writeItems items ++ [']']
  | object members => '\x7b' :: writeMembers members ++ ['\x7d']

def writeItems : List Json → List Char
  | [] => []
  | [item] => item.write
  | item :: next :: rest => item.write ++ ',' :: writeItems (next :: rest)

def writeMembers : List (String × Json) → List Char
  | [] => []
  | [(key, value)] => quote key ++ ':' :: value.write
  | (key, value) :: next :: rest =>
    quote key ++ ':' :: value.write ++ ',' :: writeMembers (next :: rest)

end

def newLine (level : Nat) : List Char :=
  '\n' :: List.replicate (2 * level) ' '

mutual

/-- The indented text inside `level` open brackets. -/
def writeIndented (level : Nat) : Json → List Char
  | array [] => ['[', ']']
  | array (item :: rest) =>
    '[' :: writeIndentedItems (level + 1) (item :: rest) ++ newLine level ++ [']']
  | object [] => ['\x7b', '\x7d']
  | object (member :: rest) =>
    '\x7b' :: writeIndentedMembers (level + 1) (member :: rest) ++ newLine level ++ ['\x7d']
  | json => json.write

def writeIndentedItems (level : Nat) : List Json → List Char
  | [] => []
  | [item] => newLine level ++ item.writeIndented level
  | item :: next :: rest =>
    newLine level ++ writeIndented level item ++ ',' :: writeIndentedItems level (next :: rest)

def writeIndentedMembers (level : Nat) : List (String × Json) → List Char
  | [] => []
  | [(key, value)] => newLine level ++ quote key ++ ':' :: ' ' :: writeIndented level value
  | (key, value) :: next :: rest =>
    newLine level ++ quote key ++ ':' :: ' ' :: writeIndented level value ++
      ',' :: writeIndentedMembers level (next :: rest)

end

def compact (j : Json) : String := String.ofList j.write

def indented (j : Json) : String := String.ofList (j.writeIndented 0)

end Json

end ClassAtlas
