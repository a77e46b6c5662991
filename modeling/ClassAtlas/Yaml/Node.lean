import ClassAtlas.Yaml.Token

/-! The nodes of a YAML document, read from its tokens. A node that is left out is
an empty plain scalar; which tokens show that it is left out depends on its place.
Tokens that run out, or that fit no rule, end the document in a `fault`. -/
namespace ClassAtlas.Yaml

/-- A node. Anchors and aliases are names here; they are followed later. -/
inductive Node where
  | fault
  | alias (name : List Char)
  | scalar (anchor tag : Option (List Char)) (text : List Char) (style : Style)
  | list (anchor : Option (List Char)) (items : List Node)
  | record (anchor : Option (List Char)) (members : List (Node × Node))

def Node.empty : Node := .scalar none none [] .plain

inductive Place where
  /-- At the start of a document without a mark. -/
  | bare
  | marked
  | blockItem
  /-- In a block list that is no deeper than the key it belongs to. -/
  | looseItem
  | blockPart
  /-- An item of a flow list, or a key of a flow record without a question mark. -/
  | flowItem
  | pairKey
  | pairValue
  | flowKey
  | flowValue
  deriving DecidableEq

namespace Place

def inBlock : Place → Bool
  | bare | marked | blockItem | looseItem | blockPart => true
  | _ => false

def isLeftOutBefore (place : Place) (t : Token) : Bool :=
  match place, t with
  | marked, .version .. | marked, .tagDirective .. | marked, .documentStart
  | marked, .documentEnd | marked, .streamEnd => true
  | blockItem, .blockEntry | blockItem, .blockEnd => true
  | looseItem, .blockEntry | looseItem, .key | looseItem, .value | looseItem, .blockEnd => true
  | blockPart, .key | blockPart, .value | blockPart, .blockEnd => true
  | pairKey, .value | pairKey, .flowEntry | pairKey, .flowListEnd => true
  | pairValue, .flowEntry | pairValue, .flowListEnd => true
  | flowKey, .value | flowKey, .flowEntry | flowKey, .flowRecordEnd => true
  | flowValue, .flowEntry | flowValue, .flowRecordEnd => true
  | _, _ => false

end Place

abbrev Handles := List (List Char × List Char)

def commonHandles : Handles :=
  [(['!'], ['!']), (['!', '!'], "tag:yaml.org,2002:".toList)]

/-- A tag in full, if its handle is known. -/
def fullTag? (handles : Handles) (handle suffix : List Char) : Option (List Char) :=
  if handle.isEmpty then some suffix else (handles.lookup handle).map (· ++ suffix)

/-- The anchor and the tag in front of a node, in either order. -/
def properties? (handles : Handles) :
    List Token → Option (Option (List Char) × Option (List Char) × List Token)
  | .anchor name :: .tag handle suffix :: rest | .tag handle suffix :: .anchor name :: rest => do
    return (some name, some (← fullTag? handles handle suffix), rest)
  | .anchor name :: rest => some (some name, none, rest)
  | .tag handle suffix :: rest => do return (none, some (← fullTag? handles handle suffix), rest)
  | tokens => some (none, none, tokens)

namespace Node

mutual

/-- Read a node that is not left out. -/
def read (handles : Handles) : Nat → Place → List Token → Node × List Token
  | 0, _, _ => (.fault, [])
  | bound + 1, place, tokens =>
    match tokens with
    | .alias name :: rest => (.alias name, rest)
    | tokens =>
      match properties? handles tokens with
      | none => (.fault, [])
      | some (anchor, tag, tokens) =>
        let withoutText : Node × List Token :=
          if tokens.isEmpty || (anchor.isNone && tag.isNone) then (.fault, [])
          else (.scalar anchor tag [] .plain, tokens)
        match tokens with
        | .scalar text style :: rest =>
          (.scalar anchor tag text style, rest)
        | .flowListStart :: rest =>
          let (items, rest) := readFlowItems handles bound true rest
          (.list anchor items, rest)
        | .flowRecordStart :: rest =>
          let (members, rest) := readFlowMembers handles bound true rest
          (.record anchor members, rest)
        | .blockListStart :: rest =>
          if place.inBlock then
            let (items, rest) := readBlockItems handles bound rest
            (.list anchor items, rest)
          else withoutText
        | .blockRecordStart :: rest =>
          if place.inBlock then
            let (members, rest) := readBlockMembers handles bound rest
            (.record anchor members, rest)
          else withoutText
        | .blockEntry :: _ =>
          if place = .blockPart then
            let (items, rest) := readLooseItems handles bound tokens
            (.list anchor items, rest)
          else withoutText
        | _ => withoutText

/-- Read a node that may be left out. A key that is left out in a flow list takes
the token behind it along. -/
def readAt (handles : Handles) : Nat → Place → List Token → Node × List Token
  | 0, _, _ | _, _, [] => (.fault, [])
  | bound + 1, place, t :: rest =>
    if place.isLeftOutBefore t then (.empty, if place = .pairKey then rest else t :: rest)
    else read handles bound place (t :: rest)

/-- Read the value of a member, which is left out if no colon announces it. -/
def readValue (handles : Handles) : Nat → Place → List Token → Node × List Token
  | 0, _, _ | _, _, [] => (.fault, [])
  | bound + 1, place, .value :: rest => readAt handles bound place rest
  | _, _, tokens => (.empty, tokens)

def readBlockItems (handles : Handles) : Nat → List Token → List Node × List Token
  | bound + 1, .blockEntry :: rest =>
    let (item, rest) := readAt handles bound .blockItem rest
    let (items, rest) := readBlockItems handles bound rest
    (item :: items, rest)
  | _, .blockEnd :: rest => ([], rest)
  | _, _ => ([.fault], [])

/-- Read the items of a block list that has no end of its own. -/
def readLooseItems (handles : Handles) : Nat → List Token → List Node × List Token
  | 0, _ | _, [] => ([.fault], [])
  | bound + 1, .blockEntry :: rest =>
    let (item, rest) := readAt handles bound .looseItem rest
    let (items, rest) := readLooseItems handles bound rest
    (item :: items, rest)
  | _, tokens => ([], tokens)

def readBlockMembers (handles : Handles) : Nat → List Token → List (Node × Node) × List Token
  | bound + 1, .key :: rest =>
    let (key, rest) := readAt handles bound .blockPart rest
    let (value, rest) := readValue handles bound .blockPart rest
    let (members, rest) := readBlockMembers handles bound rest
    ((key, value) :: members, rest)
  | _, .blockEnd :: rest => ([], rest)
  | _, _ => ([(.fault, .fault)], [])

/-- Read the items of a flow list. Every item but the first stands behind a
comma, and a comma may stand in front of the end. A member that stands as an item is a
record of its own, which ends only where a token follows it. -/
def readFlowItems (handles : Handles) : Nat → Bool → List Token → List Node × List Token
  | _, _, .flowListEnd :: rest | _, false, .flowEntry :: .flowListEnd :: rest => ([], rest)
  | 0, _, _ => ([.fault], [])
  | bound + 1, true, .key :: rest | bound + 1, false, .flowEntry :: .key :: rest =>
    let (key, rest) := readAt handles bound .pairKey rest
    let (value, rest) := readValue handles bound .pairValue rest
    let ending := if rest.isEmpty then [(.fault, .fault)] else []
    let (items, rest) := readFlowItems handles bound false rest
    (.record none ((key, value) :: ending) :: items, rest)
  | bound + 1, true, tokens | bound + 1, false, .flowEntry :: tokens =>
    let (item, rest) := readAt handles bound .flowItem tokens
    let (items, rest) := readFlowItems handles bound false rest
    (item :: items, rest)
  | _, _, _ => ([.fault], [])

/-- Read the members of a flow record. A key without a question mark and a colon
has no value. -/
def readFlowMembers (handles : Handles) : Nat → Bool → List Token → List (Node × Node) × List Token
  | _, _, .flowRecordEnd :: rest | _, false, .flowEntry :: .flowRecordEnd :: rest => ([], rest)
  | 0, _, _ => ([(.fault, .fault)], [])
  | bound + 1, true, .key :: rest | bound + 1, false, .flowEntry :: .key :: rest =>
    let (key, rest) := readAt handles bound .flowKey rest
    let (value, rest) := readValue handles bound .flowValue rest
    let (members, rest) := readFlowMembers handles bound false rest
    ((key, value) :: members, rest)
  | bound + 1, true, tokens | bound + 1, false, .flowEntry :: tokens =>
    let (key, rest) := readAt handles bound .flowItem tokens
    let value := if rest.isEmpty then .fault else .empty
    let (members, rest) := readFlowMembers handles bound false rest
    ((key, value) :: members, rest)
  | _, _, _ => ([(.fault, .fault)], [])

end

end Node

/-- Read the directives in front of a document: at most one version, which is 1.1
or 1.2, and every handle once. -/
def readDirectives (version : Bool) (handles : Handles) :
    List Token → Option (Handles × List Token)
  | .version major minor :: rest =>
    if !version && major = 1 && (minor = 1 || minor = 2) then readDirectives true handles rest
    else none
  | .tagDirective handle start :: rest =>
    if (handles.lookup handle).isSome then none
    else readDirectives version ((handle, start) :: handles) rest
  | tokens => some (handles ++ commonHandles, tokens)

/-- What may follow the root of a document: its end, and the end of the stream. -/
def endsStream : List Token → Bool
  | .documentEnd :: rest => endsStream rest
  | [.streamEnd] => true
  | _ => false

/-- The root of the only document of a stream, and whether nothing follows it. A
stream without a document has an empty root. -/
def document (tokens : List Token) : Node × Bool :=
  let bound := 4 * (tokens.length + 1)
  let root : Node × List Token :=
    match tokens with
    | .streamEnd :: _ => (.empty, tokens)
    | .version .. :: _ | .tagDirective .. :: _ | .documentStart :: _ =>
      match readDirectives false [] tokens with
      | some (handles, .documentStart :: rest) => Node.readAt handles bound .marked rest
      | _ => (.fault, [])
    | _ => Node.read commonHandles bound .bare tokens
  (root.1, endsStream root.2)

end ClassAtlas.Yaml
