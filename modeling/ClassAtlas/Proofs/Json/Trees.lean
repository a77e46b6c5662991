import ClassAtlas.Proofs.Json.Tokens
import ClassAtlas.Proofs.Text.Utf8

/-! The tree of a written JSON value. The tokens that spell a value build the same tree
wherever a value may stand, so a written text is read as the tree of what was written. -/
namespace ClassAtlas.Json

open Document Text

mutual

def toTree : Json → Tree
  | null => .scalar nullScalar
  | bool b => .scalar (Scalar.plain (.boolean b))
  | number n => .scalar (numberScalar n)
  | string s => .scalar (textScalar s)
  | array items => .list (toTrees items)
  | object members => .record (toMembers members)

def toTrees : List Json → List Tree
  | [] => []
  | item :: rest => toTree item :: toTrees rest

def toMembers : List (String × Json) → List (Tree × Tree)
  | [] => []
  | (key, value) :: rest => (.scalar (textScalar key), toTree value) :: toMembers rest

end

mutual

/-- How many arrays and objects lie in one another. -/
def depth : Json → Nat
  | null | bool _ | number _ | string _ => 0
  | array items => depthAll items + 1
  | object members => depthMembers members + 1

def depthAll : List Json → Nat
  | [] => 0
  | item :: rest => max item.depth (depthAll rest)

def depthMembers : List (String × Json) → Nat
  | [] => 0
  | (_, value) :: rest => max value.depth (depthMembers rest)

end

/-- What is built after one token. -/
def proceed (stack : List Frame) (rest : List Token) : Step → Tree × Bool
  | .next stack expect => build stack expect rest
  | .whole t => (t, rest.isEmpty)
  | .broken => (abandon stack, false)

theorem build_cons (stack : List Frame) (expect : Expect) (token : Token) (rest : List Token) :
    build stack expect (token :: rest) = proceed stack rest (buildStep stack expect token) := by
  rw [build]
  cases buildStep stack expect token <;> rfl

/-- A value may be put on the stack. -/
def TakesValue (stack : List Frame) : Prop := ∀ t, complete t stack ≠ .broken

theorem takesValue_nil : TakesValue [] := nofun

theorem takesValue_list (items : List Tree) (stack : List Frame) :
    TakesValue (.list items :: stack) := nofun

theorem takesValue_member (members : List (Tree × Tree)) (key : Tree) (stack : List Frame) :
    TakesValue (.member members key :: stack) := nofun

section Frames
variable {stack : List Frame} {expect : Expect}

/-- A value that is taken is no fault, so it does not matter which stack a fault would leave
behind. -/
theorem proceed_complete (takes : TakesValue stack) (other : List Frame) (t : Tree)
    (rest : List Token) :
    proceed other rest (complete t stack) = proceed stack rest (complete t stack) := by
  cases step : complete t stack with
  | next _ _ => rfl
  | whole _ => rfl
  | broken => exact absurd step (takes t)

theorem build_openList (awaits : expect.admitsValue = true) (rest : List Token) :
    build stack expect (.openList :: rest) = build (.list [] :: stack) .valueOrEnd rest := by
  rw [build_cons, buildStep, if_pos awaits, proceed]

theorem build_openRecord (awaits : expect.admitsValue = true) (rest : List Token) :
    build stack expect (.openRecord :: rest) = build (.record [] :: stack) .keyOrEnd rest := by
  rw [build_cons, buildStep, if_pos awaits, proceed]

theorem build_closeList (takes : TakesValue stack) (items : List Tree) (rest : List Token)
    (ends : expect = .valueOrEnd ∨ expect = .commaOrEnd) :
    build (.list items :: stack) expect (.closeList :: rest) =
      proceed stack rest (complete (.list items.reverse) stack) := by
  rw [build_cons, ← proceed_complete takes (.list items :: stack)]
  rcases ends with rfl | rfl <;> rfl

theorem build_closeRecord (takes : TakesValue stack) (members : List (Tree × Tree))
    (rest : List Token) (ends : expect = .keyOrEnd ∨ expect = .commaOrEnd) :
    build (.record members :: stack) expect (.closeRecord :: rest) =
      proceed stack rest (complete (.record members.reverse) stack) := by
  rw [build_cons, ← proceed_complete takes (.record members :: stack)]
  rcases ends with rfl | rfl <;> rfl

theorem build_key (members : List (Tree × Tree)) (key : String) (rest : List Token)
    (awaits : expect = .key ∨ expect = .keyOrEnd) :
    build (.record members :: stack) expect (.string (textScalar key) :: .colon :: rest) =
      build (.member members (.scalar (textScalar key)) :: stack) .value rest := by
  rcases awaits with rfl | rfl <;> rfl

theorem build_commaItem (items : List Tree) (rest : List Token) :
    build (.list items :: stack) .commaOrEnd (.comma :: rest) =
      build (.list items :: stack) .value rest := rfl

theorem build_commaMember (members : List (Tree × Tree)) (rest : List Token) :
    build (.record members :: stack) .commaOrEnd (.comma :: rest) =
      build (.record members :: stack) .key rest := rfl

end Frames

mutual

/-- Where a value is awaited, the tokens of a value put its tree there. -/
theorem build_spelled {stack : List Frame} {expect : Expect} (rest : List Token)
    (awaits : expect.admitsValue = true) (takes : TakesValue stack) :
    ∀ j : Json, build stack expect (spelled j ++ rest) =
      proceed stack rest (complete j.toTree stack)
  | null | bool _ | number _ | string _ => by
    simp only [spelled, List.singleton_append, build_cons, buildStep, awaits, if_true, toTree]
  | array [] => by
    simp only [spelled, spelledItems, List.cons_append, List.nil_append]
    rw [build_openList awaits, build_closeList takes [] rest (.inl rfl)]
    rfl
  | array (item :: others) => by
    simp only [spelled, List.cons_append, List.append_assoc, List.nil_append]
    rw [build_openList awaits, build_spelledItems stack [] _ rfl (item :: others) nofun,
      build_closeList takes _ rest (.inr rfl), List.append_nil, List.reverse_reverse, toTree]
  | object [] => by
    simp only [spelled, spelledMembers, List.cons_append, List.nil_append]
    rw [build_openRecord awaits, build_closeRecord takes [] rest (.inl rfl)]
    rfl
  | object (member :: others) => by
    simp only [spelled, List.cons_append, List.append_assoc, List.nil_append]
    rw [build_openRecord awaits, build_spelledMembers stack [] _ (.inr rfl) (member :: others) nofun,
      build_closeRecord takes _ rest (.inr rfl), List.append_nil, List.reverse_reverse, toTree]

theorem build_spelledItems (stack : List Frame) {expect : Expect} (done : List Tree)
    (rest : List Token) (awaits : expect.admitsValue = true) :
    ∀ items : List Json, items ≠ [] →
      build (.list done :: stack) expect (spelledItems items ++ rest) =
        build (.list ((toTrees items).reverse ++ done) :: stack) .commaOrEnd rest
  | [], nonempty => absurd rfl nonempty
  | [item], _ => by
    rw [spelledItems, build_spelled rest awaits (takesValue_list done stack) item]
    rfl
  | item :: next :: others, _ => by
    have first := build_spelled (.comma :: spelledItems (next :: others) ++ rest) awaits
      (takesValue_list done stack) item
    have later := build_spelledItems stack (item.toTree :: done) rest
      (show Expect.value.admitsValue = true from rfl) (next :: others) nofun
    rw [spelledItems, List.append_assoc, first]
    simp only [complete, proceed, List.cons_append]
    rw [build_commaItem, later, toTrees.eq_def (item :: _)]
    simp only [List.reverse_cons, List.append_assoc, List.singleton_append]

theorem build_spelledMembers (stack : List Frame) {expect : Expect}
    (done : List (Tree × Tree)) (rest : List Token) (awaits : expect = .key ∨ expect = .keyOrEnd) :
    ∀ members : List (String × Json), members ≠ [] →
      build (.record done :: stack) expect (spelledMembers members ++ rest) =
        build (.record ((toMembers members).reverse ++ done) :: stack) .commaOrEnd rest
  | [], nonempty => absurd rfl nonempty
  | [(key, value)], _ => by
    rw [spelledMembers, List.cons_append, List.cons_append, build_key done key _ awaits,
      build_spelled rest rfl (takesValue_member done _ stack) value]
    rfl
  | (key, value) :: next :: others, _ => by
    have first := build_spelled (.comma :: spelledMembers (next :: others) ++ rest)
      (show Expect.value.admitsValue = true from rfl)
      (takesValue_member done (.scalar (textScalar key)) stack) value
    have later := build_spelledMembers stack
      ((.scalar (textScalar key), value.toTree) :: done) rest (.inl rfl) (next :: others) nofun
    simp only [spelledMembers, List.cons_append, List.append_assoc] at first ⊢
    rw [build_key done key _ awaits, first]
    simp only [complete, proceed]
    rw [build_commaMember, later, toMembers.eq_def ((key, value) :: _)]
    simp only [List.reverse_cons, List.append_assoc, List.singleton_append]

end

theorem build_spelled_nil (j : Json) : build [] .value (spelled j) = (j.toTree, true) := by
  have whole := build_spelled [] (show Expect.value.admitsValue = true from rfl) takesValue_nil j
  rwa [List.append_nil] at whole

/-- Reading a text starts from the tree of the value that was written. -/
theorem parse_compact (j : Json) : parse (cells (utf8 j.compact)) = (j.toTree, true) := by
  have characters : cells (utf8 j.compact) = characters j.compact.toList := cells_utf8 _
  rw [parse, characters, tokens_compact, build_spelled_nil]

theorem parse_indented (j : Json) : parse (cells (utf8 j.indented)) = (j.toTree, true) := by
  have characters : cells (utf8 j.indented) = characters j.indented.toList := cells_utf8 _
  rw [parse, characters, tokens_indented, build_spelled_nil]

theorem toTrees_eq_map (items : List Json) : toTrees items = items.map toTree := by
  induction items with
  | nil => rfl
  | cons item rest ih => rw [toTrees, ih, List.map_cons]

end ClassAtlas.Json
