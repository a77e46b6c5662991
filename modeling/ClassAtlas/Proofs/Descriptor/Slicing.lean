import ClassAtlas.Proofs.Descriptor.Grammar
import ClassAtlas.Proofs.Text.Slice

/-! Descriptors read by the offsets of their bytes. The first byte tells the kind of a type, the
name of an object is sliced out up to the offset of its semicolon, and what is not read yet is
sliced off behind it. All these slices are defined, and the outcome is that of the reader on
characters. -/
namespace ClassAtlas.ByOffset
open Text

/-- An object type, whose first byte is known. -/
def readObject (text : String) : Except Breakdown (Option (TypeDescriptor × String)) :=
  match firstOffset [';'] text with
  | none => return none
  | some stop => do
    let name ← slice text 1 stop
    if name.isEmpty || name.toList.any fun c => c == '(' || c == ')' || c == '[' then return none
    else return some (.object name.toList, ← sliceFrom text (stop + 1))

/-- Read one type at the start of a text, and give back the rest. -/
def read (allowVoid : Bool) (text : String) :
    Except Breakdown (Option (TypeDescriptor × String)) :=
  match (utf8 text).head? with
  | none => return none
  | some code =>
    if code = 'V'.toUInt8 ∧ allowVoid then do
      return some (.void, ← sliceFrom text 1)
    else if code = 'L'.toUInt8 then readObject text
    else if code = '['.toUInt8 then
      match _inside : sliceFrom text 1 with
      | .ok inside => do
        return (← read false inside).map fun found => (.array found.1, found.2)
      | .error breakdown => .error breakdown
    else
      match Primitive.ofCode? (Char.ofUInt8 code) with
      | some p => do return some (.primitive p, ← sliceFrom text 1)
      | none => return none
termination_by text.utf8ByteSize
decreasing_by
  obtain ⟨inRange, size⟩ := utf8ByteSize_slice _inside
  omega

/-- The parameters up to the closing parenthesis, in a loop of so many rounds at most. -/
def readParameters : Nat → String → Except Breakdown (Option (List TypeDescriptor × String))
  | 0, _ => .error .endless
  | rounds + 1, text => do
    match ← sliceAfter [')'] text with
    | some rest => return some ([], rest)
    | none =>
      match ← read false text with
      | some (first, rest) =>
        return (← readParameters rounds rest).map fun found => (first :: found.1, found.2)
      | none => return none

/-- The loop over the parameters has as many rounds as the text has bytes. -/
def readMethod (text : String) : Except Breakdown (Option MethodDescriptor) := do
  match ← sliceAfter ['('] text with
  | some inside =>
    match ← readParameters text.utf8ByteSize inside with
    | some (parameters, rest) =>
      match ← read true rest with
      | some (result, trailing) =>
        return if trailing.isEmpty then some ⟨parameters, result⟩ else none
      | none => return none
    | none => return none
  | none => return none

def isDigitByte (b : UInt8) : Bool :=
  '0'.toUInt8 ≤ b && b ≤ '9'.toUInt8

def normalizeSynthetic (name : String) : Except Breakdown String :=
  match lastOffset '$' name with
  | some dollar => do
    let suffix ← sliceFrom name (dollar + 1)
    if !suffix.isEmpty && (utf8 suffix).all isDigitByte then
      return (← sliceTo name dollar) ++ String.ofList anonymousMark ++ suffix
    else return name
  | none => return name

def sourceName : TypeDescriptor → Except Breakdown String
  | .void => return "void"
  | .primitive p => return p.keyword
  | .object name => normalizeSynthetic (String.ofList (dotted name))
  | .array element => do return (← sourceName element) ++ "[]"

theorem sliceFrom_one {c : Char} (ascii : c.toNat < 0x80) (rest : List Char) :
    sliceFrom (String.ofList (c :: rest)) 1 = .ok (String.ofList rest) := by
  have found := sliceFrom_mark ascii "" (String.ofList rest)
  simpa [← String.ofList_append] using found

/-- A name that ends at the first semicolon holds none, so only the other marks are looked for. -/
theorem isUnwritable_eq {name : List Char} (plain : ';' ∉ name) :
    ((String.ofList name).isEmpty ||
      (String.ofList name).toList.any fun c => c == '(' || c == ')' || c == '[') =
        !isObjectName name := by
  rw [Bool.eq_iff_iff, Bool.not_eq_true', ← Bool.not_eq_true, isObjectName_iff]
  simp only [Bool.or_eq_true, String.isEmpty_iff, String.toList_ofList, List.any_eq_true,
    beq_iff_eq, String.ofList_eq_empty_iff]
  grind

/-- Where the first semicolon of an object type is found. -/
theorem firstOffset_object (rest : List Char) :
    firstOffset [';'] (String.ofList ('L' :: rest)) =
      (cutFirst ';' rest).map fun parts => (String.ofList ('L' :: parts.1)).utf8ByteSize := by
  have cutHere : cutFirst ';' ('L' :: rest) =
      (cutFirst ';' rest).map fun parts => ('L' :: parts.1, parts.2) := rfl
  rw [firstOffset_singleton (by decide), String.toList_ofList, cutHere, Option.map_map]
  rfl

theorem ofList_object {name rest after : List Char} (cut : cutFirst ';' rest = some (name, after)) :
    String.ofList ('L' :: rest) =
      String.ofList ('L' :: name) ++ String.ofList [';'] ++ String.ofList after := by
  rw [cutFirst_eq cut, ← String.ofList_append, ← String.ofList_append]
  simp

theorem readObject_eq (rest : List Char) :
    readObject (String.ofList ('L' :: rest)) =
      .ok (match cutFirst ';' rest with
        | some (name, after) =>
          if isObjectName name then some (.object name, String.ofList after) else none
        | none => none) := by
  rw [readObject, firstOffset_object]
  cases cut : cutFirst ';' rest with
  | none => rfl
  | some parts =>
    obtain ⟨name, after⟩ := parts
    have glued := ofList_object cut
    have wrapped : String.ofList ('L' :: name) = "L" ++ String.ofList name := by
      rw [← List.singleton_append, String.ofList_append]
    have nameSlice : slice (String.ofList ('L' :: rest)) 1
        (String.ofList ('L' :: name)).utf8ByteSize = .ok (String.ofList name) := by
      rw [glued, wrapped, String.utf8ByteSize_append, String.append_assoc]
      exact slice_append "L" _ _
    have restSlice : sliceFrom (String.ofList ('L' :: rest))
        ((String.ofList ('L' :: name)).utf8ByteSize + 1) = .ok (String.ofList after) := by
      rw [glued]
      exact sliceFrom_mark (by decide) _ _
    have unwritable := isUnwritable_eq (not_mem_cutFirst cut)
    simp only [Option.map_some, nameSlice, restSlice, bind, Except.bind, unwritable]
    cases isObjectName name with
    | true => rw [String.toList_ofList]; rfl
    | false => rfl

theorem ofUInt8_toUInt8 {c : Char} (ascii : c.toNat < 0x80) : Char.ofUInt8 c.toUInt8 = c := by
  rw [← Char.toNat_inj]
  change c.toUInt8.toUInt32.toNat = c.toNat
  rw [UInt8.toNat_toUInt32, toNat_toUInt8 ascii]

theorem read_cons {c : Char} (ascii : c.toNat < 0x80) (allowVoid : Bool) (rest : List Char) :
    read allowVoid (String.ofList (c :: rest)) =
      if c = 'V' ∧ allowVoid then .ok (some (.void, String.ofList rest))
      else if c = 'L' then readObject (String.ofList (c :: rest))
      else if c = '[' then do
        return (← read false (String.ofList rest)).map fun found => (.array found.1, found.2)
      else .ok ((Primitive.ofCode? c).map fun p => (.primitive p, String.ofList rest)) := by
  have head : (utf8 (String.ofList (c :: rest))).head? = some c.toUInt8 := by
    rw [utf8_eq_encoded, String.toList_ofList, encoded_cons_ascii ascii, List.head?_cons]
  have isMark {m : Char} (short : m.toNat < 0x80) : c.toUInt8 = m.toUInt8 ↔ c = m :=
    toUInt8_inj ascii short
  rw [read, head]
  simp only [isMark (show 'V'.toNat < 0x80 by decide), isMark (show 'L'.toNat < 0x80 by decide),
    isMark (show '['.toNat < 0x80 by decide), ofUInt8_toUInt8 ascii]
  split
  · rw [sliceFrom_one ascii]
    rfl
  · split
    · rfl
    · split
      · split
        · next inside defined =>
          rw [sliceFrom_one ascii] at defined
          cases defined
          rfl
        · next broken =>
          rw [sliceFrom_one ascii] at broken
          cases broken
      · rw [sliceFrom_one ascii]
        cases Primitive.ofCode? c <;> rfl

/-! A character outside ASCII starts no type, and its first byte is no code either. -/

theorem ofCode?_long {c : Char} (long : 0x80 ≤ c.toNat) : Primitive.ofCode? c = none := by
  cases found : Primitive.ofCode? c with
  | none => rfl
  | some p =>
    rw [Primitive.code_of_ofCode? found] at long
    cases p <;> exact absurd long (by decide)

theorem typeRead_long {c : Char} (long : 0x80 ≤ c.toNat) (allowVoid : Bool) (rest : List Char) :
    TypeDescriptor.read allowVoid (c :: rest) = none := by
  rw [TypeDescriptor.read, if_neg (ne_of_long long (by decide)),
    if_neg (ne_of_long long (by decide)), if_neg (ne_of_long long (by decide)), ofCode?_long long]
  rfl

theorem read_long {c : Char} (long : 0x80 ≤ c.toNat) (allowVoid : Bool) (rest : List Char) :
    read allowVoid (String.ofList (c :: rest)) = .ok none := by
  obtain ⟨first, others, bytes, high⟩ := encode_long long
  have head : (utf8 (String.ofList (c :: rest))).head? = some first := by
    rw [utf8_eq_encoded, String.toList_ofList, encoded_cons, bytes]
    rfl
  have noCode : Primitive.ofCode? (Char.ofUInt8 first) = none := ofCode?_long high
  rw [read, head]
  simp only [ne_toUInt8 high (show 'V'.toNat < 0x80 by decide),
    ne_toUInt8 high (show 'L'.toNat < 0x80 by decide),
    ne_toUInt8 high (show '['.toNat < 0x80 by decide), noCode, false_and, if_false]
  rfl

/-- What was read, with the rest as a text. -/
def asText {α : Type} (found : α × List Char) : α × String :=
  (found.1, String.ofList found.2)

theorem read_ofList (allowVoid : Bool) (text : List Char) :
    read allowVoid (String.ofList text) =
      .ok ((TypeDescriptor.read allowVoid text).map asText) := by
  induction text generalizing allowVoid with
  | nil =>
    rw [read]
    rfl
  | cons c rest ih =>
    rcases Nat.lt_or_ge c.toNat 0x80 with short | long
    · rw [read_cons short, TypeDescriptor.read, ih]
      by_cases isVoid : c = 'V'
      · cases allowVoid <;> simp [isVoid, asText, Primitive.ofCode?]
      · rw [if_neg isVoid, if_neg (fun both => isVoid both.1)]
        by_cases isObject : c = 'L'
        · rw [if_pos isObject, if_pos isObject, isObject, readObject_eq]
          cases cutFirst ';' rest with
          | none => rfl
          | some parts => cases named : isObjectName parts.1 <;> simp [named, asText]
        · rw [if_neg isObject, if_neg isObject]
          by_cases isArray : c = '['
          · rw [if_pos isArray, if_pos isArray]
            cases TypeDescriptor.read false rest <;> rfl
          · rw [if_neg isArray, if_neg isArray]
            cases Primitive.ofCode? c <;> rfl
    · rw [read_long long, typeRead_long long]
      rfl

theorem read_eq (allowVoid : Bool) (text : String) :
    read allowVoid text = .ok ((TypeDescriptor.read allowVoid text.toList).map asText) := by
  rw [← read_ofList, String.ofList_toList]

/-- The rest of a type that was read is what it leaves of the text, and shorter. -/
theorem rest_of_read {allowVoid : Bool} {text rest : String} {t : TypeDescriptor}
    (found : read allowVoid text = .ok (some (t, rest))) :
    rest.utf8ByteSize < text.utf8ByteSize ∧ text = String.ofList t.encode ++ rest := by
  rw [read_eq] at found
  obtain ⟨⟨u, left⟩, onChars, same⟩ := Option.map_eq_some_iff.1 (Except.ok.inj found)
  cases same
  obtain ⟨-, glued, -⟩ := TypeDescriptor.read_eq_some onChars
  have whole : text = String.ofList u.encode ++ String.ofList left := by
    rw [← String.ofList_append, ← glued, String.ofList_toList]
  have positive : 0 < (String.ofList u.encode).utf8ByteSize := by
    rw [Nat.pos_iff_ne_zero, Ne, String.utf8ByteSize_eq_zero_iff, String.ofList_eq_empty_iff]
    exact u.encode_ne_nil
  refine ⟨?_, whole⟩
  rw [whole, String.utf8ByteSize_append]
  exact Nat.lt_add_of_pos_left positive

theorem eq_append_of_startsWith {mark : List Char} {text : String} (stands : mark <+: text.toList) :
    ∃ rest : String, text = String.ofList mark ++ rest := by
  obtain ⟨rest, glued⟩ := stands
  exact ⟨String.ofList rest, by rw [← String.ofList_append, glued, String.ofList_toList]⟩

theorem readParameters_eq_none {text : List Char} (notClosing : ¬ [')'] <+: text)
    (unread : TypeDescriptor.read false text = none) :
    MethodDescriptor.readParameters text = none := by
  rw [MethodDescriptor.readParameters.eq_def]
  split
  · exact absurd (List.prefix_append [')'] _) notClosing
  · split
    · next found => rw [unread] at found; cases found
    · rfl

/-- The loop ends within as many rounds as the text has bytes, and one to see the end. -/
theorem readParameters_eq {rounds : Nat} {text : String} (enough : text.utf8ByteSize < rounds) :
    readParameters rounds text =
      .ok ((MethodDescriptor.readParameters text.toList).map asText) := by
  induction rounds generalizing text with
  | zero => omega
  | succ rounds ih =>
    rw [readParameters]
    by_cases closing : [')'] <+: text.toList
    · obtain ⟨rest, rfl⟩ := eq_append_of_startsWith closing
      rw [sliceAfter_append (by decide), String.toList_append, String.toList_ofList,
        List.singleton_append, MethodDescriptor.readParameters]
      simp only [Option.map_some, asText, String.ofList_toList]
      rfl
    · rw [sliceAfter_of_absent (by decide) closing]
      cases found : TypeDescriptor.read false text.toList with
      | none =>
        have unread : read false text = .ok none := by rw [read_eq, found]; rfl
        simp only [bind, Except.bind, unread, readParameters_eq_none closing found]
        rfl
      | some parts =>
        obtain ⟨first, rest⟩ := parts
        have step : read false text = .ok (some (first, String.ofList rest)) := by
          rw [read_eq, found]
          rfl
        have shorter := (rest_of_read step).1
        have fewer : (String.ofList rest).utf8ByteSize < rounds := by omega
        have later := ih fewer
        rw [String.toList_ofList] at later
        simp only [bind, Except.bind, step, later, MethodDescriptor.readParameters_of_read found]
        cases MethodDescriptor.readParameters rest <;> rfl

theorem readMethod_eq (text : String) :
    readMethod text = .ok (MethodDescriptor.read? text.toList) := by
  rw [readMethod]
  by_cases opening : ['('] <+: text.toList
  · obtain ⟨inside, rfl⟩ := eq_append_of_startsWith opening
    have rounds : inside.utf8ByteSize < (String.ofList ['('] ++ inside).utf8ByteSize := by
      rw [String.utf8ByteSize_append]
      exact Nat.lt_add_of_pos_left (by decide)
    rw [sliceAfter_append (by decide), String.toList_append, String.toList_ofList,
      List.singleton_append]
    simp only [bind, Except.bind, readParameters_eq rounds]
    rw [MethodDescriptor.read?]
    cases MethodDescriptor.readParameters inside.toList with
    | none => rfl
    | some parts =>
      obtain ⟨parameters, rest⟩ := parts
      simp only [Option.map_some, asText, read_eq, String.toList_ofList]
      cases TypeDescriptor.read true rest with
      | none => rfl
      | some last =>
        obtain ⟨result, trailing⟩ := last
        cases trailing with
        | nil => rfl
        | cons c more =>
          have left : (String.ofList (c :: more)).isEmpty = false := by simp
          simp only [Option.map_some, asText, left]
          rfl
  · have unread : MethodDescriptor.read? text.toList = none := by
      rw [MethodDescriptor.read?]
      intro inside glued
      exact opening (glued ▸ List.prefix_append ['('] inside)
    rw [sliceAfter_of_absent (by decide) opening, unread]
    rfl

/-! Source names. -/

theorem isDigit_iff {c : Char} : c.isDigit ↔ 48 ≤ c.toNat ∧ c.toNat ≤ 57 := by
  rw [Char.isDigit, Bool.and_eq_true, decide_eq_true_iff, decide_eq_true_iff, ge_iff_le,
    UInt32.le_iff_toNat_le, UInt32.le_iff_toNat_le]
  rfl

theorem isDigitByte_iff {b : UInt8} : isDigitByte b ↔ 48 ≤ b.toNat ∧ b.toNat ≤ 57 := by
  rw [isDigitByte, Bool.and_eq_true, decide_eq_true_iff, decide_eq_true_iff,
    UInt8.le_iff_toNat_le, UInt8.le_iff_toNat_le]
  rfl

theorem all_isDigitByte (suffix : List Char) :
    (encoded suffix).all isDigitByte = suffix.all Char.isDigit := by
  induction suffix with
  | nil => rfl
  | cons c rest ih =>
    rcases Nat.lt_or_ge c.toNat 0x80 with short | long
    · have same : isDigitByte c.toUInt8 = c.isDigit := by
        rw [Bool.eq_iff_iff, isDigit_iff, isDigitByte_iff, toNat_toUInt8 short]
      rw [encoded_cons_ascii short, List.all_cons, List.all_cons, ih, same]
    · obtain ⟨first, others, bytes, high⟩ := encode_long long
      have noDigit : c.isDigit = false := by
        rw [← Bool.not_eq_true, isDigit_iff]
        omega
      have noDigitByte : isDigitByte first = false := by
        rw [← Bool.not_eq_true, isDigitByte_iff]
        omega
      simp [encoded_cons, bytes, noDigit, noDigitByte]

theorem normalizeSynthetic_eq (name : String) :
    normalizeSynthetic name =
      .ok (String.ofList (ClassAtlas.normalizeSynthetic name.toList)) := by
  rw [normalizeSynthetic, ClassAtlas.normalizeSynthetic]
  rcases lastOffset_cases (m := '$') (by decide) name with
    ⟨absent, cut⟩ | ⟨outer, suffix, rfl, found, cut⟩
  · rw [absent, cut, String.ofList_toList]
    rfl
  · have digits : (!suffix.isEmpty && (utf8 suffix).all isDigitByte) =
        anonymousDigits suffix.toList := by
      rw [utf8_eq_encoded, all_isDigitByte, anonymousDigits, isEmpty_eq]
    rw [found, cut]
    simp only [sliceFrom_mark (m := '$') (by decide), sliceTo_mark, bind, Except.bind, digits]
    cases anonymousDigits suffix.toList <;> simp [pure, Except.pure, String.append_assoc]

theorem sourceName_eq (t : TypeDescriptor) : sourceName t = .ok t.sourceName := by
  induction t with
  | void => rfl
  | primitive p =>
    rw [sourceName, TypeDescriptor.sourceName, TypeDescriptor.sourceChars, String.ofList_toList]
    rfl
  | object name =>
    rw [sourceName, normalizeSynthetic_eq, String.toList_ofList]
    rfl
  | array element ih =>
    rw [sourceName, ih, TypeDescriptor.sourceName, TypeDescriptor.sourceName,
      TypeDescriptor.sourceChars, String.ofList_append]
    rfl

end ClassAtlas.ByOffset
