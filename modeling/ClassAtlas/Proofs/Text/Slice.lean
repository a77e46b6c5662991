import ClassAtlas.Proofs.Text.Cut
import ClassAtlas.Proofs.Text.Utf8

/-! Texts by the offsets of their bytes. A slice is a text only if its two offsets are in range and
neither lies inside a character. A search returns the offset at which the bytes of a mark stand.
Bytes of ASCII belong to no longer character, so a mark of ASCII is found by its bytes exactly where
the text is cut at it, and the slices up to the mark and behind it are defined. -/
namespace ClassAtlas.Text

/-- How a computation on offsets breaks down. -/
inductive Breakdown where
  /-- An offset behind the end of the text, or an end before the start. -/
  | outOfRange
  /-- An offset between two bytes of a character. -/
  | insideCharacter
  /-- A loop that goes on after the rounds it was given. -/
  | endless
  deriving DecidableEq

/-- The part of a text between two offsets. -/
def slice (text : String) (start stop : Nat) : Except Breakdown String :=
  if start ≤ stop ∧ stop ≤ text.utf8ByteSize then
    if valid : String.Pos.Raw.IsValid text ⟨start⟩ ∧ String.Pos.Raw.IsValid text ⟨stop⟩ then
      .ok (String.extract ⟨⟨start⟩, valid.1⟩ ⟨⟨stop⟩, valid.2⟩)
    else .error .insideCharacter
  else .error .outOfRange

def sliceTo (text : String) (stop : Nat) : Except Breakdown String :=
  slice text 0 stop

def sliceFrom (text : String) (start : Nat) : Except Breakdown String :=
  slice text start text.utf8ByteSize

/-- The offset at which the bytes of a mark stand first. -/
def firstAmong (mark : List UInt8) : List UInt8 → Option Nat
  | [] => if mark = [] then some 0 else none
  | b :: rest =>
    if mark.isPrefixOf (b :: rest) then some 0 else (firstAmong mark rest).map (· + 1)

/-- The offset at which a byte stands last. -/
def lastAmong (mark : UInt8) : List UInt8 → Option Nat
  | [] => none
  | b :: rest =>
    match lastAmong mark rest with
    | some offset => some (offset + 1)
    | none => if b = mark then some 0 else none

/-- The bytes of characters. -/
def encoded (text : List Char) : List UInt8 :=
  text.flatMap String.utf8EncodeChar

def firstOffset (mark : List Char) (text : String) : Option Nat :=
  firstAmong (encoded mark) (utf8 text)

/-- For marks of ASCII, which are one byte. -/
def lastOffset (mark : Char) (text : String) : Option Nat :=
  lastAmong mark.toUInt8 (utf8 text)

def startsWith (mark : List Char) (text : String) : Bool :=
  (encoded mark).isPrefixOf (utf8 text)

/-- What follows a mark at the start of a text. -/
def sliceAfter (mark : List Char) (text : String) : Except Breakdown (Option String) := do
  if startsWith mark text then return some (← sliceFrom text (encoded mark).length)
  else return none

/-! Slices. -/

theorem utf8ByteSize_slice {text part : String} {start stop : Nat}
    (defined : slice text start stop = .ok part) :
    start ≤ stop ∧ part.utf8ByteSize = stop - start := by
  unfold slice at defined
  split at defined
  · next inRange =>
    split at defined
    · next valid =>
      cases defined
      refine ⟨inRange.1, ?_⟩
      rw [← String.size_toByteArray, String.toByteArray_extract, ByteArray.size_extract]
      exact congrArg (· - start) (Nat.min_eq_left inRange.2)
    · cases defined
  · cases defined

theorem isValid_append (before after : String) :
    String.Pos.Raw.IsValid (before ++ after) ⟨before.utf8ByteSize⟩ :=
  String.Pos.Raw.isValid_iff_exists_append.2 ⟨before, after, rfl, rfl⟩

/-- A part of a text is its slice between the sizes of what stands before and up to its end. -/
theorem slice_append (before middle after : String) :
    slice (before ++ middle ++ after) before.utf8ByteSize
      (before.utf8ByteSize + middle.utf8ByteSize) = .ok middle := by
  have validStart : String.Pos.Raw.IsValid (before ++ middle ++ after) ⟨before.utf8ByteSize⟩ := by
    rw [String.append_assoc]
    exact isValid_append before _
  have validStop : String.Pos.Raw.IsValid (before ++ middle ++ after)
      ⟨before.utf8ByteSize + middle.utf8ByteSize⟩ := by
    rw [← String.utf8ByteSize_append]
    exact isValid_append _ after
  have inRange : before.utf8ByteSize ≤ before.utf8ByteSize + middle.utf8ByteSize ∧
      before.utf8ByteSize + middle.utf8ByteSize ≤ (before ++ middle ++ after).utf8ByteSize := by
    rw [String.utf8ByteSize_append, String.utf8ByteSize_append]
    omega
  have behind : before.toByteArray.extract before.utf8ByteSize
      (before.utf8ByteSize + middle.utf8ByteSize) = ByteArray.empty :=
    ByteArray.extract_eq_empty_iff.2 (Nat.min_le_right _ _)
  have whole : middle.toByteArray.extract 0 middle.utf8ByteSize = middle.toByteArray :=
    ByteArray.extract_zero_size
  rw [slice, if_pos inRange, dif_pos ⟨validStart, validStop⟩]
  apply congrArg Except.ok
  rw [← String.toByteArray_inj, String.toByteArray_extract]
  simp [ByteArray.extract_append, behind, whole]

theorem sliceTo_append (before after : String) :
    sliceTo (before ++ after) before.utf8ByteSize = .ok before := by
  simpa [sliceTo] using slice_append "" before after

theorem sliceFrom_append (before after : String) :
    sliceFrom (before ++ after) before.utf8ByteSize = .ok after := by
  simpa [sliceFrom, String.utf8ByteSize_append] using slice_append before after ""

example : slice "aéb" 1 3 = .ok "é" := rfl
example : slice "aéb" 1 2 = .error .insideCharacter := rfl
example : sliceFrom "aéb" 5 = .error .outOfRange := rfl

/-! Bytes of ASCII. -/

def IsAscii (mark : List Char) : Prop :=
  ∀ c ∈ mark, c.toNat < 0x80

instance (mark : List Char) : Decidable (IsAscii mark) :=
  List.decidableBAll (fun c : Char => c.toNat < 0x80) mark

theorem encode_ascii {c : Char} (ascii : c.toNat < 0x80) :
    String.utf8EncodeChar c = [c.toUInt8] := by
  have small : c.val.toNat ≤ 0x7F := Nat.le_of_lt_succ ascii
  rw [String.utf8EncodeChar, if_pos small]
  congr 1

/-- All bytes of a longer character are outside ASCII. -/
theorem high_of_mem_encode {c : Char} (long : 0x80 ≤ c.toNat) {b : UInt8}
    (inside : b ∈ String.utf8EncodeChar c) : 0x80 ≤ b.toNat := by
  unfold String.utf8EncodeChar at inside
  simp only [show c.val.toNat = c.toNat from rfl] at inside
  -- one case for each length
  split at inside
  · omega
  · split at inside
    · simp only [List.mem_cons, List.not_mem_nil, or_false] at inside
      rcases inside with rfl | rfl <;> rw [UInt8.toNat_ofNat'] <;> omega
    · split at inside <;> simp only [List.mem_cons, List.not_mem_nil, or_false] at inside
      · rcases inside with rfl | rfl | rfl <;> rw [UInt8.toNat_ofNat'] <;> omega
      · rcases inside with rfl | rfl | rfl | rfl <;> rw [UInt8.toNat_ofNat'] <;> omega

theorem toNat_toUInt8 {c : Char} (ascii : c.toNat < 0x80) : c.toUInt8.toNat = c.toNat := by
  change c.val.toNat < 0x80 at ascii
  rw [Char.toUInt8, UInt32.toNat_toUInt8]
  exact Nat.mod_eq_of_lt (by omega)

theorem toUInt8_inj {c d : Char} (ascii : c.toNat < 0x80) (also : d.toNat < 0x80) :
    c.toUInt8 = d.toUInt8 ↔ c = d := by
  rw [← UInt8.toNat_inj, toNat_toUInt8 ascii, toNat_toUInt8 also, Char.toNat_inj]

theorem ne_toUInt8 {b : UInt8} (high : 0x80 ≤ b.toNat) {m : Char} (ascii : m.toNat < 0x80) :
    b ≠ m.toUInt8 := by
  rintro rfl
  rw [toNat_toUInt8 ascii] at high
  omega

theorem ne_of_long {c : Char} (long : 0x80 ≤ c.toNat) {m : Char} (ascii : m.toNat < 0x80) :
    c ≠ m := by
  rintro rfl
  omega

theorem not_mem_encode {m c : Char} (ascii : m.toNat < 0x80) (long : 0x80 ≤ c.toNat) :
    m.toUInt8 ∉ String.utf8EncodeChar c :=
  fun inside => ne_toUInt8 (high_of_mem_encode long inside) ascii rfl

theorem encode_long {c : Char} (long : 0x80 ≤ c.toNat) :
    ∃ first others, String.utf8EncodeChar c = first :: others ∧ 0x80 ≤ first.toNat := by
  obtain ⟨first, others, bytes, _⟩ := leadingChar?_encode c []
  exact ⟨first, others, bytes, high_of_mem_encode long (bytes ▸ List.mem_cons_self)⟩

theorem encoded_cons (c : Char) (rest : List Char) :
    encoded (c :: rest) = String.utf8EncodeChar c ++ encoded rest :=
  List.flatMap_cons

theorem encoded_cons_ascii {c : Char} (ascii : c.toNat < 0x80) (rest : List Char) :
    encoded (c :: rest) = c.toUInt8 :: encoded rest := by
  rw [encoded_cons, encode_ascii ascii, List.singleton_append]

theorem utf8_eq_encoded (text : String) : utf8 text = encoded text.toList :=
  utf8_eq text

theorem length_encoded (text : List Char) :
    (encoded text).length = (String.ofList text).utf8ByteSize := by
  rw [← String.toList_ofList (l := text), ← utf8_eq_encoded, String.toList_ofList]
  rfl

theorem utf8ByteSize_cons {c : Char} (ascii : c.toNat < 0x80) (rest : List Char) :
    (String.ofList (c :: rest)).utf8ByteSize = (String.ofList rest).utf8ByteSize + 1 := by
  rw [← length_encoded, encoded_cons_ascii ascii, List.length_cons, length_encoded]

/-- Whether a mark of ASCII stands at the start of a text can be seen from the bytes. -/
theorem encoded_startsWith_iff {mark : List Char} (ascii : IsAscii mark) {text : List Char} :
    encoded mark <+: encoded text ↔ mark <+: text := by
  induction mark generalizing text with
  | nil => simp [encoded]
  | cons m mark ih =>
    obtain ⟨asciiHere, asciiRest⟩ := List.forall_mem_cons.1 ascii
    rw [encoded_cons_ascii asciiHere]
    cases text with
    | nil => simp [encoded]
    | cons c rest =>
      rw [List.cons_prefix_cons]
      rcases Nat.lt_or_ge c.toNat 0x80 with short | long
      · rw [encoded_cons_ascii short, List.cons_prefix_cons, ih asciiRest,
          toUInt8_inj asciiHere short]
      · obtain ⟨first, others, bytes, high⟩ := encode_long long
        have differ : m.toUInt8 ≠ first := (ne_toUInt8 high asciiHere).symm
        have alsoDiffer : m ≠ c := (ne_of_long long asciiHere).symm
        simp [encoded_cons, bytes, List.cons_prefix_cons, differ, alsoDiffer]

/-! Searches. -/

/-- A search goes past bytes with which the mark does not start. -/
theorem firstAmong_append {m : UInt8} {mark front : List UInt8} (absent : m ∉ front)
    (bytes : List UInt8) :
    firstAmong (m :: mark) (front ++ bytes) =
      (firstAmong (m :: mark) bytes).map (· + front.length) := by
  induction front with
  | nil => simp
  | cons b front ih =>
    rw [List.mem_cons, not_or] at absent
    have later : ¬ (m :: mark).isPrefixOf (b :: (front ++ bytes)) := by
      simp [absent.1]
    rw [List.cons_append, firstAmong, if_neg later, ih absent.2, Option.map_map]
    rfl

theorem lastAmong_append {m : UInt8} {front : List UInt8} (absent : m ∉ front)
    (bytes : List UInt8) :
    lastAmong m (front ++ bytes) = (lastAmong m bytes).map (· + front.length) := by
  induction front with
  | nil => simp
  | cons b front ih =>
    rw [List.mem_cons, not_or] at absent
    rw [List.cons_append, lastAmong, ih absent.2]
    cases lastAmong m bytes <;> simp [Ne.symm absent.1, Nat.add_assoc]

section First
variable {m : Char} {mark : List Char} (ascii : IsAscii (m :: mark))
include ascii

theorem firstAmong_here {text : List Char} (stands : m :: mark <+: text) :
    firstAmong (encoded (m :: mark)) (encoded text) = some 0 := by
  have bytes := (encoded_startsWith_iff ascii).2 stands
  cases glued : encoded text with
  | nil =>
    rw [glued, encoded_cons_ascii (ascii m List.mem_cons_self), List.prefix_nil] at bytes
    cases bytes
  | cons b rest =>
    rw [glued] at bytes
    rw [firstAmong, if_pos (List.isPrefixOf_iff_prefix.2 bytes)]

theorem firstAmong_later {c : Char} {rest : List Char}
    (absent : ¬ m :: mark <+: c :: rest) :
    firstAmong (encoded (m :: mark)) (encoded (c :: rest)) =
      (firstAmong (encoded (m :: mark)) (encoded rest)).map
        (· + (String.utf8EncodeChar c).length) := by
  have here : m.toNat < 0x80 := ascii m List.mem_cons_self
  rcases Nat.lt_or_ge c.toNat 0x80 with short | long
  · have notBytes := mt (encoded_startsWith_iff ascii).1 absent
    rw [encoded_cons_ascii short] at notBytes ⊢
    rw [firstAmong, if_neg (mt List.isPrefixOf_iff_prefix.1 notBytes), encode_ascii short]
    rfl
  · rw [encoded_cons c, encoded_cons_ascii here]
    exact firstAmong_append (not_mem_encode here long) _

/-- The bytes of a mark stand first where the text is cut at it. -/
theorem firstAmong_encoded (text : List Char) :
    firstAmong (encoded (m :: mark)) (encoded text) =
      (cutAt (m :: mark) text).map fun parts => (encoded parts.1).length := by
  induction text with
  | nil =>
    rw [encoded_cons_ascii (ascii m List.mem_cons_self)]
    rfl
  | cons c rest ih =>
    rw [cutAt]
    by_cases stands : m :: mark <+: c :: rest
    · rw [firstAmong_here ascii stands, if_pos (List.isPrefixOf_iff_prefix.2 stands)]
      rfl
    · rw [firstAmong_later ascii stands, ih,
        if_neg (mt List.isPrefixOf_iff_prefix.1 stands), Option.map_map, Option.map_map]
      congr 1
      funext parts
      simp only [Function.comp_apply, encoded_cons, List.length_append, Nat.add_comm]

end First

theorem lastAmong_encoded {m : Char} (ascii : m.toNat < 0x80) (text : List Char) :
    lastAmong m.toUInt8 (encoded text) =
      (cutLast m text).map fun parts => (encoded parts.1).length := by
  induction text with
  | nil => rfl
  | cons c rest ih =>
    rw [cutLast]
    rcases Nat.lt_or_ge c.toNat 0x80 with short | long
    · rw [encoded_cons_ascii short, lastAmong, ih]
      cases cutLast m rest with
      | some parts => simp [encoded_cons_ascii short]
      | none => by_cases same : c = m <;> simp [same, toUInt8_inj short ascii, encoded]
    · have differ : c ≠ m := ne_of_long long ascii
      rw [encoded_cons, lastAmong_append (not_mem_encode ascii long), ih]
      cases cutLast m rest <;> simp [differ, encoded_cons, Nat.add_comm]

/-! What is found is cut out by slices. -/

theorem cutAt_singleton (mark : Char) (text : List Char) :
    cutAt [mark] text = cutFirst mark text := by
  induction text with
  | nil => rfl
  | cons c rest ih =>
    rw [cutAt, cutFirst, ih]
    by_cases same : c = mark
    · simp [same]
    · simp [same, Ne.symm same]

theorem ofList_of_cutFirst {mark : Char} {text before after : List Char}
    (cut : cutFirst mark text = some (before, after)) :
    String.ofList text = String.ofList before ++ String.ofList (mark :: after) := by
  rw [← String.ofList_append, ← cutFirst_eq cut]

/-- An offset that was found is the size of what stands before the mark. -/
theorem offset_cases {text : String} {mark : List Char} {offset : Option Nat}
    {cut : Option (List Char × List Char)}
    (found : offset = cut.map fun parts => (encoded parts.1).length)
    (glued : ∀ parts, cut = some parts → text.toList = parts.1 ++ mark ++ parts.2) :
    (offset = none ∧ cut = none) ∨
      ∃ before after : String, text = before ++ String.ofList mark ++ after ∧
        offset = some before.utf8ByteSize ∧ cut = some (before.toList, after.toList) := by
  cases cut with
  | none => exact .inl ⟨found, rfl⟩
  | some parts =>
    refine .inr ⟨String.ofList parts.1, String.ofList parts.2, ?_, ?_, ?_⟩
    · rw [← String.toList_inj, glued parts rfl]
      simp
    · rw [found, Option.map_some, length_encoded]
    · rw [String.toList_ofList, String.toList_ofList]

theorem firstOffset_cases {m : Char} {mark : List Char} (ascii : IsAscii (m :: mark))
    (text : String) :
    (firstOffset (m :: mark) text = none ∧ cutAt (m :: mark) text.toList = none) ∨
      ∃ before after : String, text = before ++ String.ofList (m :: mark) ++ after ∧
        firstOffset (m :: mark) text = some before.utf8ByteSize ∧
        cutAt (m :: mark) text.toList = some (before.toList, after.toList) := by
  apply offset_cases
  · rw [firstOffset, utf8_eq_encoded, firstAmong_encoded ascii]
  · exact fun parts cut => cutAt_eq cut

theorem lastOffset_cases {m : Char} (ascii : m.toNat < 0x80) (text : String) :
    (lastOffset m text = none ∧ cutLast m text.toList = none) ∨
      ∃ before after : String, text = before ++ String.ofList [m] ++ after ∧
        lastOffset m text = some before.utf8ByteSize ∧
        cutLast m text.toList = some (before.toList, after.toList) := by
  apply offset_cases
  · rw [lastOffset, utf8_eq_encoded, lastAmong_encoded ascii]
  · intro parts cut
    rw [cutLast_eq cut, List.append_assoc, List.singleton_append]

theorem firstOffset_singleton {m : Char} (ascii : m.toNat < 0x80) (text : String) :
    firstOffset [m] text =
      (cutFirst m text.toList).map fun parts => (String.ofList parts.1).utf8ByteSize := by
  have asciiMark : IsAscii [m] := List.forall_mem_singleton.2 ascii
  rw [firstOffset, utf8_eq_encoded, firstAmong_encoded asciiMark, cutAt_singleton]
  simp only [length_encoded]

theorem sliceTo_mark (before mark after : String) :
    sliceTo (before ++ mark ++ after) before.utf8ByteSize = .ok before := by
  rw [String.append_assoc]
  exact sliceTo_append before _

theorem sliceFrom_mark {m : Char} (ascii : m.toNat < 0x80) (before after : String) :
    sliceFrom (before ++ String.ofList [m] ++ after) (before.utf8ByteSize + 1) = .ok after := by
  have size : (before ++ String.ofList [m]).utf8ByteSize = before.utf8ByteSize + 1 := by
    rw [String.utf8ByteSize_append, utf8ByteSize_cons ascii]
    rfl
  rw [← size]
  exact sliceFrom_append _ after

section After
variable {mark : List Char} (ascii : IsAscii mark)
include ascii

theorem startsWith_iff {text : String} : startsWith mark text ↔ mark <+: text.toList := by
  rw [startsWith, List.isPrefixOf_iff_prefix, utf8_eq_encoded, encoded_startsWith_iff ascii]

theorem sliceAfter_append (after : String) :
    sliceAfter mark (String.ofList mark ++ after) = .ok (some after) := by
  have stands : startsWith mark (String.ofList mark ++ after) := by
    rw [startsWith_iff ascii, String.toList_append, String.toList_ofList]
    exact List.prefix_append mark _
  rw [sliceAfter, if_pos stands, length_encoded, sliceFrom_append]
  rfl

theorem sliceAfter_of_absent {text : String} (absent : ¬ mark <+: text.toList) :
    sliceAfter mark text = .ok none := by
  rw [← startsWith_iff ascii] at absent
  rw [sliceAfter, if_neg absent]
  rfl

end After

theorem isEmpty_eq (text : String) : text.isEmpty = text.toList.isEmpty := by
  rw [Bool.eq_iff_iff, String.isEmpty_iff, List.isEmpty_iff, String.toList_eq_nil_iff]

end ClassAtlas.Text
