import ClassAtlas.Text.Utf8

/-! Decoding gives back what was encoded: in the bytes of a text every character is found
again, and no byte is left that starts none. -/
namespace ClassAtlas.Text

/-- The bytes of a text. -/
def utf8 (text : String) : List UInt8 := text.toUTF8.data.toList

theorem toNat_lt (c : Char) : c.toNat < 0x110000 := by
  have valid := c.valid
  simp only [UInt32.isValidChar, Nat.isValidChar] at valid
  change c.val.toNat < _
  omega

theorem charFrom?_toNat {least : Nat} {c : Char} (long : least ≤ c.toNat) :
    charFrom? least c.toNat = some c := by
  have valid : c.toNat.isValidChar := c.valid
  rw [charFrom?, if_pos long, dif_pos valid]
  exact congrArg some (Char.ext (UInt32.toNat_inj.1 rfl))

theorem continuation?_ofNat {n : Nat} (small : n < 64) :
    continuation? (UInt8.ofNat (n + 128)) = some n := by
  have value : (UInt8.ofNat (n + 128)).toNat = n + 128 := by
    rw [UInt8.toNat_ofNat']
    omega
  rw [continuation?, value]
  simp
  omega

section Lengths
variable {c : Char} {lead p1 p2 p3 : Nat} (rest : List UInt8)

theorem leadingChar?_one (value : lead = c.toNat) (small : lead < 0x80) :
    leadingChar? (UInt8.ofNat lead) rest = some (c, 0) := by
  have byte : (UInt8.ofNat lead).toNat = lead := by
    rw [UInt8.toNat_ofNat']
    omega
  rw [leadingChar?.eq_def, byte]
  dsimp only
  rw [if_pos small, value, charFrom?_toNat (Nat.zero_le _), Option.map_some]

theorem leadingChar?_two (value : lead * 64 + p1 = c.toNat) (long : 0x80 ≤ c.toNat)
    (small : lead < 32) (small1 : p1 < 64) :
    leadingChar? (UInt8.ofNat (lead + 192)) (UInt8.ofNat (p1 + 128) :: rest) = some (c, 1) := by
  have byte : (UInt8.ofNat (lead + 192)).toNat = lead + 192 := by
    rw [UInt8.toNat_ofNat']
    omega
  have below : lead + 192 < 0xE0 := by omega
  rw [leadingChar?, byte, if_neg (by omega), if_neg (by omega), if_pos below]
  simp only [continuation?_ofNat small1, Nat.add_sub_cancel, value, Option.bind_eq_bind,
    Option.bind_some, charFrom?_toNat long, Option.map_some]

theorem leadingChar?_three (value : (lead * 64 + p1) * 64 + p2 = c.toNat)
    (long : 0x800 ≤ c.toNat) (small : lead < 16) (small1 : p1 < 64) (small2 : p2 < 64) :
    leadingChar? (UInt8.ofNat (lead + 224))
      (UInt8.ofNat (p1 + 128) :: UInt8.ofNat (p2 + 128) :: rest) = some (c, 2) := by
  have byte : (UInt8.ofNat (lead + 224)).toNat = lead + 224 := by
    rw [UInt8.toNat_ofNat']
    omega
  have below : lead + 224 < 0xF0 := by omega
  rw [leadingChar?, byte, if_neg (by omega), if_neg (by omega), if_neg (by omega), if_pos below]
  simp only [continuation?_ofNat small1, continuation?_ofNat small2, Nat.add_sub_cancel, value,
    Option.bind_eq_bind, Option.bind_some, charFrom?_toNat long, Option.map_some]

theorem leadingChar?_four (value : ((lead * 64 + p1) * 64 + p2) * 64 + p3 = c.toNat)
    (long : 0x10000 ≤ c.toNat) (small : lead < 8) (small1 : p1 < 64) (small2 : p2 < 64)
    (small3 : p3 < 64) :
    leadingChar? (UInt8.ofNat (lead + 240))
      (UInt8.ofNat (p1 + 128) :: UInt8.ofNat (p2 + 128) :: UInt8.ofNat (p3 + 128) :: rest) =
        some (c, 3) := by
  have byte : (UInt8.ofNat (lead + 240)).toNat = lead + 240 := by
    rw [UInt8.toNat_ofNat']
    omega
  have below : lead + 240 < 0xF8 := by omega
  rw [leadingChar?, byte, if_neg (by omega), if_neg (by omega), if_neg (by omega),
    if_neg (by omega), if_pos below]
  simp only [continuation?_ofNat small1, continuation?_ofNat small2, continuation?_ofNat small3,
    Nat.add_sub_cancel, value, Option.bind_eq_bind, Option.bind_some, charFrom?_toNat long,
    Option.map_some]

end Lengths

/-- The bytes of a character are read in the length in which they are written. -/
theorem leadingChar?_encode (c : Char) (rest : List UInt8) :
    ∃ first others, String.utf8EncodeChar c = first :: others ∧
      leadingChar? first (others ++ rest) = some (c, others.length) := by
  have bound := toNat_lt c
  unfold String.utf8EncodeChar
  simp only [show c.val.toNat = c.toNat from rfl]
  split
  · exact ⟨_, _, rfl, leadingChar?_one rest rfl (by omega)⟩
  · split
    · exact ⟨_, _, rfl, leadingChar?_two rest (by omega) (by omega) (by omega) (by omega)⟩
    · split
      · exact ⟨_, _, rfl, leadingChar?_three rest (by omega) (by omega) (by omega) (by omega)
          (by omega)⟩
      · exact ⟨_, _, rfl, leadingChar?_four rest (by omega) (by omega) (by omega) (by omega)
          (by omega) (by omega)⟩

theorem cellsAfter_append (skipped rest : List UInt8) :
    cellsAfter skipped.length (skipped ++ rest) = cells rest := by
  induction skipped with
  | nil => rfl
  | cons b skipped ih => exact ih

theorem cells_encode_append (c : Char) (rest : List UInt8) :
    cells (String.utf8EncodeChar c ++ rest) = some c :: cells rest := by
  obtain ⟨first, others, encoded, decoded⟩ := leadingChar?_encode c rest
  rw [encoded, List.cons_append, cells, cellsAfter, decoded]
  exact congrArg (some c :: ·) (cellsAfter_append others rest)

theorem cells_flatMap_encode (text : List Char) :
    cells (text.flatMap String.utf8EncodeChar) = text.map some := by
  induction text with
  | nil => rfl
  | cons c rest ih => rw [List.flatMap_cons, cells_encode_append, ih, List.map_cons]

theorem utf8_eq (text : String) : utf8 text = text.toList.flatMap String.utf8EncodeChar := by
  rw [utf8, String.toUTF8_eq_toByteArray, ← text.ofList_toList, String.toByteArray_ofList,
    List.utf8Encode, List.toList_data_toByteArray, String.toList_ofList]

theorem cells_utf8 (text : String) : cells (utf8 text) = text.toList.map some := by
  rw [utf8_eq, cells_flatMap_encode]

end ClassAtlas.Text
