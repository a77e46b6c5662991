import ClassAtlas.Text.Utf8

/-! Where bytes can be cut without a change to their characters. A byte of ASCII is a character
of its own and belongs to no other one, so what stands before it and what stands behind it are
decoded alone. -/
namespace ClassAtlas.Text

theorem of_charFrom? {least n : Nat} {c : Char} (found : charFrom? least n = some c) :
    c.toNat = n ∧ least ≤ n := by
  by_cases long : least ≤ n
  · by_cases valid : n.isValidChar
    · rw [charFrom?, if_pos long, dif_pos valid] at found
      cases found
      exact ⟨rfl, long⟩
    · rw [charFrom?, if_pos long, dif_neg valid] at found
      cases found
  · rw [charFrom?, if_neg long] at found
    cases found

theorem of_continuation? {b : UInt8} {n : Nat} (found : continuation? b = some n) :
    0x80 ≤ b.toNat := by
  unfold continuation? at found
  split at found
  · next inside => exact of_decide_eq_true (Bool.and_eq_true_iff.1 inside).1
  · cases found

/-- What it takes to be read as a character of several bytes: a code point that is not of ASCII,
and bytes of at least 0x80 behind the first one. -/
theorem of_longChar {least value n : Nat} {c : Char} (others tail : List UInt8)
    (long : 0x80 ≤ least) (high : ∀ other ∈ others, 0x80 ≤ other.toNat)
    (found : (charFrom? least value).map (·, others.length) = some (c, n)) :
    0x80 ≤ c.toNat ∧ ∃ behind more, others ++ tail = behind ++ more ∧ behind.length = n ∧
      ∀ other ∈ behind, 0x80 ≤ other.toNat := by
  obtain ⟨d, read, same⟩ := Option.map_eq_some_iff.1 found
  cases same
  have large := of_charFrom? read
  exact ⟨by omega, others, tail, rfl, rfl, high⟩

/-- A character of ASCII is its byte, and every byte behind the first of any other one is at
least 0x80. -/
theorem of_leadingChar? {b : UInt8} {rest : List UInt8} {c : Char} {n : Nat}
    (found : leadingChar? b rest = some (c, n)) :
    (n = 0 ∧ b.toNat = c.toNat ∧ c.toNat < 0x80) ∨
      (0x80 ≤ c.toNat ∧ ∃ others tail, rest = others ++ tail ∧ others.length = n ∧
        ∀ other ∈ others, 0x80 ≤ other.toNat) := by
  unfold leadingChar? at found
  dsimp only at found
  split at found
  · next small =>
    obtain ⟨d, read, same⟩ := Option.map_eq_some_iff.1 found
    cases same
    obtain ⟨value, _⟩ := of_charFrom? read
    exact .inl ⟨rfl, value.symm, by omega⟩
  · right
    split at found
    · cases found
    · split at found
      · split at found
        · next b1 tail =>
          obtain ⟨_, read1, found⟩ := Option.bind_eq_some_iff.1 found
          exact of_longChar [b1] tail (by decide) (by simp [of_continuation? read1]) found
        · cases found
      · split at found
        · split at found
          · next b1 b2 tail =>
            obtain ⟨_, read1, found⟩ := Option.bind_eq_some_iff.1 found
            obtain ⟨_, read2, found⟩ := Option.bind_eq_some_iff.1 found
            exact of_longChar [b1, b2] tail (by decide)
              (by simp [of_continuation? read1, of_continuation? read2]) found
          · cases found
        · split at found
          · split at found
            · next b1 b2 b3 tail =>
              obtain ⟨_, read1, found⟩ := Option.bind_eq_some_iff.1 found
              obtain ⟨_, read2, found⟩ := Option.bind_eq_some_iff.1 found
              obtain ⟨_, read3, found⟩ := Option.bind_eq_some_iff.1 found
              exact of_longChar [b1, b2, b3] tail (by decide)
                (by simp [of_continuation? read1, of_continuation? read2, of_continuation? read3])
                found
            · cases found
          · cases found

section Ascii
variable {z : UInt8} (ascii : z.toNat < 0x80)
include ascii

theorem continuation?_of_ascii : continuation? z = none := by
  simp [continuation?]
  omega

/-- Where a byte of ASCII stands, no encoding reaches over it. -/
theorem leadingChar?_append_ascii (b : UInt8) (front more : List UInt8) :
    leadingChar? b (front ++ z :: more) = leadingChar? b (front ++ [z]) := by
  have stops := continuation?_of_ascii ascii
  unfold leadingChar?
  match front, more with
  | [], [] => rfl
  | [], [b2] => simp [stops]
  | [], b2 :: b3 :: more => simp [stops]
  | [b1], [] => rfl
  | [b1], b3 :: more => simp [stops]
  | [b1, b2], more => simp
  | b1 :: b2 :: b3 :: front, more => simp

theorem extent_leadingChar? {b : UInt8} {front more : List UInt8} {c : Char} {n : Nat}
    (found : leadingChar? b (front ++ z :: more) = some (c, n)) : n ≤ front.length := by
  rcases of_leadingChar? found with ⟨rfl, _⟩ | ⟨_, others, tail, glued, rfl, high⟩
  · exact Nat.zero_le _
  · rcases Nat.lt_or_ge front.length others.length with long | within
    · have here : (front ++ z :: more)[front.length]? = some z := by simp
      rw [glued, List.getElem?_append_left long] at here
      have := high z (List.mem_of_getElem? here)
      omega
    · exact within

theorem charFrom?_ascii : ∃ c, charFrom? 0 z.toNat = some c := by
  have valid : z.toNat.isValidChar := .inl (by omega)
  exact ⟨_, by rw [charFrom?, if_pos (Nat.zero_le _), dif_pos valid]⟩

theorem cellsAfter_append_ascii {skip : Nat} (front more : List UInt8) (room : skip ≤ front.length) :
    cellsAfter skip (front ++ z :: more) = cellsAfter skip (front ++ [z]) ++ cells more := by
  induction front generalizing skip with
  | nil =>
    obtain rfl : skip = 0 := Nat.le_zero.1 room
    obtain ⟨c, read⟩ := charFrom?_ascii ascii
    have alone (rest : List UInt8) : leadingChar? z rest = some (c, 0) := by
      rw [leadingChar?.eq_def]
      dsimp only
      rw [if_pos ascii, read]
      rfl
    simp [cellsAfter, alone, cells]
  | cons b front ih =>
    cases skip with
    | succ skip => exact ih (Nat.le_of_succ_le_succ room)
    | zero =>
      rw [List.cons_append, List.cons_append, cellsAfter, cellsAfter,
        leadingChar?_append_ascii ascii b front more]
      cases found : leadingChar? b (front ++ [z]) with
      | none => exact congrArg (none :: ·) (ih (Nat.zero_le _))
      | some part => exact congrArg (some part.1 :: ·) (ih (extent_leadingChar? ascii found))

end Ascii

theorem cells_append_ascii {bytes : List UInt8} {z : UInt8} (last : bytes.getLast? = some z)
    (ascii : z.toNat < 0x80) (more : List UInt8) : cells (bytes ++ more) = cells bytes ++ cells more := by
  obtain ⟨front, rfl⟩ := List.getLast?_eq_some_iff.1 last
  rw [List.append_assoc]
  exact cellsAfter_append_ascii ascii front more (Nat.zero_le _)

theorem eq_nil_of_cells {bytes : List UInt8} (nothing : cells bytes = []) : bytes = [] := by
  cases bytes with
  | nil => rfl
  | cons b rest =>
    rw [cells, cellsAfter] at nothing
    split at nothing <;> cases nothing

/-- A text that ends in a character of ASCII ends in a byte of ASCII. -/
theorem getLast?_of_cellsAfter {skip : Nat} {bytes : List UInt8} {c : Char} (small : c.toNat < 0x80)
    (last : (cellsAfter skip bytes).getLast? = some (some c)) :
    ∃ z, bytes.getLast? = some z ∧ z.toNat < 0x80 := by
  induction bytes generalizing skip with
  | nil => cases last
  | cons b rest ih =>
    have behind {n : Nat} (inside : (cellsAfter n rest).getLast? = some (some c)) :
        ∃ z, (b :: rest).getLast? = some z ∧ z.toNat < 0x80 := by
      obtain ⟨z, found, ascii⟩ := ih inside
      exact ⟨z, by rw [List.getLast?_cons, found]; rfl, ascii⟩
    cases skip with
    | succ skip => exact behind last
    | zero =>
      rw [cellsAfter] at last
      split at last
      · next d n found =>
        rw [List.getLast?_cons] at last
        cases inside : (cellsAfter n rest).getLast? with
        | some cell =>
          rw [inside] at last
          exact behind (inside.trans last)
        | none =>
          rw [inside] at last
          cases last
          rcases of_leadingChar? found with ⟨rfl, value, _⟩ | ⟨high, _⟩
          · obtain rfl := eq_nil_of_cells (List.getLast?_eq_none_iff.1 inside)
            exact ⟨b, rfl, by omega⟩
          · omega
      · rw [List.getLast?_cons] at last
        cases inside : (cellsAfter 0 rest).getLast? with
        | some cell =>
          rw [inside] at last
          exact behind (inside.trans last)
        | none =>
          rw [inside] at last
          cases last

end ClassAtlas.Text
