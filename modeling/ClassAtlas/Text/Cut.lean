/-! Texts are cut at marks. A cut drops the mark and returns what stands before
and after it, so that gluing the three parts gives the text back; a cut at the
first mark leaves none before it, a cut at the last leaves none after it. -/
namespace ClassAtlas.Text

/-- Cut at the first `mark`. -/
def cutFirst (mark : Char) : List Char → Option (List Char × List Char)
  | [] => none
  | c :: rest =>
    if c = mark then some ([], rest)
    else (cutFirst mark rest).map fun parts => (c :: parts.1, parts.2)

/-- Cut at the last `mark`. -/
def cutLast (mark : Char) : List Char → Option (List Char × List Char)
  | [] => none
  | c :: rest =>
    match cutLast mark rest with
    | some parts => some (c :: parts.1, parts.2)
    | none => if c = mark then some ([], rest) else none

/-- Cut at the first place where the whole text `mark` stands. -/
def cutAt (mark : List Char) : List Char → Option (List Char × List Char)
  | [] => if mark = [] then some ([], []) else none
  | c :: rest =>
    if mark.isPrefixOf (c :: rest) then some ([], (c :: rest).drop mark.length)
    else (cutAt mark rest).map fun parts => (c :: parts.1, parts.2)

/-- Cut at every `mark`. -/
def pieces (mark : Char) : List Char → List (List Char)
  | [] => [[]]
  | c :: rest =>
    if c = mark then [] :: pieces mark rest
    else
      match pieces mark rest with
      | [] => [[c]]
      | first :: others => (c :: first) :: others

/-- Whether `needle` stands somewhere in `text`. -/
def occursIn (needle text : List Char) : Bool :=
  (cutAt needle text).isSome

theorem pieces_ne_nil (mark : Char) (text : List Char) : pieces mark text ≠ [] := by
  cases text with
  | nil => simp [pieces]
  | cons c rest =>
    unfold pieces
    split
    · simp
    · split <;> simp

theorem intercalate_pieces (mark : Char) (text : List Char) :
    [mark].intercalate (pieces mark text) = text := by
  induction text with
  | nil => rfl
  | cons c rest ih =>
    obtain ⟨first, others, cut⟩ := List.exists_cons_of_ne_nil (pieces_ne_nil mark rest)
    rw [cut] at ih
    unfold pieces
    rw [cut]
    split
    · next same => rw [same, ← ih]; rfl
    · rw [← ih]
      cases others <;> rfl

theorem cutFirst_eq {mark : Char} {text before after : List Char}
    (h : cutFirst mark text = some (before, after)) : text = before ++ mark :: after := by
  induction text generalizing before with
  | nil => simp [cutFirst] at h
  | cons c rest ih =>
    unfold cutFirst at h
    split at h
    · next same => cases h; simp [same]
    · obtain ⟨parts, found, same⟩ := Option.map_eq_some_iff.1 h
      cases same
      rw [ih found, List.cons_append]

theorem cutFirst_length {mark : Char} {text before after : List Char}
    (h : cutFirst mark text = some (before, after)) : after.length < text.length := by
  rw [cutFirst_eq h]
  simp
  omega

theorem not_mem_cutFirst {mark : Char} {text before after : List Char}
    (h : cutFirst mark text = some (before, after)) : mark ∉ before := by
  induction text generalizing before with
  | nil => simp [cutFirst] at h
  | cons c rest ih =>
    unfold cutFirst at h
    split at h
    · cases h; simp
    · next differs =>
      obtain ⟨parts, found, same⟩ := Option.map_eq_some_iff.1 h
      cases same
      simpa [Ne.symm differs] using ih found

theorem cutLast_eq {mark : Char} {text before after : List Char}
    (h : cutLast mark text = some (before, after)) : text = before ++ mark :: after := by
  induction text generalizing before with
  | nil => simp [cutLast] at h
  | cons c rest ih =>
    unfold cutLast at h
    split at h
    · next parts found => cases h; rw [ih found, List.cons_append]
    · split at h
      · next same => cases h; simp [same]
      · cases h

theorem cutAt_eq {mark text before after : List Char}
    (h : cutAt mark text = some (before, after)) : text = before ++ mark ++ after := by
  induction text generalizing before with
  | nil =>
    unfold cutAt at h
    split at h
    · next empty => cases h; simp [empty]
    · cases h
  | cons c rest ih =>
    unfold cutAt at h
    split at h
    · next stands =>
      cases h
      obtain ⟨tail, glued⟩ := List.isPrefixOf_iff_prefix.1 stands
      rw [← glued]
      simp
    · obtain ⟨parts, found, same⟩ := Option.map_eq_some_iff.1 h
      cases same
      rw [ih found, List.cons_append, List.cons_append]

/-! Blanks are the characters with the Unicode property `White_Space`. A text is
trimmed of them at either end. -/

/-- The property `White_Space`, by code point. -/
def isBlank (c : Char) : Bool :=
  let n := c.toNat
  (9 ≤ n && n ≤ 13) || n == 0x20 || n == 0x85 || n == 0xA0 || n == 0x1680 ||
    (0x2000 ≤ n && n ≤ 0x200A) || n == 0x2028 || n == 0x2029 || n == 0x202F ||
    n == 0x205F || n == 0x3000

/-- The text without blanks at its start and at its end. -/
def trimBlanks (text : List Char) : List Char :=
  ((text.dropWhile isBlank).reverse.dropWhile isBlank).reverse

def trim (text : String) : String :=
  String.ofList (trimBlanks text.toList)

end ClassAtlas.Text
