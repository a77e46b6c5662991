import ClassAtlas.Json.Reader
import Mathlib.Data.List.TakeWhile

/-! The tokens of a written JSON value. In the compact and in the indented text each value is
read as the tokens that spell it, as long as what follows closes it: a word goes on until a
mark, a blank or the end of the text, and a string ends at the first quotation mark that is
not escaped. -/
namespace ClassAtlas.Json

open Document Text

def characters (text : List Char) : List Cell := text.map some

@[simp] theorem characters_nil : characters [] = [] := rfl

@[simp] theorem characters_append (first second : List Char) :
    characters (first ++ second) = characters first ++ characters second := List.map_append

@[simp] theorem characters_cons (c : Char) (rest : List Char) :
    characters (c :: rest) = some c :: characters rest := rfl

/-- A number in digits, as what can be read from it. -/
def numberScalar (n : Nat) : Scalar :=
  ⟨NumberText.found ⟨false, Nat.toDigits 10 n, none, none⟩, none, .ok false, false⟩

mutual

/-- The tokens that spell a value. -/
def spelled : Json → List Token
  | null => [.word nullScalar]
  | bool b => [.word (Scalar.plain (.boolean b))]
  | number n => [.word (numberScalar n)]
  | string s => [.string (textScalar s)]
  | array items => .openList :: spelledItems items ++ [.closeList]
  | object members => .openRecord :: spelledMembers members ++ [.closeRecord]

def spelledItems : List Json → List Token
  | [] => []
  | [item] => spelled item
  | item :: next :: rest => spelled item ++ .comma :: spelledItems (next :: rest)

def spelledMembers : List (String × Json) → List Token
  | [] => []
  | [(key, value)] => .string (textScalar key) :: .colon :: spelled value
  | (key, value) :: next :: rest =>
    .string (textScalar key) :: .colon :: spelled value ++ .comma :: spelledMembers (next :: rest)

end

theorem lex_cons (mode : Mode) (cell : Cell) (rest : List Cell) :
    lex mode (cell :: rest) = (lexStep mode cell).2 ++ lex (lexStep mode cell).1 rest := rfl

theorem lexStep_between (cell : Cell) : lexStep .between cell = betweenStep .between cell := rfl

theorem lexStep_word (soFar : List Char) (cell : Cell) :
    lexStep (.word soFar) cell = betweenStep (.word soFar) cell := rfl

/-! Strings. -/

section Strings
variable (soFar : List Piece) (rest : List Cell)

theorem hexDigit?_digitChar : ∀ d < 16, hexDigit? (Nat.digitChar d) = some d := by
  decide

theorem ofUnit_toNat (c : Char) : Piece.ofUnit c.toNat = .char c := by
  have valid : c.toNat.isValidChar := c.valid
  rw [Piece.ofUnit, dif_pos valid]
  exact congrArg Piece.char (Char.ext (UInt32.toNat_inj.1 rfl))

theorem lex_unicode {c : Char} (control : c.toNat < 0x20) :
    lex (.string soFar) (characters ['\\', 'u', '0', '0', Nat.digitChar (c.toNat / 16),
      Nat.digitChar (c.toNat % 16)] ++ rest) = lex (.string (.char c :: soFar)) rest := by
  have high := hexDigit?_digitChar (c.toNat / 16) (by omega)
  have low := hexDigit?_digitChar (c.toNat % 16) (by omega)
  have zero : hexDigit? '0' = some 0 := rfl
  have glued : 16 * (c.toNat / 16) + c.toNat % 16 = c.toNat := by omega
  simp [lex_cons, lexStep, zero, high, low, glued, ofUnit_toNat, characters]

theorem lex_escape (c : Char) :
    lex (.string soFar) (characters (escape c) ++ rest) =
      lex (.string (.char c :: soFar)) rest := by
  unfold escape
  split_ifs with quote backslash back tab line form carriage control
  · rw [quote]; rfl
  · rw [backslash]; rfl
  · rw [back]; rfl
  · rw [tab]; rfl
  · rw [line]; rfl
  · rw [form]; rfl
  · rw [carriage]; rfl
  · exact lex_unicode soFar rest control
  · simp [characters, lex_cons, lexStep, quote, backslash, control]

/-- The contents of a string are read character by character, however they are escaped. -/
theorem lex_contents (text : List Char) :
    lex (.string soFar) (characters (text.flatMap escape) ++ rest) =
      lex (.string ((text.map Piece.char).reverse ++ soFar)) rest := by
  induction text generalizing soFar with
  | nil => rfl
  | cons c text ih =>
    rw [List.flatMap_cons, characters_append, List.append_assoc, lex_escape, ih]
    simp

theorem join?_map_char (text : List Char) : join? (text.map Piece.char) = some text := by
  induction text with
  | nil => rfl
  | cons c text ih => rw [List.map_cons, join?, ih]; rfl

theorem stringScalar_map_char (s : String) :
    stringScalar (s.toList.map Piece.char) = textScalar s := by
  simp only [stringScalar, join?_map_char, String.ofList_toList]

theorem lex_quote (s : String) :
    lex .between (characters (quote s) ++ rest) = .string (textScalar s) :: lex .between rest := by
  have closed : lex (.string (s.toList.map Piece.char).reverse) (some '\x22' :: rest) =
      .string (stringScalar (s.toList.map Piece.char)) :: lex .between rest := by
    rw [lex_cons]
    simp [lexStep]
  have opened : lex .between (characters (quote s) ++ rest) =
      lex (.string []) (characters (s.toList.flatMap escape) ++ some '\x22' :: rest) := by
    simp [quote, lex_cons, lexStep, betweenStep, flush, characters]
  rw [opened, lex_contents, List.append_nil, closed, stringScalar_map_char]

end Strings

/-! Words. -/

/-- What may follow a word. -/
inductive Closes : List Cell → Prop where
  | ending : Closes []
  | mark {c : Char} {token : Token} (marks : mark? c = some token) (rest : List Cell) :
      Closes (some c :: rest)
  | space {c : Char} (blank : isSpace c = true) (rest : List Cell) : Closes (some c :: rest)

structure IsWordChar (c : Char) : Prop where
  quote : c ≠ '\x22'
  space : isSpace c = false
  mark : mark? c = none

theorem IsWordChar.of_isAlphanum {c : Char} (plain : c.isAlphanum = true) : IsWordChar c where
  quote := by
    rintro rfl
    cases plain
  space := by
    simp only [isSpace, Bool.or_eq_false_iff, decide_eq_false_iff_not]
    refine ⟨⟨⟨?_, ?_⟩, ?_⟩, ?_⟩ <;>
    · rintro rfl
      cases plain
  mark := by
    unfold mark?
    split
    case h_7 => rfl
    all_goals cases plain

section Words
variable {c : Char} {token : Token} {word soFar : List Char} {rest : List Cell}

theorem ne_quote_of_mark (marks : mark? c = some token) : c ≠ '\x22' := by
  rintro rfl
  cases marks

theorem isSpace_of_mark (marks : mark? c = some token) : isSpace c = false := by
  unfold mark? at marks
  split at marks
  case h_7 => cases marks
  all_goals rfl

/-- Outside strings a mark ends what came before it and stands for itself. -/
theorem betweenStep_mark (mode : Mode) (marks : mark? c = some token) :
    betweenStep mode (some c) = (.between, flush mode ++ [token]) := by
  unfold betweenStep
  simp only [ne_quote_of_mark marks, isSpace_of_mark marks, Bool.false_eq_true, if_false, marks]

theorem lex_mark (marks : mark? c = some token) (rest : List Cell) :
    lex .between (some c :: rest) = token :: lex .between rest := by
  rw [lex_cons, lexStep_between, betweenStep_mark .between marks]
  rfl

theorem ne_quote_of_isSpace (blank : isSpace c = true) : c ≠ '\x22' := by
  rintro rfl
  cases blank

theorem betweenStep_space (mode : Mode) (blank : isSpace c = true) :
    betweenStep mode (some c) = (.between, flush mode) := by
  unfold betweenStep
  simp only [ne_quote_of_isSpace blank, blank, if_true, if_false]

theorem lex_space (blank : isSpace c = true) (rest : List Cell) :
    lex .between (some c :: rest) = lex .between rest := by
  rw [lex_cons, lexStep_between, betweenStep_space .between blank]
  rfl

theorem lex_word_closes (closes : Closes rest) :
    lex (.word soFar) rest = wordTokens soFar.reverse ++ lex .between rest := by
  cases closes with
  | ending => exact (List.append_nil _).symm
  | mark marks rest =>
    rw [lex_mark marks, lex_cons, lexStep_word, betweenStep_mark (.word soFar) marks]
    simp [flush]
  | space blank rest =>
    rw [lex_space blank, lex_cons, lexStep_word, betweenStep_space (.word soFar) blank]
    rfl

theorem betweenStep_word (plain : IsWordChar c) :
    betweenStep (.word soFar) (some c) = (.word (c :: soFar), []) := by
  unfold betweenStep
  simp only [plain.quote, plain.space, Bool.false_eq_true, if_false, plain.mark]

theorem betweenStep_between (plain : IsWordChar c) :
    betweenStep .between (some c) = (.word [c], []) := by
  unfold betweenStep
  simp only [plain.quote, plain.space, Bool.false_eq_true, if_false, plain.mark]

theorem lex_word (plain : ∀ c ∈ word, IsWordChar c) (closes : Closes rest) :
    lex (.word soFar) (characters word ++ rest) =
      wordTokens (soFar.reverse ++ word) ++ lex .between rest := by
  induction word generalizing soFar with
  | nil =>
    rw [List.append_nil]
    exact lex_word_closes closes
  | cons c word ih =>
    obtain ⟨here, others⟩ := List.forall_mem_cons.mp plain
    rw [characters_cons, List.cons_append, lex_cons, lexStep_word, betweenStep_word here,
      List.nil_append, ih others]
    simp

/-- A word is read up to what closes it. -/
theorem lex_between_word (nonempty : word ≠ []) (plain : ∀ c ∈ word, IsWordChar c)
    (closes : Closes rest) :
    lex .between (characters word ++ rest) = wordTokens word ++ lex .between rest := by
  cases word with
  | nil => exact absurd rfl nonempty
  | cons c word =>
    obtain ⟨here, others⟩ := List.forall_mem_cons.mp plain
    rw [characters_cons, List.cons_append, lex_cons, lexStep_between, betweenStep_between here,
      List.nil_append, lex_word others closes]
    rfl

end Words

/-! Numbers. -/

section Numbers
variable (n : Nat)

theorem digitChar_ne_zero : ∀ d < 10, 0 < d → Nat.digitChar d ≠ '0' := by
  decide

/-- Only zero itself is written with a zero in front. -/
theorem head?_toDigits (positive : 0 < n) : (Nat.toDigits 10 n).head? ≠ some '0' := by
  induction n using Nat.strongRecOn with
  | ind n ih =>
    by_cases small : n < 10
    · rw [Nat.toDigits_of_lt_base small, List.head?_cons]
      exact fun zero => digitChar_ne_zero n small positive (Option.some.inj zero)
    · -- All digits but the last are those of `n / 10`, and that is positive again.
      have front : (Nat.toDigits 10 n).head? = (Nat.toDigits 10 (n / 10)).head? := by
        rw [Nat.toDigits_of_base_le (by decide) (by omega), List.head?_append,
          Option.or_of_isSome (List.isSome_head?.mpr Nat.toDigits_ne_nil)]
      rw [front]
      exact ih (n / 10) (by omega) (by omega)

theorem isDigit_of_mem_toDigits : ∀ c ∈ Nat.toDigits 10 n, c.isDigit = true := fun _ inside =>
  Nat.isDigit_of_mem_toDigits (by decide) (by decide) inside

theorem toDigits_ne_cons {c : Char} (other : c.isDigit = false) (rest : List Char) :
    Nat.toDigits 10 n ≠ c :: rest := by
  intro same
  have digit : c.isDigit = true := isDigit_of_mem_toDigits n c (same ▸ List.mem_cons_self)
  exact Bool.false_ne_true (other.symm.trans digit)

theorem takeSign_toDigits : takeSign (Nat.toDigits 10 n) = (false, Nat.toDigits 10 n) := by
  unfold takeSign
  split
  · next rest signed => exact absurd signed (toDigits_ne_cons n rfl rest)
  · rfl

theorem read?_toDigits :
    NumberText.read? (Nat.toDigits 10 n) = some (⟨false, Nat.toDigits 10 n, none, none⟩, []) := by
  have all : (Nat.toDigits 10 n).takeWhile Char.isDigit = Nat.toDigits 10 n :=
    List.takeWhile_eq_self_iff.mpr (isDigit_of_mem_toDigits n)
  have left : (Nat.toDigits 10 n).dropWhile Char.isDigit = [] :=
    List.dropWhile_eq_nil_iff.mpr (isDigit_of_mem_toDigits n)
  have accepted : (Nat.toDigits 10 n != [] && ((Nat.toDigits 10 n).head? != some '0' ||
      (Nat.toDigits 10 n).length = 1)) = true := by
    rcases Nat.eq_zero_or_pos n with rfl | positive
    · rfl
    · simp [Nat.toDigits_ne_nil, head?_toDigits n positive]
  rw [NumberText.read?, takeSign_toDigits]
  dsimp only
  rw [all, left]
  exact congrArg (Option.bind · _) (if_pos accepted)

theorem wordTokens_toDigits : wordTokens (Nat.toDigits 10 n) = [.word (numberScalar n)] := by
  unfold wordTokens
  split
  · next rest same => exact absurd same (toDigits_ne_cons n rfl rest)
  · next rest same => exact absurd same (toDigits_ne_cons n rfl rest)
  · next rest same => exact absurd same (toDigits_ne_cons n rfl rest)
  · simp [read?_toDigits, numberScalar]

/-- A number that fits 64 bits is found as it was written. -/
theorem found_toDigits (fits : n ≤ greatestWord) : (numberScalar n).found = .ok (.integer n) := by
  have value : (Nat.toDigits 10 n).foldl (fun v c => 10 * v + (c.toNat - '0'.toNat)) 0 = n :=
    Nat.ofDigitChars_ten_toDigits
  simp only [numberScalar, NumberText.found, value, fits, if_true, Bool.false_eq_true, if_false]

end Numbers

/-! Values. -/

theorem lex_literal {word : List Char} {s : Scalar} {rest : List Cell}
    (letters : word.all Char.isAlphanum = true)
    (spells : wordTokens word = [.word s]) (closes : Closes rest) :
    lex .between (characters word ++ rest) = .word s :: lex .between rest := by
  have nonempty : word ≠ [] := by
    rintro rfl
    cases spells
  have plain : ∀ c ∈ word, IsWordChar c := fun c inside =>
    .of_isAlphanum (List.all_eq_true.mp letters c inside)
  rw [lex_between_word nonempty plain closes, spells]
  rfl

mutual

/-- A written value is read as its tokens, whatever follows, as long as that closes it. -/
theorem lex_write {rest : List Cell} :
    ∀ (j : Json), Closes rest →
      lex .between (characters j.write ++ rest) = spelled j ++ lex .between rest
  | null, closes => by
    rw [write]
    exact lex_literal rfl rfl closes
  | bool true, closes => by
    rw [write]
    exact lex_literal rfl rfl closes
  | bool false, closes => by
    rw [write]
    exact lex_literal rfl rfl closes
  | number n, closes => by
    have plain : ∀ c ∈ Nat.toDigits 10 n, IsWordChar c := fun c inside =>
      .of_isAlphanum (Bool.or_eq_true_iff.mpr (.inr (isDigit_of_mem_toDigits n c inside)))
    rw [write, lex_between_word Nat.toDigits_ne_nil plain closes, wordTokens_toDigits]
    rfl
  | string s, _ => by
    rw [write, lex_quote]
    rfl
  | array items, _ => by
    have inside := lex_writeItems items (.mark (c := ']') rfl rest)
    rw [write, spelled]
    simp only [characters_cons, characters_append, characters_nil, List.append_assoc,
      List.cons_append, List.nil_append]
    rw [lex_mark rfl, inside, lex_mark rfl]
  | object members, _ => by
    have inside := lex_writeMembers members (.mark (c := '\x7d') rfl rest)
    rw [write, spelled]
    simp only [characters_cons, characters_append, characters_nil, List.append_assoc,
      List.cons_append, List.nil_append]
    rw [lex_mark rfl, inside, lex_mark rfl]

theorem lex_writeItems {rest : List Cell} :
    ∀ (items : List Json), Closes rest →
      lex .between (characters (writeItems items) ++ rest) =
        spelledItems items ++ lex .between rest
  | [], _ => rfl
  | [item], closes => lex_write item closes
  | item :: next :: others, closes => by
    have first := lex_write item (.mark (c := ',') rfl
      (characters (writeItems (next :: others)) ++ rest))
    rw [writeItems, spelledItems]
    simp only [characters_cons, characters_append, List.append_assoc, List.cons_append]
    rw [first, lex_mark rfl, lex_writeItems (next :: others) closes]

theorem lex_writeMembers {rest : List Cell} :
    ∀ (members : List (String × Json)), Closes rest →
      lex .between (characters (writeMembers members) ++ rest) =
        spelledMembers members ++ lex .between rest
  | [], _ => rfl
  | [(key, value)], closes => by
    have after := lex_write value closes
    rw [writeMembers, spelledMembers]
    simp only [characters_cons, characters_append, List.append_assoc, List.cons_append]
    rw [lex_quote, lex_mark rfl, after]
  | (key, value) :: next :: others, closes => by
    have first := lex_write value (.mark (c := ',') rfl
      (characters (writeMembers (next :: others)) ++ rest))
    rw [writeMembers, spelledMembers]
    simp only [characters_cons, characters_append, List.append_assoc, List.cons_append]
    rw [lex_quote, lex_mark rfl, first, lex_mark rfl, lex_writeMembers (next :: others) closes]

end

/-! Indented values. -/

section Lines
variable (level : Nat) (rest : List Cell)

theorem closes_newLine : Closes (characters (newLine level) ++ rest) :=
  .space rfl _

theorem lex_newLine : lex .between (characters (newLine level) ++ rest) = lex .between rest := by
  have blanks : ∀ n, lex .between (characters (List.replicate n ' ') ++ rest) =
      lex .between rest := by
    intro n
    induction n with
    | zero => rfl
    | succ n ih =>
      rw [List.replicate_succ, characters_cons, List.cons_append, lex_space rfl, ih]
  rw [newLine, characters_cons, List.cons_append, lex_space rfl, blanks]

end Lines

mutual

/-- The indented text has the same tokens. -/
theorem lex_writeIndented {rest : List Cell} :
    ∀ (level : Nat) (j : Json), Closes rest →
      lex .between (characters (j.writeIndented level) ++ rest) = spelled j ++ lex .between rest
  | _, null, closes => lex_write null closes
  | _, bool b, closes => lex_write (bool b) closes
  | _, number n, closes => lex_write (number n) closes
  | _, string s, closes => lex_write (string s) closes
  | _, array [], closes => lex_write (array []) closes
  | _, object [], closes => lex_write (object []) closes
  | level, array (item :: others), _ => by
    have inside := lex_writeIndentedItems (level + 1) (item :: others)
      (closes_newLine level (some ']' :: rest))
    rw [writeIndented, spelled]
    simp only [characters_cons, characters_append, characters_nil, List.append_assoc,
      List.cons_append, List.nil_append]
    rw [lex_mark rfl, inside, lex_newLine, lex_mark rfl]
  | level, object (member :: others), _ => by
    have inside := lex_writeIndentedMembers (level + 1) (member :: others)
      (closes_newLine level (some '\x7d' :: rest))
    rw [writeIndented, spelled]
    simp only [characters_cons, characters_append, characters_nil, List.append_assoc,
      List.cons_append, List.nil_append]
    rw [lex_mark rfl, inside, lex_newLine, lex_mark rfl]

theorem lex_writeIndentedItems {rest : List Cell} :
    ∀ (level : Nat) (items : List Json), Closes rest →
      lex .between (characters (writeIndentedItems level items) ++ rest) =
        spelledItems items ++ lex .between rest
  | _, [], _ => rfl
  | level, [item], closes => by
    rw [writeIndentedItems, characters_append, List.append_assoc, lex_newLine,
      lex_writeIndented level item closes, spelledItems]
  | level, item :: next :: others, closes => by
    have first := lex_writeIndented level item (.mark (c := ',') rfl
      (characters (writeIndentedItems level (next :: others)) ++ rest))
    rw [writeIndentedItems, spelledItems]
    simp only [characters_cons, characters_append, List.append_assoc, List.cons_append]
    rw [lex_newLine, first, lex_mark rfl, lex_writeIndentedItems level (next :: others) closes]

theorem lex_writeIndentedMembers {rest : List Cell} :
    ∀ (level : Nat) (members : List (String × Json)), Closes rest →
      lex .between (characters (writeIndentedMembers level members) ++ rest) =
        spelledMembers members ++ lex .between rest
  | _, [], _ => rfl
  | level, [(key, value)], closes => by
    have after := lex_writeIndented level value closes
    rw [writeIndentedMembers, spelledMembers]
    simp only [characters_cons, characters_append, List.append_assoc, List.cons_append]
    rw [lex_newLine, lex_quote, lex_mark rfl, lex_space rfl, after]
  | level, (key, value) :: next :: others, closes => by
    have first := lex_writeIndented level value (.mark (c := ',') rfl
      (characters (writeIndentedMembers level (next :: others)) ++ rest))
    rw [writeIndentedMembers, spelledMembers]
    simp only [characters_cons, characters_append, List.append_assoc, List.cons_append]
    rw [lex_newLine, lex_quote, lex_mark rfl, lex_space rfl, first, lex_mark rfl,
      lex_writeIndentedMembers level (next :: others) closes]

end

section Texts
variable (j : Json)

theorem tokens_compact : tokens (characters j.compact.toList) = spelled j := by
  have whole := lex_write j .ending
  rw [List.append_nil] at whole
  rw [compact, String.toList_ofList, tokens, whole]
  exact List.append_nil _

theorem tokens_indented : tokens (characters j.indented.toList) = spelled j := by
  have whole := lex_writeIndented 0 j .ending
  rw [List.append_nil] at whole
  rw [indented, String.toList_ofList, tokens, whole]
  exact List.append_nil _

end Texts

end ClassAtlas.Json
