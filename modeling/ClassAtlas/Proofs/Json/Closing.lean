import ClassAtlas.Json.Reader
import ClassAtlas.Proofs.Text.Ascii

/-! Where a JSON text ends. A text that was read to its end, and is no bare number or literal,
ends outside of words and strings: what is put behind it is read as if it stood alone, so that
the value stays the same if that has no tokens, and is refused if it has. Bytes that are a row
of such texts can therefore be cut into them in one way, up to the blanks between them. -/
namespace ClassAtlas.Json

open Document Text

/-! The lexer, stopped on its way. -/

/-- Where the lexer stands behind a text, and the tokens so far. -/
def scan (mode : Mode) : List Cell → Mode × List Token
  | [] => (mode, [])
  | cell :: rest =>
    let next := lexStep mode cell
    let later := scan next.1 rest
    (later.1, next.2 ++ later.2)

section Lexer
variable {mode : Mode} {cell : Cell} {text : List Cell}

theorem lex_append (mode : Mode) (first rest : List Cell) :
    lex mode (first ++ rest) = (scan mode first).2 ++ lex (scan mode first).1 rest := by
  induction first generalizing mode with
  | nil => rfl
  | cons cell first ih => simp only [List.cons_append, lex, scan, ih, List.append_assoc]

theorem lex_eq (mode : Mode) (text : List Cell) :
    lex mode text = (scan mode text).2 ++ lex (scan mode text).1 [] := by
  have whole := lex_append mode text []
  rwa [List.append_nil] at whole

theorem ascii_of_mark {c : Char} {token : Token} (marks : mark? c = some token) :
    c.toNat < 0x80 := by
  unfold mark? at marks
  split at marks
  case h_7 => cases marks
  all_goals decide

theorem ascii_of_isSpace {c : Char} (blank : isSpace c = true) : c.toNat < 0x80 := by
  simp only [isSpace, Bool.or_eq_true, decide_eq_true_iff] at blank
  rcases blank with ((rfl | rfl) | rfl) | rfl <;> decide

/-- Only a mark, a blank or a quotation mark leaves the lexer outside of words and strings. -/
theorem ascii_of_lexStep :
    (lexStep mode cell).1 = .between → ∃ c, cell = some c ∧ c.toNat < 0x80 := by
  have outside : (betweenStep mode cell).1 = .between → ∃ c, cell = some c ∧ c.toNat < 0x80 := by
    fun_cases betweenStep mode cell with
    | case3 _ c _ blank => exact fun _ => ⟨c, rfl, ascii_of_isSpace blank⟩
    | case4 _ c _ _ token marks => exact fun _ => ⟨c, rfl, ascii_of_mark marks⟩
    | _ => exact nofun
  fun_cases lexStep mode cell with
  | case1 => exact fun _ => ⟨_, rfl, by decide⟩
  | case14 => exact outside
  | _ => exact nofun

/-- The lexer does not stop without a fault. -/
theorem fault_mem_of_lexStep :
    (lexStep mode cell).1 = .stopped → mode = .stopped ∨ .fault ∈ (lexStep mode cell).2 := by
  have outside : (betweenStep mode cell).1 = .stopped → .fault ∈ (betweenStep mode cell).2 := by
    fun_cases betweenStep mode cell with
    | case1 => simp
    | _ => exact nofun
  fun_cases lexStep mode cell with
  | case14 => exact fun stops => .inr (outside stops)
  | _ => simp

theorem ascii_of_scan (nonempty : text ≠ []) (left : (scan mode text).1 = .between) :
    ∃ c, text.getLast? = some (some c) ∧ c.toNat < 0x80 := by
  induction text generalizing mode with
  | nil => exact absurd rfl nonempty
  | cons cell rest ih =>
    cases rest with
    | nil =>
      obtain ⟨c, rfl, small⟩ := ascii_of_lexStep left
      exact ⟨c, rfl, small⟩
    | cons next rest =>
      obtain ⟨c, last, small⟩ := ih (List.cons_ne_nil _ _) left
      exact ⟨c, by rw [List.getLast?_cons, last]; rfl, small⟩

theorem fault_mem_of_scan (stops : (scan mode text).1 = .stopped) :
    mode = .stopped ∨ .fault ∈ (scan mode text).2 := by
  induction text generalizing mode with
  | nil => exact .inl stops
  | cons cell rest ih =>
    rcases ih stops with here | later
    · exact (fault_mem_of_lexStep here).imp_right (List.mem_append_left _)
    · exact .inr (List.mem_append_right _ later)

/-- A word is a fault, or a number or literal that is never taken for something left out. -/
theorem wordTokens_cases (word : List Char) :
    .fault ∈ wordTokens word ∨ ∃ s : Scalar, wordTokens word = [.word s] ∧ s.blank = false := by
  have single {s : Scalar} {whole : Prop} [Decidable whole] (plain : s.blank = false) :
      Token.fault ∈ (if whole then [Token.word s] else [.word s, .fault]) ∨
        ∃ t : Scalar, (if whole then [Token.word s] else [.word s, .fault]) = [.word t] ∧
          t.blank = false := by
    by_cases ends : whole
    · exact .inr ⟨s, if_pos ends, plain⟩
    · rw [if_neg ends]
      simp
  unfold wordTokens
  dsimp only
  split
  all_goals
    split
    · exact single rfl
    · simp

/-- What is left over at the end of a text without faults is a number or a literal, if it is
anything. -/
theorem between_of_scan (faultless : .fault ∉ lex .between text) :
    (scan .between text).1 = .between ∨
      ∃ s : Scalar, lex .between text = (scan .between text).2 ++ [.word s] ∧ s.blank = false := by
  rw [lex_eq, List.mem_append, not_or] at faultless
  rw [lex_eq]
  cases left : (scan .between text).1 with
  | between => exact .inl rfl
  | word soFar =>
    rw [left] at faultless
    rcases wordTokens_cases soFar.reverse with fault | ⟨s, spelled, plain⟩
    · exact absurd fault faultless.2
    · exact .inr ⟨s, congrArg _ spelled, plain⟩
  | stopped =>
    rcases fault_mem_of_scan left with impossible | fault
    · cases impossible
    · exact absurd fault faultless.1
  | string soFar => exact absurd (by simp [left, lex]) faultless.2
  | escape soFar => exact absurd (by simp [left, lex]) faultless.2
  | hex soFar digits value => exact absurd (by simp [left, lex]) faultless.2

theorem tokens_append (left : (scan .between text).1 = .between) (rest : List Cell) :
    tokens (text ++ rest) = tokens text ++ tokens rest := by
  rw [tokens, tokens, tokens, lex_append, lex_eq _ text, left]
  simp [lex, flush]

end Lexer

/-! The tree of the tokens. -/

section Tree
variable {stack : List Frame} {expect : Expect} {token : Token} {found : List Token} {t : Tree}

/-- A token of a whole value is taken in, or it is the last one. -/
theorem build_cons_cases (whole : build stack expect (token :: found) = (t, true)) :
    (∃ above next, buildStep stack expect token = .next above next ∧
        build above next found = (t, true)) ∨
      (buildStep stack expect token = .whole t ∧ found = []) := by
  rw [build] at whole
  cases step : buildStep stack expect token with
  | next above next =>
    rw [step] at whole
    exact .inl ⟨above, next, rfl, whole⟩
  | whole u =>
    rw [step] at whole
    obtain ⟨rfl, ends⟩ := Prod.mk.inj whole
    exact .inr ⟨rfl, List.isEmpty_iff.1 ends⟩
  | broken =>
    rw [step] at whole
    cases whole

theorem build_append (whole : build stack expect found = (t, true)) (more : List Token) :
    build stack expect (found ++ more) = (t, more.isEmpty) := by
  induction found generalizing stack expect with
  | nil => cases whole
  | cons token rest ih =>
    rw [List.cons_append, build]
    rcases build_cons_cases whole with ⟨above, next, step, later⟩ | ⟨step, rfl⟩
    · rw [step]
      exact ih later
    · rw [step, List.nil_append]

theorem fault_not_mem_of_build (whole : build stack expect found = (t, true)) : .fault ∉ found := by
  induction found generalizing stack expect with
  | nil => exact List.not_mem_nil
  | cons token rest ih =>
    rcases build_cons_cases whole with ⟨above, next, step, later⟩ | ⟨step, rfl⟩
    · refine List.not_mem_cons_of_ne_of_not_mem ?_ (ih later)
      rintro rfl
      cases step
    · rw [List.mem_singleton]
      rintro rfl
      cases step

theorem eq_scalar_of_buildStep {s : Scalar} (step : buildStep stack expect (.word s) = .whole t) :
    t = .scalar s := by
  rw [buildStep] at step
  split at step
  · unfold complete at step
    split at step <;> cases step
    rfl
  · cases step

/-- A value that ends in a number or literal is nothing else. -/
theorem eq_scalar_of_build {s : Scalar}
    (whole : build stack expect (found ++ [.word s]) = (t, true)) : t = .scalar s := by
  induction found generalizing stack expect with
  | nil =>
    rcases build_cons_cases whole with ⟨above, next, _, later⟩ | ⟨step, _⟩
    · cases later
    · exact eq_scalar_of_buildStep step
  | cons token rest ih =>
    rcases build_cons_cases whole with ⟨above, next, _, later⟩ | ⟨_, ends⟩
    · exact ih later
    · simp at ends

/-- A text with a whole value that is no number or literal ends outside of words and strings. -/
theorem between_of_parse {text : List Cell} (whole : parse text = (t, true))
    (solid : ∀ s, t = .scalar s → s.blank = true) : (scan .between text).1 = .between := by
  rcases between_of_scan (fault_not_mem_of_build whole) with left | ⟨s, spelled, plain⟩
  · exact left
  · rw [parse, tokens, spelled] at whole
    have blank := solid s (eq_scalar_of_build whole)
    rw [plain] at blank
    cases blank

theorem tokens_ne_nil {text : List Cell} (whole : parse text = (t, true)) : tokens text ≠ [] := by
  intro nothing
  rw [parse, nothing] at whole
  cases whole

theorem parse_append {text : List Cell} (whole : parse text = (t, true))
    (left : (scan .between text).1 = .between) (rest : List Cell) :
    parse (text ++ rest) = (t, (tokens rest).isEmpty) := by
  rw [parse, tokens_append left]
  exact build_append whole _

end Tree

/-! The value that is read. -/

section Read
variable {α : Type} {reader : Reader α} {text : List Cell} {a : α}

/-- A reader that takes no number or literal, only lists, records and what may be left out. -/
def TakesNoWord (reader : Reader α) : Prop :=
  ∀ s levels a, (reader format levels (.scalar s)).run' 0 = .ok a → s.blank = true

theorem takesNoWord_layout (layout : Layout α) : TakesNoWord layout.reader := by
  intro s levels a taken
  cases blank : s.blank with
  | true => rfl
  | false =>
    have refused : layout.reader format levels (.scalar s) = Tree.refuse layout.title (.scalar s) := by
      simp [Layout.reader, Tree.follow, blank]
    rw [refused, Tree.refuse] at taken
    split at taken <;> cases taken

theorem read_eq_ok_iff :
    read reader text = .ok a ↔
      ∃ t, parse text = (t, true) ∧ (reader format maxLevels t).run' 0 = .ok a := by
  unfold read
  obtain ⟨t, whole⟩ := parse text
  dsimp only
  constructor
  · intro found
    cases value : (reader format maxLevels t).run' 0 with
    | error why =>
      rw [value] at found
      cases found
    | ok b =>
      rw [value] at found
      cases whole <;> cases found
      exact ⟨t, rfl, value⟩
  · rintro ⟨u, same, value⟩
    cases same
    rw [value]
    rfl

theorem read_eq_ok_iff_of_tokens {other : List Cell} (same : tokens text = tokens other) :
    read reader text = .ok a ↔ read reader other = .ok a := by
  rw [read_eq_ok_iff, read_eq_ok_iff, parse, parse, same]

theorem between_of_read (solid : TakesNoWord reader) (found : read reader text = .ok a) :
    (scan .between text).1 = .between := by
  obtain ⟨t, whole, value⟩ := read_eq_ok_iff.1 found
  exact between_of_parse whole fun s same => solid s _ a (same ▸ value)

end Read

/-! Texts of bytes, one behind the other. -/

/-- Nothing but blanks, which no reader of JSON sees. -/
def Idle (bytes : List UInt8) : Prop := tokens (cells bytes) = []

/-- The same bytes, with or without blanks in front. -/
def UpToBlanks (x y : List UInt8) : Prop :=
  ∃ blanks, Idle blanks ∧ (x = blanks ++ y ∨ y = blanks ++ x)

section Bytes
variable {bytes : List UInt8}

theorem cells_append_of_between (left : (scan .between (cells bytes)).1 = .between)
    (more : List UInt8) : cells (bytes ++ more) = cells bytes ++ cells more := by
  by_cases nothing : cells bytes = []
  · rw [eq_nil_of_cells nothing]
    rfl
  · obtain ⟨c, last, small⟩ := ascii_of_scan nothing left
    obtain ⟨z, lastByte, ascii⟩ := getLast?_of_cellsAfter small last
    exact cells_append_ascii lastByte ascii more

theorem Idle.between (idle : Idle bytes) : (scan .between (cells bytes)).1 = .between := by
  have faultless : .fault ∉ lex .between (cells bytes) := by
    rw [show lex .between (cells bytes) = [] from idle]
    exact List.not_mem_nil
  rcases between_of_scan faultless with left | ⟨s, spelled, _⟩
  · exact left
  · rw [show lex .between (cells bytes) = [] from idle] at spelled
    simp at spelled

theorem Idle.tokens_append (idle : Idle bytes) (more : List UInt8) :
    tokens (cells (bytes ++ more)) = tokens (cells more) := by
  rw [cells_append_of_between idle.between, Json.tokens_append idle.between,
    show tokens (cells bytes) = [] from idle, List.nil_append]

end Bytes

namespace UpToBlanks
variable {x y : List UInt8}

theorem refl (x : List UInt8) : UpToBlanks x x := ⟨[], rfl, .inl rfl⟩

theorem symm (same : UpToBlanks x y) : UpToBlanks y x := by
  obtain ⟨blanks, idle, glued⟩ := same
  exact ⟨blanks, idle, glued.symm⟩

theorem eq_of_length (same : UpToBlanks x y) (long : x.length = y.length) : x = y := by
  obtain ⟨blanks, _, rfl | rfl⟩ := same
  all_goals
    rw [List.length_append] at long
    rw [List.length_eq_zero_iff.1 (show blanks.length = 0 by omega)]
    rfl

end UpToBlanks

section Bytes
variable {α : Type} {reader : Reader α} (solid : TakesNoWord reader)
  {first rest other behind : List UInt8} {a b : α}
include solid

/-- Behind a text that was read there are blanks, or nothing can be read. -/
theorem read_append_eq_ok_iff (found : read reader (cells first) = .ok a) :
    read reader (cells (first ++ rest)) = .ok b ↔ a = b ∧ Idle rest := by
  obtain ⟨t, whole, value⟩ := read_eq_ok_iff.1 found
  have left := between_of_read solid found
  rw [read_eq_ok_iff, cells_append_of_between left, parse_append whole left]
  constructor
  · rintro ⟨u, same, taken⟩
    obtain ⟨rfl, idle⟩ := Prod.mk.inj same
    exact ⟨Except.ok.inj (value.symm.trans taken), List.isEmpty_iff.1 idle⟩
  · rintro ⟨rfl, idle⟩
    exact ⟨t, by rw [List.isEmpty_iff.2 idle], value⟩

theorem not_idle_append (found : read reader (cells first) = .ok a) (more : List UInt8) :
    ¬ Idle (first ++ more) := by
  obtain ⟨t, whole, value⟩ := read_eq_ok_iff.1 found
  have left := between_of_read solid found
  intro idle
  rw [Idle, cells_append_of_between left, tokens_append left] at idle
  exact tokens_ne_nil whole (List.append_eq_nil_iff.1 idle).1

/-- Two texts that start the same bytes have the same value. -/
theorem read_unique_of_eq (found : read reader (cells first) = .ok a)
    (alike : read reader (cells other) = .ok b) (same : first ++ rest = other ++ behind) :
    a = b ∧ UpToBlanks rest behind := by
  rcases List.append_eq_append_iff.1 same with ⟨blanks, rfl, rfl⟩ | ⟨blanks, rfl, rfl⟩
  · obtain ⟨rfl, idle⟩ := (read_append_eq_ok_iff solid found).1 alike
    exact ⟨rfl, blanks, idle, .inl rfl⟩
  · obtain ⟨rfl, idle⟩ := (read_append_eq_ok_iff solid alike).1 found
    exact ⟨rfl, blanks, idle, .inr rfl⟩

theorem read_unique (found : read reader (cells first) = .ok a)
    (alike : read reader (cells other) = .ok b)
    (same : UpToBlanks (first ++ rest) (other ++ behind)) : a = b ∧ UpToBlanks rest behind := by
  obtain ⟨blanks, idle, glued | glued⟩ := same
  · have led := (read_eq_ok_iff_of_tokens (idle.tokens_append other)).2 alike
    exact read_unique_of_eq solid found led (by rw [glued, List.append_assoc])
  · have led := (read_eq_ok_iff_of_tokens (idle.tokens_append first)).2 found
    exact read_unique_of_eq solid led alike (by rw [glued, List.append_assoc])

/-- Blanks do not make up for a text that was read. -/
theorem not_upToBlanks_of_length_le (found : read reader (cells first) = .ok a)
    (short : behind.length ≤ rest.length) : ¬ UpToBlanks (first ++ rest) behind := by
  rintro ⟨blanks, idle, glued | glued⟩
  · have inside : first <+: blanks := by
      refine List.prefix_of_prefix_length_le (List.prefix_append first rest)
        (glued ▸ List.prefix_append blanks behind) ?_
      have long := congrArg List.length glued
      simp only [List.length_append] at long
      omega
    obtain ⟨tail, rfl⟩ := inside
    exact not_idle_append solid found tail idle
  · have long := congrArg List.length glued
    simp only [List.length_append] at long
    obtain rfl : first = [] := List.length_eq_zero_iff.1 (by omega)
    exact not_idle_append solid found [] rfl

end Bytes

end ClassAtlas.Json
