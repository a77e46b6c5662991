import ClassAtlas.Text.Cut
import Mathlib.Data.List.DropRight

/-! Trimming takes blanks away at both ends and nothing else: what is left neither starts nor
ends with one, and a text that is so already stays as it is, whatever blanks are put around
it. -/
namespace ClassAtlas.Text

/-- Neither the first nor the last character is a blank. -/
structure IsTrimmed (text : List Char) : Prop where
  head : ∀ c, text.head? = some c → isBlank c = false
  last : ∀ c, text.getLast? = some c → isBlank c = false

theorem isTrimmed_of_visible {text : List Char} (visible : ∀ c ∈ text, isBlank c = false) :
    IsTrimmed text where
  head c first := visible c (List.mem_of_head? first)
  last c final := visible c (List.mem_of_getLast? final)

def AllBlank (text : List Char) : Prop :=
  ∀ c ∈ text, isBlank c = true

theorem trimBlanks_eq (text : List Char) :
    trimBlanks text = (text.dropWhile isBlank).rdropWhile isBlank := rfl

theorem IsTrimmed.rdropWhile_eq {text : List Char} (trimmed : IsTrimmed text) :
    text.rdropWhile isBlank = text := by
  rw [List.rdropWhile_eq_self_iff]
  intro nonempty
  simp [trimmed.last _ (List.getLast?_eq_some_getLast nonempty)]

theorem isTrimmed_trimBlanks (text : List Char) : IsTrimmed (trimBlanks text) where
  head c first := by
    obtain ⟨rest, whole⟩ := List.rdropWhile_prefix isBlank (text.dropWhile isBlank)
    rw [← trimBlanks_eq] at whole
    have front := List.head?_dropWhile_not isBlank text
    rw [← whole, List.head?_append, first] at front
    exact front
  last c final := by
    have nonempty : trimBlanks text ≠ [] := by
      rintro empty
      rw [empty] at final
      cases final
    have kept := List.rdropWhile_last_not isBlank (text.dropWhile isBlank) nonempty
    rw [List.getLast?_eq_some_getLast nonempty] at final
    cases final
    exact eq_false_of_ne_true kept

theorem trimBlanks_eq_nil_iff {text : List Char} : trimBlanks text = [] ↔ AllBlank text := by
  rw [trimBlanks_eq, List.rdropWhile_eq_nil_iff]
  constructor
  · intro rest c inside
    rw [← List.takeWhile_append_dropWhile (p := isBlank) (l := text), List.mem_append] at inside
    exact inside.elim List.mem_takeWhile_imp (rest c)
  · intro blank c inside
    rw [List.dropWhile_eq_nil_iff.2 blank] at inside
    cases inside

theorem rdropWhile_append {text right : List Char} (blank : AllBlank right) :
    (text ++ right).rdropWhile isBlank = text.rdropWhile isBlank := by
  have mirrored : ∀ c ∈ right.reverse, isBlank c = true := by simpa [AllBlank] using blank
  rw [List.rdropWhile, List.reverse_append, List.dropWhile_append_of_pos mirrored,
    List.rdropWhile]

theorem trimBlanks_padded {left text right : List Char} (blankLeft : AllBlank left)
    (blankRight : AllBlank right) (trimmed : IsTrimmed text) :
    trimBlanks (left ++ text ++ right) = text := by
  cases text with
  | nil =>
    rw [trimBlanks_eq_nil_iff, List.append_nil]
    exact fun c inside => (List.mem_append.1 inside).elim (blankLeft c) (blankRight c)
  | cons c rest =>
    have first : ¬ isBlank c = true := by simp [trimmed.head c rfl]
    rw [trimBlanks_eq, List.append_assoc, List.dropWhile_append_of_pos blankLeft,
      List.cons_append, List.dropWhile_cons_of_neg first, ← List.cons_append,
      rdropWhile_append blankRight, trimmed.rdropWhile_eq]

theorem trimBlanks_of_isTrimmed {text : List Char} (trimmed : IsTrimmed text) :
    trimBlanks text = text := by
  have nothing : AllBlank [] := fun c inside => by cases inside
  simpa using trimBlanks_padded nothing nothing trimmed

end ClassAtlas.Text
