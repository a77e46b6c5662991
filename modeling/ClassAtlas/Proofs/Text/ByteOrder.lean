import ClassAtlas.Proofs.Text.Utf8
import Mathlib.Data.String.Basic

/-! Texts are in the order of their bytes. The first byte of a character tells how many
follow, and a longer one starts with a greater byte; among characters of one length the
bytes are the digits of the code point to the base 64, the highest first. -/
namespace ClassAtlas.Text

/-- The lesser of two characters has the lesser bytes, and what follows them makes no
difference, since the bytes of neither are the beginning of those of the other. -/
theorem encode_append_lt {c d : Char} (less : c < d) (rest more : List UInt8) :
    String.utf8EncodeChar c ++ rest < String.utf8EncodeChar d ++ more := by
  have value : c.toNat < d.toNat := less
  have bound := toNat_lt d
  have twelve (n : Nat) : n / 4096 = n / 64 / 64 := by omega
  have eighteen (n : Nat) : n / 262144 = n / 64 / 64 / 64 := by omega
  unfold String.utf8EncodeChar
  simp only [show c.val.toNat = c.toNat from rfl, show d.val.toNat = d.toNat from rfl, twelve,
    eighteen]
  generalize c.toNat = n at *
  generalize d.toNat = m at *
  clear less
  -- one case for each pair of lengths; the digits of equal lengths differ at some place
  split_ifs <;>
    simp only [List.cons_append, List.nil_append, List.cons_lt_cons_iff, UInt8.lt_iff_toNat_lt,
      ← UInt8.toNat_inj, UInt8.toNat_ofNat'] <;>
    omega

theorem flatMap_encode_lt {text other : List Char} (less : text < other) :
    text.flatMap String.utf8EncodeChar < other.flatMap String.utf8EncodeChar := by
  induction less with
  | @nil c rest =>
    obtain ⟨first, others, encoded, _⟩ := leadingChar?_encode c []
    rw [List.flatMap_cons, encoded]
    exact List.nil_lt_cons _ _
  | cons later ih =>
    rw [List.flatMap_cons, List.flatMap_cons]
    exact List.append_left_lt ih
  | rel here =>
    rw [List.flatMap_cons, List.flatMap_cons]
    exact encode_append_lt here _ _

theorem utf8_lt_iff {text other : String} : utf8 text < utf8 other ↔ text < other := by
  have mono {a b : String} (less : a < b) : utf8 a < utf8 b := by
    rw [utf8_eq, utf8_eq]
    exact flatMap_encode_lt (String.lt_iff_toList_lt.1 less)
  refine ⟨fun bytes => ?_, mono⟩
  rcases lt_trichotomy text other with less | same | greater
  · exact less
  · rw [same] at bytes
    exact absurd bytes (List.lt_irrefl _)
  · exact absurd (mono greater) (List.lt_asymm bytes)

theorem utf8_le_iff {text other : String} : utf8 text ≤ utf8 other ↔ text ≤ other := by
  rw [← List.not_lt, ← String.not_lt, utf8_lt_iff]

end ClassAtlas.Text
