import ClassAtlas.Text.Cut

/-! A glued text is cut where it was glued, provided the mark does not stand on
the wrong side of the seam. -/
namespace ClassAtlas.Text

theorem mem_intercalate {mark : List Char} {pieces : List (List Char)} {c : Char}
    (member : c ∈ mark.intercalate pieces) : c ∈ mark ∨ ∃ piece ∈ pieces, c ∈ piece := by
  induction pieces with
  | nil => cases member
  | cons first rest ih =>
    cases rest with
    | nil =>
      rw [List.intercalate_singleton] at member
      exact .inr ⟨first, List.mem_cons_self, member⟩
    | cons second tail =>
      rw [List.intercalate_cons_cons, List.mem_append, List.mem_append] at member
      rcases member with (inFirst | inMark) | inRest
      · exact .inr ⟨first, List.mem_cons_self, inFirst⟩
      · exact .inl inMark
      · rcases ih inRest with inMark | ⟨piece, listed, inPiece⟩
        · exact .inl inMark
        · exact .inr ⟨piece, List.mem_cons_of_mem _ listed, inPiece⟩

theorem not_mem_intercalate {mark : List Char} {pieces : List (List Char)} {c : Char}
    (notInMark : c ∉ mark) (notInPieces : ∀ piece ∈ pieces, c ∉ piece) :
    c ∉ mark.intercalate pieces := by
  intro member
  rcases mem_intercalate member with inMark | ⟨piece, listed, inPiece⟩
  · exact notInMark inMark
  · exact notInPieces piece listed inPiece

theorem mem_replaced {old new c : Char} {text : List Char}
    (member : c ∈ text.map fun d => if d = old then new else d) : c ∈ text ∨ c = new := by
  obtain ⟨d, inside, rewritten⟩ := List.mem_map.1 member
  split at rewritten
  · exact .inr rewritten.symm
  · exact .inl (rewritten ▸ inside)

theorem not_mem_replaced {old new : Char} (differ : old ≠ new) (text : List Char) :
    old ∉ text.map fun d => if d = old then new else d := by
  intro member
  obtain ⟨d, _, rewritten⟩ := List.mem_map.1 member
  split at rewritten
  · exact differ rewritten.symm
  · next other => exact other rewritten

theorem cutFirst_append {mark : Char} {before : List Char} (absent : mark ∉ before)
    (after : List Char) : cutFirst mark (before ++ mark :: after) = some (before, after) := by
  induction before with
  | nil => simp [cutFirst]
  | cons c rest ih =>
    rw [List.mem_cons, not_or] at absent
    rw [List.cons_append, cutFirst, if_neg (Ne.symm absent.1), ih absent.2]
    rfl

theorem cutFirst_eq_none {mark : Char} {text : List Char} (absent : mark ∉ text) :
    cutFirst mark text = none := by
  cases cut : cutFirst mark text with
  | none => rfl
  | some parts => exact absurd (by simp [cutFirst_eq cut]) absent

theorem cutLast_eq_none_iff {mark : Char} {text : List Char} :
    cutLast mark text = none ↔ mark ∉ text := by
  induction text with
  | nil => simp [cutLast]
  | cons c rest ih =>
    unfold cutLast
    cases found : cutLast mark rest with
    | none =>
      have absent := ih.1 found
      by_cases same : c = mark
      · simp [same]
      · simp [same, absent, Ne.symm same]
    | some parts =>
      have present : mark ∈ rest := by
        rw [cutLast_eq found]
        simp
      simp [present]

theorem not_mem_cutLast {mark : Char} {text before after : List Char}
    (h : cutLast mark text = some (before, after)) : mark ∉ after := by
  induction text generalizing before with
  | nil => cases h
  | cons c rest ih =>
    unfold cutLast at h
    split at h
    · next parts found => cases h; exact ih found
    · next absent =>
      obtain ⟨_, same⟩ := Option.ite_none_right_eq_some.1 h
      cases same
      exact cutLast_eq_none_iff.1 absent

theorem cutLast_append {mark : Char} {after : List Char} (absent : mark ∉ after)
    (before : List Char) : cutLast mark (before ++ mark :: after) = some (before, after) := by
  induction before with
  | nil => simp [cutLast, cutLast_eq_none_iff.2 absent]
  | cons c rest ih => simp [cutLast, ih]

/-- A text is glued at its first mark in one way. -/
theorem append_mark_inj {mark : Char} {before after first rest : List Char}
    (absent : mark ∉ before) (alsoAbsent : mark ∉ first)
    (glued : before ++ mark :: after = first ++ mark :: rest) : before = first ∧ after = rest := by
  have cut := cutFirst_append absent after
  rw [glued, cutFirst_append alsoAbsent] at cut
  obtain ⟨sameFirst, sameRest⟩ := Prod.mk.inj (Option.some.inj cut)
  exact ⟨sameFirst.symm, sameRest.symm⟩

/-- A text is glued at its last mark in one way. -/
theorem append_mark_inj_last {mark : Char} {before after first rest : List Char}
    (absent : mark ∉ after) (alsoAbsent : mark ∉ rest)
    (glued : before ++ mark :: after = first ++ mark :: rest) : before = first ∧ after = rest := by
  have cut := cutLast_append absent before
  rw [glued, cutLast_append alsoAbsent] at cut
  obtain ⟨sameFirst, sameRest⟩ := Prod.mk.inj (Option.some.inj cut)
  exact ⟨sameFirst.symm, sameRest.symm⟩

theorem mem_intercalate_of_two {mark : Char} {tail first second : List Char}
    (rest : List (List Char)) :
    mark ∈ (mark :: tail).intercalate (first :: second :: rest) := by
  simp [List.intercalate_cons_cons]

/-- Pieces that are not empty and do not hold the first character of what is written between
them can be told from the whole. A whole without that character is one piece, unless it is
empty. -/
theorem intercalate_inj {mark : Char} {tail : List Char} {pieces others : List (List Char)}
    (plain : ∀ piece ∈ pieces, piece ≠ [] ∧ mark ∉ piece)
    (alsoPlain : ∀ piece ∈ others, piece ≠ [] ∧ mark ∉ piece)
    (same : (mark :: tail).intercalate pieces = (mark :: tail).intercalate others) :
    pieces = others := by
  induction pieces generalizing others with
  | nil =>
    match others with
    | [] => rfl
    | [other] =>
      rw [List.intercalate_singleton] at same
      exact absurd same.symm (alsoPlain other List.mem_cons_self).1
    | other :: next :: rest =>
      have inside : mark ∈ (mark :: tail).intercalate [] := same ▸ mem_intercalate_of_two rest
      cases inside
  | cons piece more ih =>
    obtain ⟨⟨nonempty, absent⟩, morePlain⟩ := List.forall_mem_cons.1 plain
    match more, others with
    | [], [] =>
      rw [List.intercalate_singleton] at same
      exact absurd same nonempty
    | _ :: _, [] =>
      have inside : mark ∈ (mark :: tail).intercalate [] := same ▸ mem_intercalate_of_two _
      cases inside
    | [], [other] => rw [List.intercalate_singleton, List.intercalate_singleton] at same; rw [same]
    | _ :: _, [other] =>
      rw [List.intercalate_singleton] at same
      exact absurd (same ▸ mem_intercalate_of_two _) (alsoPlain other List.mem_cons_self).2
    | [], other :: next :: rest =>
      rw [List.intercalate_singleton] at same
      exact absurd (same ▸ mem_intercalate_of_two _) absent
    | second :: more, other :: next :: rest =>
      obtain ⟨⟨_, otherAbsent⟩, restPlain⟩ := List.forall_mem_cons.1 alsoPlain
      rw [List.intercalate_cons_cons, List.intercalate_cons_cons, List.append_assoc,
        List.append_assoc, List.cons_append, List.cons_append] at same
      obtain ⟨rfl, behind⟩ := append_mark_inj absent otherAbsent same
      rw [ih morePlain restPlain (List.append_cancel_left behind)]

theorem eq_or_mark_of_append_eq {mark : Char} {first rest before after : List Char}
    (absent : mark ∉ first) (glued : first ++ mark :: rest = before ++ mark :: after) :
    (before = first ∧ after = rest) ∨ ∃ more, before = first ++ mark :: more := by
  rcases List.append_eq_append_iff.1 glued with ⟨more, longer, tail⟩ | ⟨more, shorter, tail⟩
  · cases more with
    | nil =>
      cases tail
      exact .inl ⟨by rw [longer, List.append_nil], rfl⟩
    | cons c more =>
      cases tail
      exact .inr ⟨more, longer⟩
  · cases more with
    | nil =>
      cases tail
      exact .inl ⟨by rw [shorter, List.append_nil], rfl⟩
    | cons c more =>
      cases tail
      exact absurd (by simp [shorter]) absent

/-- A part that lies around a character it does not hold lies on one side of it. -/
theorem infix_or_infix_of_infix_append {mark before after : List Char} {c : Char}
    (absent : c ∉ mark) (found : mark <:+: before ++ c :: after) :
    mark <:+: before ∨ mark <:+: after := by
  rcases List.infix_append_iff.1 found with inBefore | behind | ⟨left, right, rfl, ending, start⟩
  · exact .inl inBefore
  · rcases List.infix_cons_iff.1 behind with atSeam | inAfter
    · cases mark with
      | nil => exact .inl List.nil_infix
      | cons d rest => exact absurd (by simp [(List.cons_prefix_cons.1 atSeam).1]) absent
    · exact .inr inAfter
  · cases right with
    | nil => exact .inl (by simpa using ending.isInfix)
    | cons d rest => exact absurd (by simp [(List.cons_prefix_cons.1 start).1]) absent

/-- An occurrence of two different characters does not reach over the seam. -/
theorem cutAt_pair_of_not_infix {a b : Char} {before : List Char}
    (absent : ¬ [a, b] <:+: before) (after : List Char) (differ : a ≠ b) :
    cutAt [a, b] (before ++ a :: b :: after) = some (before, after) := by
  induction before with
  | nil => simp [cutAt]
  | cons c rest ih =>
    rw [List.infix_cons_iff, not_or] at absent
    have later : ¬ [a, b].isPrefixOf (c :: (rest ++ a :: b :: after)) := by
      cases rest with
      | nil => simp [differ.symm]
      | cons d tail => simpa using absent.1
    rw [List.cons_append, cutAt, if_neg later, ih absent.2]
    rfl

theorem cutAt_pair {a b : Char} {before : List Char} (absent : b ∉ before) (after : List Char)
    (differ : a ≠ b) : cutAt [a, b] (before ++ a :: b :: after) = some (before, after) :=
  cutAt_pair_of_not_infix (fun found => absent (found.subset (by simp))) after differ

theorem occursIn_iff {needle text : List Char} : occursIn needle text ↔ needle <:+: text := by
  induction text with
  | nil => by_cases empty : needle = [] <;> simp [occursIn, cutAt, empty]
  | cons c rest ih =>
    rw [List.infix_cons_iff, ← ih, ← List.isPrefixOf_iff_prefix]
    unfold occursIn
    rw [cutAt]
    split
    · next stands => simp [stands]
    · next other => simp [other]

/-- The first occurrence of a mark leaves at least what any other leaves. -/
theorem suffix_of_cutAt {mark before after first rest : List Char}
    (cut : cutAt mark (before ++ mark ++ after) = some (first, rest)) : after <:+ rest := by
  induction before generalizing first with
  | nil =>
    rw [List.nil_append] at cut
    cases glued : mark ++ after with
    | nil =>
      rw [(List.append_eq_nil_iff.1 glued).2]
      exact List.nil_suffix
    | cons c tail =>
      have stands : mark.isPrefixOf (c :: tail) := by
        rw [← glued, List.isPrefixOf_iff_prefix]
        exact List.prefix_append mark after
      rw [glued, cutAt, if_pos stands, ← glued, List.drop_left] at cut
      cases cut
      exact List.suffix_rfl
  | cons c tail ih =>
    rw [List.cons_append, List.cons_append, cutAt] at cut
    split at cut
    · have long : mark.length ≤ (c :: (tail ++ mark)).length := by
        simp only [List.length_cons, List.length_append]
        omega
      cases cut
      rw [← List.cons_append, List.drop_append_of_le_length long]
      exact List.suffix_append _ after
    · obtain ⟨parts, found, same⟩ := Option.map_eq_some_iff.1 cut
      cases same
      exact ih found

end ClassAtlas.Text
