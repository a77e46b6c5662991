import ClassAtlas.Command.Answer
import ClassAtlas.Proofs.Text.Cut

/-! A signature names the owner of its member: the owner is what stands before the last
dot of the head, so the name of the member must not have a dot, and neither name may hold
the mark at which the head ends. -/
namespace ClassAtlas

section Head
variable {owner name rest : List Char}

theorem signatureHead_method (owner_plain : '(' ∉ owner) (name_plain : '(' ∉ name) :
    signatureHead (owner ++ '.' :: name ++ '(' :: rest) = owner ++ '.' :: name := by
  have absent : '(' ∉ owner ++ '.' :: name := by simp [owner_plain, name_plain]
  rw [signatureHead, Text.cutFirst_append absent]

theorem signatureHead_field (plain : '(' ∉ owner ++ '.' :: name ++ fieldMark ++ rest)
    (owner_plain : ¬ fieldMark <:+: owner) (name_plain : ':' ∉ name) :
    signatureHead (owner ++ '.' :: name ++ fieldMark ++ rest) = owner ++ '.' :: name := by
  have absent : ¬ fieldMark <:+: owner ++ '.' :: name := by
    intro found
    rcases Text.infix_or_infix_of_infix_append (by decide) found with inOwner | inName
    · exact owner_plain inOwner
    · exact name_plain (inName.subset (by decide))
  rw [signatureHead, Text.cutFirst_eq_none plain, List.append_assoc (owner ++ '.' :: name)]
  have cut := Text.cutAt_pair_of_not_infix absent rest (by decide)
  rw [fieldMark, List.cons_append, List.cons_append, List.nil_append, cut]

end Head

section Signature
variable {signature owner : String} {name : List Char}
  (source : classify signature = .ok .source) (nonempty : owner.toList ≠ [])
  (head : signatureHead signature.toList = owner.toList ++ '.' :: name) (undotted : '.' ∉ name)
include source nonempty head undotted

theorem owningClass_of_head : owningClass signature = .ok owner := by
  have named : ownerInSource signature = some owner := by
    simp [ownerInSource, head, Text.cutLast_append undotted, nonempty]
  rw [owningClass, source]
  simp only [bind, Except.bind, named]
  rfl

theorem memberOwner_of_head : Command.memberOwner none signature = .ok owner := by
  rw [Command.memberOwner, owningClass_of_head source nonempty head undotted]
  rfl

end Signature

end ClassAtlas
