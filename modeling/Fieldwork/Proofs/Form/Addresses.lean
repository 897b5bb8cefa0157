import Fieldwork.Proofs.Form.Constraints

namespace Fieldwork

/-!
# The labels of an address

The part of an address behind the at sign is a domain: labels with points between them.
A text passes for an address where neither the first nor the last of two or more labels
is empty.  An empty label in the middle, which is two points in a row, is let pass.
-/

namespace Text

variable {c : Char} {text : List Char}

/-- The first part is empty where a separator comes first, or where there is no text. -/
theorem head?_splitOn_eq_nil_iff :
    (text.splitOn c).head? = some [] ↔ text = [] ∨ text.head? = some c := by
  cases text with
  | nil =>
      simp
  | cons first rest =>
      obtain ⟨part, parts, here⟩ := List.exists_cons_of_ne_nil (List.splitOn_ne_nil c rest)
      by_cases marked : first = c <;>
        simp [List.splitOn_cons_eq_if_modifyHead, here, marked]

/-- The last part is empty where a separator comes last, or where there is no text. -/
theorem getLast?_splitOn_eq_nil_iff
    (text : List Char) :
    (text.splitOn c).getLast? = some [] ↔ text = [] ∨ text.getLast? = some c := by
  by_cases marked : c ∈ text
  · obtain ⟨before, after, here, _⟩ := List.eq_append_cons_of_mem marked
    have inRest := getLast?_splitOn_eq_nil_iff after
    rw [here, List.splitOn_append_cons_self,
      List.getLast?_append_of_ne_nil _ (List.splitOn_ne_nil c after), inRest]
    cases after <;> simp
  · rw [List.splitOn_eq_singleton marked, List.getLast?_singleton, Option.some_inj]
    have notLast : text.getLast? ≠ some c := fun last => marked (List.mem_of_getLast? last)
    simp [notLast]
termination_by text.length
decreasing_by
  rw [here, List.length_append, List.length_cons]
  omega

/-- A part behind the first is empty where a separator comes last or two come in a row. -/
theorem nil_mem_tail_splitOn_iff :
    [] ∈ (text.splitOn c).tail ↔ text.getLast? = some c ∨ [c, c] <:+: text := by
  induction text with
  | nil =>
      simp
  | cons first rest inductionHypothesis =>
      have restStarts : (rest.splitOn c).head? = some [] ↔ rest = [] ∨ rest.head? = some c :=
        head?_splitOn_eq_nil_iff
      obtain ⟨part, parts, here⟩ := List.exists_cons_of_ne_nil (List.splitOn_ne_nil c rest)
      rw [here, List.head?_cons, Option.some_inj] at restStarts
      rw [here, List.tail_cons] at inductionHypothesis
      rw [List.splitOn_cons_eq_if_modifyHead, here, List.infix_cons_iff,
        List.cons_prefix_cons, List.singleton_prefix_iff_head?_eq_some]
      by_cases marked : first = c
      · rw [if_pos (beq_iff_eq.mpr marked), List.tail_cons, List.mem_cons, inductionHypothesis,
          eq_comm, restStarts]
        cases rest <;> simp [marked, or_left_comm]
      · rw [if_neg (beq_eq_false_iff_ne.mpr marked ▸ Bool.false_ne_true), List.modifyHead_cons,
          List.tail_cons, inductionHypothesis]
        cases rest <;> simp [marked, Ne.symm marked]

/-- No part is empty where neither the first nor the last is and no two separators are in a row. -/
theorem forall_mem_splitOn_ne_nil_iff :
    (∀ part ∈ text.splitOn c, part ≠ []) ↔
      (text.splitOn c).head? ≠ some [] ∧ (text.splitOn c).getLast? ≠ some [] ∧
        ¬ [c, c] <:+: text := by
  have somewhere :
      [] ∈ text.splitOn c ↔ (text.splitOn c).head? = some [] ∨ [] ∈ (text.splitOn c).tail := by
    obtain ⟨part, parts, here⟩ := List.exists_cons_of_ne_nil (List.splitOn_ne_nil c text)
    rw [here, List.mem_cons, List.head?_cons, Option.some_inj, List.tail_cons, eq_comm]
  have none : (∀ part ∈ text.splitOn c, part ≠ []) ↔ [] ∉ text.splitOn c :=
    ⟨fun filled member => filled [] member rfl,
      fun absent _ member isNil => absent (isNil ▸ member)⟩
  rw [none, somewhere, nil_mem_tail_splitOn_iff, Ne, Ne, getLast?_splitOn_eq_nil_iff,
    head?_splitOn_eq_nil_iff]
  tauto

end Text

/--
A user and a domain that a text puts around its only at sign.  No blank is in the text,
there is a user, and the domain has two labels or more.
-/
structure HasAddressParts
    (content : String)
    (user domain : List Char) :
    Prop where
  noBlank : ∀ c ∈ content.toList, Text.isBlankChar c = false
  oneAt : content.toList.count '@' = 1
  here : content.toList = user ++ '@' :: domain
  someUser : user ≠ []
  severalLabels : 2 ≤ (domain.splitOn '.').length

/-- Whether a text is an address, in which no label of the domain is empty. -/
def IsAddress
    (content : String) :
    Prop :=
  ∃ user domain, HasAddressParts content user domain ∧ ∀ label ∈ domain.splitOn '.', label ≠ []

namespace HasAddressParts

variable {content : String} {user domain user' domain' : List Char}

theorem oneAt_iff
    (here : content.toList = user ++ '@' :: domain) :
    content.toList.count '@' = 1 ↔ '@' ∉ user ∧ '@' ∉ domain := by
  rw [here, List.count_append, List.count_cons_self, ← List.count_eq_zero, ← List.count_eq_zero]
  omega

/-- A text has one user and one domain. -/
theorem unique
    (parts : HasAddressParts content user domain)
    (here' : content.toList = user' ++ '@' :: domain') :
    user = user' ∧ domain = domain' := by
  have left :=
    Text.splitFirst_char_eq_some_iff.mpr ⟨parts.here, ((oneAt_iff parts.here).mp parts.oneAt).1⟩
  have right :=
    Text.splitFirst_char_eq_some_iff.mpr ⟨here', ((oneAt_iff here').mp parts.oneAt).1⟩
  simpa using left.symm.trans right

/-- A domain has labels on both sides of its first point. -/
theorem exists_point
    (parts : HasAddressParts content user domain) :
    ∃ host rest, domain = host ++ '.' :: rest ∧ '.' ∉ host := by
  refine List.eq_append_cons_of_mem (Decidable.byContradiction fun noPoint => ?_)
  have several := parts.severalLabels
  rw [List.splitOn_eq_singleton noPoint] at several
  simp at several

end HasAddressParts

namespace Element

variable {content : String}

theorem isEmailShaped_iff_hasAddressParts :
    IsEmailShaped content ↔
      ∃ user domain,
        HasAddressParts content user domain ∧
          (domain.splitOn '.').head? ≠ some [] ∧ (domain.splitOn '.').getLast? ≠ some [] := by
  constructor
  · rintro ⟨noBlank, user, host, rest, here, onlyOne, noPoint, someUser, someHost, someRest, ending⟩
    have labels : (host ++ '.' :: rest).splitOn '.' = host :: rest.splitOn '.' :=
      List.splitOn_append_cons_self_of_not_mem noPoint rest
    have someLabel : 0 < (rest.splitOn '.').length :=
      List.length_pos_iff.mpr (List.splitOn_ne_nil '.' rest)
    refine ⟨user, host ++ '.' :: rest, ⟨noBlank, ?_, here, someUser, ?_⟩, ?_, ?_⟩
    · rw [HasAddressParts.oneAt_iff here]
      simpa using onlyOne
    · rw [labels, List.length_cons]
      omega
    · simpa [labels] using someHost
    · rw [labels, List.getLast?_cons_of_ne_nil (List.splitOn_ne_nil '.' rest), Ne,
        Text.getLast?_splitOn_eq_nil_iff]
      simp [someRest, ending]
  · rintro ⟨user, domain, parts, firstFilled, lastFilled⟩
    obtain ⟨host, rest, rfl, noPoint⟩ := parts.exists_point
    rw [List.splitOn_append_cons_self_of_not_mem noPoint] at firstFilled lastFilled
    rw [List.getLast?_cons_of_ne_nil (List.splitOn_ne_nil '.' rest), Ne,
      Text.getLast?_splitOn_eq_nil_iff, not_or] at lastFilled
    have onlyOne := (HasAddressParts.oneAt_iff parts.here).mp parts.oneAt
    refine ⟨parts.noBlank, user, host, rest, parts.here, by simpa using onlyOne, noPoint,
      parts.someUser, by simpa using firstFilled, lastFilled⟩

/-- An address is what passes for one without two points in a row in its domain. -/
theorem isAddress_iff :
    IsAddress content ↔
      looksLikeEmail content = true ∧
        ∀ user domain, content.toList = user ++ '@' :: domain → ¬ ['.', '.'] <:+: domain := by
  rw [looksLikeEmail_iff, isEmailShaped_iff_hasAddressParts]
  constructor
  · rintro ⟨user, domain, parts, filled⟩
    obtain ⟨firstFilled, lastFilled, apart⟩ := Text.forall_mem_splitOn_ne_nil_iff.mp filled
    refine ⟨⟨user, domain, parts, firstFilled, lastFilled⟩, ?_⟩
    intro user' domain' here
    obtain ⟨rfl, rfl⟩ := parts.unique here
    exact apart
  · rintro ⟨⟨user, domain, parts, firstFilled, lastFilled⟩, apart⟩
    exact ⟨user, domain, parts, Text.forall_mem_splitOn_ne_nil_iff.mpr
      ⟨firstFilled, lastFilled, apart user domain parts.here⟩⟩

/--
A text passes for an address where it has no blank and one at sign, a user before it, and
behind it two labels or more of which neither the first nor the last is empty.  The
addresses, in which no label is empty, are those that pass without two points in a row
behind the at sign.
-/
theorem addresses_filled_at_both_ends
    (content : String) :
    (looksLikeEmail content = true ↔
        ∃ user domain,
          HasAddressParts content user domain ∧
            (domain.splitOn '.').head? ≠ some [] ∧ (domain.splitOn '.').getLast? ≠ some []) ∧
      (IsAddress content ↔
        looksLikeEmail content = true ∧
          ∀ user domain, content.toList = user ++ '@' :: domain → ¬ ['.', '.'] <:+: domain) :=
  ⟨looksLikeEmail_iff.trans isEmailShaped_iff_hasAddressParts, isAddress_iff⟩

/-- A text with an empty label in the middle of its domain passes for an address. -/
theorem empty_label_passes :
    looksLikeEmail "ada@example..org" = true ∧ ¬ IsAddress "ada@example..org" := by
  refine ⟨by decide, fun isAddress => ?_⟩
  obtain ⟨_, apart⟩ := isAddress_iff.mp isAddress
  exact apart "ada".toList "example..org".toList rfl ⟨"example".toList, "org".toList, rfl⟩

end Element

end Fieldwork
