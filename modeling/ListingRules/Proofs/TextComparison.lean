import ListingRules.Listing.Attempt
import ListingRules.Proofs.Occurrences

namespace ListingRules

namespace Operator

def complement : Operator → Operator
  | equal => notEqual
  | notEqual => equal
  | sameText => notSameText
  | notSameText => sameText
  | within => notWithin
  | notWithin => within
  | endWith => notEndWith
  | notEndWith => endWith

end Operator

namespace Text

variable {a b t wanted : Text}

theorem sameLetters_reverse : sameLetters a.reverse b.reverse = sameLetters a b := by
  rw [Bool.eq_iff_iff, sameLetters_iff, sameLetters_iff, List.forall₂_reverse_iff]

theorem endsWith_iff :
    endsWith wanted t = true ↔ ∃ p s, p ++ s = t ∧ sameLetters s wanted = true := by
  rw [endsWith, Option.isSome_iff_exists]
  constructor
  · rintro ⟨⟨s, p⟩, h⟩
    obtain ⟨htext, hsame⟩ := append_of_stripStart? h
    refine ⟨p.reverse, s.reverse, ?_, ?_⟩
    · rw [← List.reverse_append, htext, List.reverse_reverse]
    · rwa [← sameLetters_reverse, List.reverse_reverse]
  · rintro ⟨p, s, rfl, hsame⟩
    rw [List.reverse_append]
    exact ⟨_, stripStart?_append (sameLetters_reverse.trans hsame) _⟩

theorem contains_iff :
    contains wanted t = true ↔ ∃ p s q, p ++ s ++ q = t ∧ sameLetters s wanted = true := by
  constructor
  · intro h
    obtain ⟨o, ho⟩ := Option.isSome_iff_exists.1 h
    exact ⟨o.before, o.found, o.after, append_of_find? ho⟩
  · rintro ⟨p, s, q, htext, hsame⟩
    have ho : (⟨p, s, q⟩ : Occurrence).Of wanted t := ⟨htext, sameLetters_iff.1 hsame⟩
    exact Option.isSome_iff_ne_none.2 (find?_ne_none ho)

theorem equivalence_sameLetters : Equivalence fun a b => sameLetters a b = true :=
  ⟨sameLetters_refl, fun h => (sameLetters_comm ..).trans h, sameLetters_trans⟩

theorem endsWith_of_sameLetters (h : sameLetters a b = true) : endsWith b a = true :=
  endsWith_iff.2 ⟨[], a, rfl, h⟩

theorem contains_of_sameLetters (h : sameLetters a b = true) : contains a b = true :=
  contains_iff.2 ⟨[], b, [], by simp, (sameLetters_comm b a).trans h⟩

theorem contains_of_endsWith (h : endsWith b a = true) : contains b a = true := by
  obtain ⟨p, s, htext, hsame⟩ := endsWith_iff.1 h
  exact contains_iff.2 ⟨p, s, [], by simpa using htext, hsame⟩

theorem length_le_of_endsWith (h : endsWith b a = true) : b.length ≤ a.length := by
  obtain ⟨p, s, rfl, hsame⟩ := endsWith_iff.1 h
  rw [List.length_append, length_eq_of_sameLetters hsame]
  exact Nat.le_add_left ..

theorem sameLetters_of_endsWith (h : endsWith b a = true) (hle : a.length ≤ b.length) :
    sameLetters a b = true := by
  obtain ⟨p, s, rfl, hsame⟩ := endsWith_iff.1 h
  rw [List.length_append, ← length_eq_of_sameLetters hsame] at hle
  obtain rfl : p = [] := List.length_eq_zero_iff.1 (by omega)
  exact hsame

theorem endsWith_and_endsWith_iff :
    endsWith b a = true ∧ endsWith a b = true ↔ sameLetters a b = true := by
  constructor
  · rintro ⟨hba, hab⟩
    exact sameLetters_of_endsWith hba (length_le_of_endsWith hab)
  · intro h
    exact ⟨endsWith_of_sameLetters h, endsWith_of_sameLetters ((sameLetters_comm b a).trans h)⟩

end Text

namespace Listing

theorem compareTexts_complement (op : Operator) (l r : Text) :
    compareTexts op.complement l r = !compareTexts op l r := by
  cases op <;> simp [Operator.complement, compareTexts, bne]

/-- What the operators on texts say of any two texts. A text can be parted between any two of its
characters. -/
theorem compareTexts_laws (l r : Text) :
    (compareTexts .endWith l r = true ↔
      ∃ p s, p ++ s = l ∧ compareTexts .sameText s r = true) ∧
    (compareTexts .within l r = true ↔
      ∃ p s q, p ++ s ++ q = r ∧ compareTexts .sameText s l = true) ∧
    Equivalence (fun a b => compareTexts .sameText a b = true) ∧
    (compareTexts .sameText l r = true →
      compareTexts .within l r = true ∧ compareTexts .endWith l r = true) ∧
    (compareTexts .endWith l r = true → compareTexts .within r l = true) ∧
    (compareTexts .endWith l r = true ∧ compareTexts .endWith r l = true ↔
      compareTexts .sameText l r = true) ∧
    ∀ op : Operator, compareTexts op.complement l r = !compareTexts op l r :=
  ⟨Text.endsWith_iff, Text.contains_iff, Text.equivalence_sameLetters,
    fun h => ⟨Text.contains_of_sameLetters h, Text.endsWith_of_sameLetters h⟩,
    Text.contains_of_endsWith, Text.endsWith_and_endsWith_iff,
    fun op => compareTexts_complement op l r⟩

example : compareTexts .endWith "nK".toList ['\u212A'] = true := by decide

end Listing

end ListingRules
