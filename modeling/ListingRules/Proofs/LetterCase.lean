import ListingRules.Proofs.Bytewise.Bytes
import ListingRules.Proofs.NamedColumns
import ListingRules.Proofs.Tokens

namespace ListingRules

def IgnoresCase (p : Char → Bool) : Prop :=
  ∀ c, p c.toLower = p c

theorem ignoresCase_of_ascii {p : Char → Bool}
    (h : ∀ n < 128, p (Char.ofNat n).toLower = p (Char.ofNat n)) : IgnoresCase p := by
  intro c
  by_cases hc : Bytewise.IsAscii c
  · obtain ⟨n, hn, rfl⟩ := Bytewise.eq_ofNat_of_isAscii hc
    exact h n hn
  · rw [Bytewise.toLower_eq_self hc]

theorem ignoresCase_isDigit : IgnoresCase Char.isDigit :=
  ignoresCase_of_ascii (by decide)

theorem ignoresCase_isIdentifierPart : IgnoresCase isIdentifierPart :=
  ignoresCase_of_ascii (by decide)

theorem ignoresCase_isIdentifierStart : IgnoresCase isIdentifierStart :=
  ignoresCase_of_ascii (by decide)

theorem ignoresCase_isAlpha : IgnoresCase Char.isAlpha :=
  ignoresCase_of_ascii (by decide)

theorem toLower_of_not_isAlpha {c : Char} (h : c.isAlpha = false) : c.toLower = c := by
  by_cases hc : Bytewise.IsAscii c
  · obtain ⟨n, hn, rfl⟩ := Bytewise.eq_ofNat_of_isAscii hc
    revert n
    decide
  · exact Bytewise.toLower_eq_self hc

theorem eq_of_toLower_eq {x y : Char} (hx : x.isAlpha = false) (h : x.toLower = y.toLower) :
    y = x := by
  have hy : y.isAlpha = false := by rw [← ignoresCase_isAlpha y, ← h, ignoresCase_isAlpha x, hx]
  rw [← toLower_of_not_isAlpha hy, ← h, toLower_of_not_isAlpha hx]

theorem Stops.append_right {p : Char → Bool} {a : Text} (h : Stops p a) (hne : a ≠ [])
    (b : Text) : Stops p (a ++ b) := by
  cases a with
  | nil => exact absurd rfl hne
  | cons x a => exact stops_cons (h x rfl)

namespace Text

variable {a b c : Text} {p : Char → Bool}

theorem sameAscii_symm (h : sameAscii a b = true) : sameAscii b a = true :=
  sameAscii_comm a b ▸ h

theorem sameAscii_trans (h : sameAscii a b = true) (h' : sameAscii b c = true) :
    sameAscii a c = true :=
  sameAscii_iff.2 ((sameAscii_iff.1 h).trans (sameAscii_iff.1 h'))

theorem sameAscii_congr_left (h : sameAscii a b = true) : sameAscii a c = sameAscii b c := by
  rw [sameAscii, sameAscii, sameAscii_iff.1 h]

theorem sameAscii_congr_right (h : sameAscii a b = true) : sameAscii c a = sameAscii c b := by
  rw [sameAscii, sameAscii, sameAscii_iff.1 h]

theorem all_of_sameAscii (hp : IgnoresCase p) (h : sameAscii a b = true)
    (ha : ∀ x ∈ a, p x = true) : ∀ x ∈ b, p x = true := by
  intro y hy
  have hmem : y.toLower ∈ a.map Char.toLower := by
    rw [sameAscii_iff.1 h]
    exact List.mem_map_of_mem hy
  obtain ⟨x, hx, hlower⟩ := List.mem_map.1 hmem
  rw [← hp y, ← hlower, hp x]
  exact ha x hx

theorem exists_of_sameAscii_cons {x : Char} (h : sameAscii (x :: a) b = true) :
    ∃ y b', b = y :: b' ∧ x.toLower = y.toLower ∧ sameAscii a b' = true := by
  have hmap := sameAscii_iff.1 h
  cases b with
  | nil => simp at hmap
  | cons y b => exact ⟨y, b, rfl, (List.cons.inj hmap).1, sameAscii_iff.2 (List.cons.inj hmap).2⟩

theorem eq_of_sameAscii (h : sameAscii a b = true) (ha : ∀ x ∈ a, x.isAlpha = false) : b = a := by
  induction a generalizing b with
  | nil => exact List.map_eq_nil_iff.1 (sameAscii_iff.1 h).symm
  | cons x a ih =>
      obtain ⟨y, b, rfl, hxy, h⟩ := exists_of_sameAscii_cons h
      obtain ⟨hx, ha⟩ := List.forall_mem_cons.1 ha
      rw [eq_of_toLower_eq hx hxy, ih h ha]

end Text

theorem isIdentifier_of_sameAscii {a b : Text} (h : Text.sameAscii a b = true)
    (ha : isIdentifier a = true) : isIdentifier b = true := by
  cases a with
  | nil => simp [isIdentifier] at ha
  | cons x a =>
      obtain ⟨y, b, rfl, hxy, h⟩ := Text.exists_of_sameAscii_cons h
      simp only [isIdentifier, Bool.and_eq_true, List.all_eq_true] at ha ⊢
      refine ⟨?_, Text.all_of_sameAscii ignoresCase_isIdentifierPart h ha.2⟩
      rw [← ignoresCase_isIdentifierStart y, ← hxy, ignoresCase_isIdentifierStart x, ha.1]

end ListingRules
