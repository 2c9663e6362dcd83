import ListingRules.Text.Basic

namespace ListingRules.Text

open Character (sameLetter sameLetter_refl sameLetter_comm sameLetter_trans)

def sameLetters : Text → Text → Bool
  | [], [] => true
  | a :: as, b :: bs => sameLetter a b && sameLetters as bs
  | _, _ => false

theorem sameLetters_refl (t : Text) : sameLetters t t = true := by
  induction t with
  | nil => rfl
  | cons c t ih => simp [sameLetters, sameLetter_refl, ih]

theorem sameLetters_comm (a b : Text) : sameLetters a b = sameLetters b a := by
  induction a generalizing b with
  | nil => cases b <;> rfl
  | cons c a ih =>
      cases b with
      | nil => rfl
      | cons d b => simp [sameLetters, sameLetter_comm c d, ih b]

theorem sameLetters_trans {a b c : Text} (hab : sameLetters a b = true)
    (hbc : sameLetters b c = true) : sameLetters a c = true := by
  induction a generalizing b c with
  | nil =>
      cases b with
      | nil => exact hbc
      | cons => simp [sameLetters] at hab
  | cons x a ih =>
      cases b with
      | nil => simp [sameLetters] at hab
      | cons y b =>
          cases c with
          | nil => simp [sameLetters] at hbc
          | cons z c =>
              simp only [sameLetters, Bool.and_eq_true] at hab hbc ⊢
              exact ⟨sameLetter_trans hab.1 hbc.1, ih hab.2 hbc.2⟩

theorem length_eq_of_sameLetters {a b : Text} (h : sameLetters a b = true) :
    a.length = b.length := by
  induction a generalizing b with
  | nil =>
      cases b with
      | nil => rfl
      | cons => simp [sameLetters] at h
  | cons x a ih =>
      cases b with
      | nil => simp [sameLetters] at h
      | cons y b =>
          simp only [sameLetters, Bool.and_eq_true] at h
          simp [ih h.2]

def stripStart? : Text → Text → Option (Text × Text)
  | [], t => some ([], t)
  | _ :: _, [] => none
  | w :: wanted, c :: t =>
      if sameLetter c w then (stripStart? wanted t).map fun (a, b) => (c :: a, b) else none

theorem append_of_stripStart? {w t a b : Text} (h : stripStart? w t = some (a, b)) :
    a ++ b = t ∧ sameLetters a w = true := by
  induction w generalizing t a b with
  | nil =>
      obtain ⟨rfl, rfl⟩ : [] = a ∧ t = b := by simpa [stripStart?] using h
      simp [sameLetters]
  | cons x w ih =>
      cases t with
      | nil => simp [stripStart?] at h
      | cons c t =>
          simp only [stripStart?] at h
          split at h
          · rename_i hc
            simp only [Option.map_eq_some_iff, Prod.exists, Prod.mk.injEq] at h
            obtain ⟨a', b', hs, rfl, rfl⟩ := h
            obtain ⟨rfl, hw⟩ := ih hs
            exact ⟨rfl, by simp [sameLetters, hc, hw]⟩
          · simp at h

structure Occurrence where
  before : Text
  found : Text
  after : Text
  deriving DecidableEq, Repr

def find? (wanted : Text) : Text → Option Occurrence
  | [] => if wanted.isEmpty then some ⟨[], [], []⟩ else none
  | c :: t =>
      match stripStart? wanted (c :: t) with
      | some (a, b) => some ⟨[], a, b⟩
      | none => (find? wanted t).map fun o => { o with before := c :: o.before }

theorem append_of_find? {w t : Text} {o : Occurrence} (h : find? w t = some o) :
    o.before ++ o.found ++ o.after = t ∧ sameLetters o.found w = true := by
  induction t generalizing o with
  | nil =>
      simp only [find?, List.isEmpty_iff] at h
      split at h
      · rename_i hw
        obtain rfl := Option.some.inj h
        simp [hw, sameLetters]
      · simp at h
  | cons c t ih =>
      simp only [find?] at h
      split at h
      · rename_i a b hs
        obtain rfl := Option.some.inj h
        exact append_of_stripStart? hs
      · simp only [Option.map_eq_some_iff] at h
        obtain ⟨p, hp, rfl⟩ := h
        obtain ⟨rfl, hw⟩ := ih hp
        exact ⟨rfl, hw⟩

def findFrom? (wanted t : Text) (start : Nat) : Option Nat := do
  let (_, rest) ← splitAtByte? start t
  let o ← find? wanted rest
  return start + byteCount o.before

def contains (wanted t : Text) : Bool :=
  (find? wanted t).isSome

def endsWith (wanted t : Text) : Bool :=
  (stripStart? wanted.reverse t.reverse).isSome

end ListingRules.Text
