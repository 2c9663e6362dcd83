import ListingRules.Character.LowerCase

namespace ListingRules

abbrev Text := List Char

namespace Text

def byteCount : Text → Nat
  | [] => 0
  | c :: rest => c.utf8Size + byteCount rest

@[simp] theorem byteCount_nil : byteCount [] = 0 := rfl

@[simp] theorem byteCount_cons (c : Char) (rest : Text) :
    byteCount (c :: rest) = c.utf8Size + byteCount rest := rfl

@[simp] theorem byteCount_append (a b : Text) :
    byteCount (a ++ b) = byteCount a + byteCount b := by
  induction a with
  | nil => simp
  | cons c a ih => simp [ih, Nat.add_assoc]

theorem byteCount_eq_zero_iff {a : Text} : byteCount a = 0 ↔ a = [] := by
  cases a with
  | nil => simp
  | cons c rest => simpa using fun h => absurd h (Nat.ne_of_gt c.utf8Size_pos)

@[simp] theorem byteCount_reverse (a : Text) : byteCount a.reverse = byteCount a := by
  induction a with
  | nil => rfl
  | cons c a ih => simp [ih, Nat.add_comm]

theorem length_le_byteCount (a : Text) : a.length ≤ byteCount a := by
  induction a with
  | nil => simp
  | cons c a ih =>
      have h := c.utf8Size_pos
      simp only [List.length_cons, byteCount_cons]
      omega

def takeBytes : Nat → Text → Text
  | _, [] => []
  | n, c :: rest => if c.utf8Size ≤ n then c :: takeBytes (n - c.utf8Size) rest else []

theorem byteCount_takeBytes_le (n : Nat) (t : Text) : byteCount (takeBytes n t) ≤ n := by
  induction t generalizing n with
  | nil => simp [takeBytes]
  | cons c t ih =>
      simp only [takeBytes]
      split
      · have := ih (n - c.utf8Size)
        simp only [byteCount_cons]
        omega
      · simp

theorem takeBytes_eq_self {n : Nat} {t : Text} (h : byteCount t ≤ n) : takeBytes n t = t := by
  induction t generalizing n with
  | nil => rfl
  | cons c t ih =>
      simp only [byteCount_cons] at h
      have hc : c.utf8Size ≤ n := by omega
      simp [takeBytes, hc, ih (n := n - c.utf8Size) (by omega)]

theorem takeBytes_isPrefix (n : Nat) (t : Text) : takeBytes n t <+: t := by
  induction t generalizing n with
  | nil => exact List.prefix_rfl
  | cons c t ih =>
      simp only [takeBytes]
      split
      · exact List.cons_prefix_cons.2 ⟨rfl, ih _⟩
      · exact List.nil_prefix

def splitAtByte? : Nat → Text → Option (Text × Text)
  | 0, t => some ([], t)
  | _ + 1, [] => none
  | n + 1, c :: rest =>
      if c.utf8Size ≤ n + 1 then
        (splitAtByte? (n + 1 - c.utf8Size) rest).map fun (a, b) => (c :: a, b)
      else none

theorem append_of_splitAtByte? {n : Nat} {t a b : Text} (h : splitAtByte? n t = some (a, b)) :
    a ++ b = t ∧ byteCount a = n := by
  induction t generalizing n a b with
  | nil =>
      cases n with
      | zero => simp [splitAtByte?] at h; simp [h]
      | succ n => simp [splitAtByte?] at h
  | cons c t ih =>
      cases n with
      | zero =>
          obtain ⟨rfl, rfl⟩ : a = [] ∧ c :: t = b := by simpa [splitAtByte?] using h
          simp
      | succ n =>
          simp only [splitAtByte?] at h
          split at h
          · simp only [Option.map_eq_some_iff, Prod.exists, Prod.mk.injEq] at h
            obtain ⟨a', b', hs, rfl, rfl⟩ := h
            obtain ⟨rfl, hn⟩ := ih hs
            simp only [List.cons_append, byteCount_cons, true_and]
            omega
          · simp at h

theorem splitAtByte?_append (a b : Text) : splitAtByte? (byteCount a) (a ++ b) = some (a, b) := by
  induction a with
  | nil => cases b <;> rfl
  | cons c a ih =>
      have hpos := c.utf8Size_pos
      obtain ⟨n, hn⟩ : ∃ n, c.utf8Size + byteCount a = n + 1 :=
        ⟨c.utf8Size + byteCount a - 1, by omega⟩
      have hrest : n + 1 - c.utf8Size = byteCount a := by omega
      have hle : c.utf8Size ≤ n + 1 := by omega
      simp [hn, splitAtByte?, hrest, hle, ih]

theorem splitAtByte?_eq_some_iff {n : Nat} {t a b : Text} :
    splitAtByte? n t = some (a, b) ↔ a ++ b = t ∧ byteCount a = n := by
  constructor
  · exact append_of_splitAtByte?
  · rintro ⟨rfl, rfl⟩
    exact splitAtByte?_append a b

def sameAscii (a b : Text) : Bool :=
  a.map Char.toLower == b.map Char.toLower

theorem sameAscii_iff {a b : Text} :
    sameAscii a b = true ↔ a.map Char.toLower = b.map Char.toLower := by
  simp [sameAscii]

theorem sameAscii_refl (a : Text) : sameAscii a a = true :=
  sameAscii_iff.2 rfl

def joinWith (separator : Text) : List Text → Text
  | [] => []
  | [t] => t
  | t :: more => t ++ separator ++ joinWith separator more

end Text

end ListingRules
