import ListingRules.Proofs.Bytewise.Text

namespace ListingRules.Bytewise

open Text (byteCount)

def bytes (t : Text) : List UInt8 :=
  t.flatMap String.utf8EncodeChar

theorem bytes_append (a b : Text) : bytes (a ++ b) = bytes a ++ bytes b := by
  simp [bytes]

theorem bytes_cons (c : Char) (t : Text) : bytes (c :: t) = String.utf8EncodeChar c ++ bytes t := by
  simp [bytes]

theorem length_bytes (t : Text) : (bytes t).length = byteCount t := by
  induction t with
  | nil => rfl
  | cons c t ih => simp [bytes_cons, ih]

def byteAt? (t : Text) (i : Nat) : Option UInt8 :=
  (bytes t)[i]?

def byteAt (t : Text) (i : Nat) : Checked UInt8 :=
  (byteAt? t i).elim (.error .missing) .ok

theorem byteAt?_append (a b : Text) (k : Nat) :
    byteAt? (a ++ b) (byteCount a + k) = byteAt? b k := by
  rw [byteAt?, bytes_append, ← length_bytes, List.getElem?_append_right (Nat.le_add_right _ _),
    Nat.add_sub_cancel_left]
  rfl

def lead (c : Char) : UInt8 :=
  (String.utf8EncodeChar c).headD 0

theorem byteAt?_zero (t : Text) : byteAt? t 0 = t.head?.map lead := by
  cases t with
  | nil => rfl
  | cons c t =>
      have hpos := c.utf8Size_pos
      rw [← String.length_utf8EncodeChar] at hpos
      obtain ⟨b, bs, hb⟩ := List.exists_cons_of_length_pos hpos
      simp [byteAt?, bytes_cons, lead, hb]

theorem byteAt?_at (a b : Text) : byteAt? (a ++ b) (byteCount a) = b.head?.map lead := by
  rw [← byteAt?_zero]
  exact byteAt?_append a b 0

def IsAscii (c : Char) : Prop :=
  c.toNat < 128

instance (c : Char) : Decidable (IsAscii c) :=
  inferInstanceAs (Decidable (c.toNat < 128))

section Encoding

variable {c x : Char}

theorem encode_of_isAscii (h : IsAscii c) : String.utf8EncodeChar c = [c.toUInt8] := by
  have hc : c.val.toNat ≤ 127 := Nat.le_of_lt_succ h
  simp only [String.utf8EncodeChar, hc, ↓reduceIte]
  rfl

theorem utf8Size_of_isAscii (h : IsAscii c) : c.utf8Size = 1 := by
  rw [← String.length_utf8EncodeChar, encode_of_isAscii h, List.length_singleton]

theorem lead_of_isAscii (h : IsAscii c) : lead c = c.toUInt8 := by
  simp [lead, encode_of_isAscii h]

theorem le_of_mem_encode (h : ¬IsAscii c) {b : UInt8} (hb : b ∈ String.utf8EncodeChar c) :
    128 ≤ b.toNat := by
  have hc : ¬c.val.toNat ≤ 127 := fun hle => h (Nat.lt_succ_of_le hle)
  simp only [String.utf8EncodeChar, hc, ↓reduceIte] at hb
  split at hb
  · simp only [List.mem_cons, List.not_mem_nil, or_false] at hb
    rcases hb with rfl | rfl <;> simp only [UInt8.toNat_ofNat'] <;> omega
  · split at hb
    · simp only [List.mem_cons, List.not_mem_nil, or_false] at hb
      rcases hb with rfl | rfl | rfl <;> simp only [UInt8.toNat_ofNat'] <;> omega
    · simp only [List.mem_cons, List.not_mem_nil, or_false] at hb
      rcases hb with rfl | rfl | rfl | rfl <;> simp only [UInt8.toNat_ofNat'] <;> omega

theorem le_lead (h : ¬IsAscii c) : 128 ≤ (lead c).toNat := by
  have hpos := c.utf8Size_pos
  rw [← String.length_utf8EncodeChar] at hpos
  obtain ⟨b, bs, hb⟩ := List.exists_cons_of_length_pos hpos
  rw [lead, hb]
  exact le_of_mem_encode h (by simp [hb])

theorem toNat_toUInt8 (h : IsAscii c) : c.toUInt8.toNat = c.toNat := by
  have hc : c.val.toNat < 128 := h
  simp only [Char.toUInt8, UInt32.toNat_toUInt8, Char.toNat]
  omega

theorem lead_eq_iff (hx : IsAscii x) : lead c = x.toUInt8 ↔ c = x := by
  constructor
  · intro h
    by_cases hc : IsAscii c
    · have hnat := congrArg UInt8.toNat h
      rw [lead_of_isAscii hc, toNat_toUInt8 hc, toNat_toUInt8 hx] at hnat
      exact Char.toNat_inj.1 hnat
    · have hle := le_lead hc
      rw [h, toNat_toUInt8 hx] at hle
      exact absurd hx (by unfold IsAscii; omega)
  · rintro rfl
    exact lead_of_isAscii hx

end Encoding

theorem byteAt?_next {a b : Text} {x : Char} (hx : IsAscii x) :
    byteAt? (a ++ x :: b) (byteCount a + 1) = b.head?.map lead := by
  have hone : byteCount a + 1 = byteCount (a ++ [x]) := by simp [utf8Size_of_isAscii hx]
  have hab : a ++ x :: b = (a ++ [x]) ++ b := by simp
  rw [hone, hab, byteAt?_at]

theorem byteAt?_within {a b : Text} {x : Char} {m : Nat} (hm : m < x.utf8Size) :
    ∃ c ∈ String.utf8EncodeChar x, byteAt? (a ++ x :: b) (byteCount a + m) = some c := by
  rw [← String.length_utf8EncodeChar] at hm
  refine ⟨(String.utf8EncodeChar x)[m], List.getElem_mem hm, ?_⟩
  rw [byteAt?_append, byteAt?, bytes_cons, List.getElem?_append_left hm]
  exact List.getElem?_eq_getElem hm

theorem exists_of_byteAt? {t : Text} {n : Nat} {b : UInt8} (h : byteAt? t n = some b)
    (hb : b.toNat < 128) :
    ∃ before x after, t = before ++ x :: after ∧ byteCount before = n ∧ IsAscii x ∧
      x.toUInt8 = b := by
  induction t generalizing n with
  | nil => simp [byteAt?, bytes] at h
  | cons c t ih =>
      by_cases hn : n < c.utf8Size
      · obtain ⟨d, hd, hat⟩ := byteAt?_within (a := []) (b := t) hn
        simp only [List.nil_append, Text.byteCount_nil, Nat.zero_add] at hat
        obtain rfl : d = b := Option.some.inj (hat.symm.trans h)
        have hascii : IsAscii c :=
          Decidable.byContradiction fun hc => absurd (le_of_mem_encode hc hd) (by omega)
        rw [encode_of_isAscii hascii, List.mem_singleton] at hd
        rw [utf8Size_of_isAscii hascii, Nat.lt_one_iff] at hn
        exact ⟨[], c, t, rfl, hn.symm, hascii, hd.symm⟩
      · obtain ⟨m, rfl⟩ : ∃ m, n = byteCount [c] + m := ⟨n - c.utf8Size, by simp; omega⟩
        obtain ⟨before, x, after, rfl, rfl, hx⟩ := ih ((byteAt?_append [c] t m).symm.trans h)
        exact ⟨c :: before, x, after, rfl, by simp, hx⟩

def isDigitByte (b : UInt8) : Bool :=
  '0'.toUInt8 ≤ b && b ≤ '9'.toUInt8

def lowerByte (b : UInt8) : UInt8 :=
  if 'A'.toUInt8 ≤ b ∧ b ≤ 'Z'.toUInt8 then b + 32 else b

def isVisibleByte (b : UInt8) : Bool :=
  ' '.toUInt8 < b

theorem eq_ofNat_of_isAscii {c : Char} (h : IsAscii c) : ∃ n < 128, c = Char.ofNat n :=
  ⟨c.toNat, h, by simp⟩

theorem not_le_byte {b x : UInt8} (hb : 128 ≤ b.toNat) (hx : x.toNat < 128) : ¬b ≤ x := by
  rw [UInt8.le_iff_toNat_le]
  omega

theorem not_le_char {c x : Char} (hc : ¬IsAscii c) (hx : IsAscii x) : ¬c ≤ x := by
  intro h
  have hnat : c.toNat ≤ x.toNat := h
  exact hc (Nat.lt_of_le_of_lt hnat hx)

theorem isDigitByte_lead (c : Char) : isDigitByte (lead c) = c.isDigit := by
  by_cases hc : IsAscii c
  · rw [lead_of_isAscii hc]
    obtain ⟨n, hn, rfl⟩ := eq_ofNat_of_isAscii hc
    revert n
    decide
  · have hb : ¬lead c ≤ '9'.toUInt8 := not_le_byte (le_lead hc) (by decide)
    have hd : ¬c.val ≤ '9'.val := not_le_char hc (by decide)
    have hdigit : c.isDigit = false := by
      simp only [Char.isDigit, decide_eq_false hd, Bool.and_false]
    simp [isDigitByte, hb, hdigit]

theorem isAscii_of_isDigit {c : Char} (h : c.isDigit = true) : IsAscii c :=
  Nat.lt_of_le_of_lt (Char.isDigit_iff_toNat.1 h).2 (by decide)

theorem toLower_eq_self {c : Char} (h : ¬IsAscii c) : c.toLower = c := by
  have hz : ¬c.val ≤ 'Z'.val := not_le_char h (by decide)
  delta Char.toLower
  exact dif_neg fun hc => hz hc.2

theorem isAscii_of_toLower {c : Char} (h : IsAscii c.toLower) : IsAscii c :=
  Decidable.byContradiction fun hc => hc (toLower_eq_self hc ▸ h)

theorem lowerByte_lead (c : Char) : lowerByte (lead c) = lead c.toLower := by
  by_cases hc : IsAscii c
  · rw [lead_of_isAscii hc]
    obtain ⟨n, hn, rfl⟩ := eq_ofNat_of_isAscii hc
    revert n
    decide
  · have hb : ¬lead c ≤ 'Z'.toUInt8 := not_le_byte (le_lead hc) (by decide)
    simp [lowerByte, hb, toLower_eq_self hc]

theorem isVisibleByte_of_le {b : UInt8} (h : 128 ≤ b.toNat) : isVisibleByte b = true := by
  have hb : ¬b ≤ ' '.toUInt8 := not_le_byte h (by decide)
  rw [isVisibleByte, decide_eq_true_iff]
  exact UInt8.not_le.1 hb

theorem isVisibleByte_lead (c : Char) : isVisibleByte (lead c) = Text.isVisible c := by
  by_cases hc : IsAscii c
  · rw [lead_of_isAscii hc]
    obtain ⟨n, hn, rfl⟩ := eq_ofNat_of_isAscii hc
    revert n
    decide
  · have hv : ¬c ≤ ' ' := not_le_char hc (by decide)
    rw [isVisibleByte_of_le (le_lead hc)]
    simp [Text.isVisible, Text.isSpace, hv]

end ListingRules.Bytewise
