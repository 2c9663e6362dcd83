import ListingRules.Text.Blank
import ListingRules.Text.Decimal
import ListingRules.Text.Search

namespace ListingRules.Bytewise

open Text (byteCount splitAtByte? takeBytes)

inductive Trap where
  | boundary
  | order
  | start
  | range
  | missing
  | mistyped
  | endless
  deriving DecidableEq, Repr

abbrev Checked := Except Trap

section Checked

variable {α β : Type}

@[simp] theorem ok_bind (x : α) (f : α → Checked β) : (Except.ok x : Checked α) >>= f = f x := rfl

@[simp] theorem error_bind (x : Trap) (f : α → Checked β) :
    (Except.error x : Checked α) >>= f = .error x := rfl

@[simp] theorem pure_eq_ok (x : α) : (pure x : Checked α) = .ok x := rfl

end Checked

def within (least most n : Int) : Checked Int :=
  if least ≤ n ∧ n ≤ most then .ok n else .error .range

theorem within_eq_ok {least most n : Int} (hl : least ≤ n) (hm : n ≤ most) :
    within least most n = .ok n :=
  if_pos ⟨hl, hm⟩

def asNumber (n : Int) : Checked Int :=
  within Decimal.minNumber Decimal.maxNumber n

theorem asNumber_eq_ok {n : Int} (hl : -(Decimal.maxNumber : Int) ≤ n)
    (hm : n ≤ Decimal.maxNumber) : asNumber n = .ok n := by
  have hmin : Decimal.minNumber = -(Decimal.maxNumber : Int) - 1 := by decide
  exact within_eq_ok (by omega) hm

def asUnsigned (n : Int) : Checked Nat := do
  return (← within 0 4294967295 n).toNat

theorem asUnsigned_eq_ok {n : Nat} (h : n ≤ 4294967295) : asUnsigned n = .ok n := by
  rw [asUnsigned, within_eq_ok (by omega) (by omega)]
  rfl

def asSigned (n : Int) : Checked Int :=
  within (-2147483648) 2147483647 n

def minus (a b : Nat) : Checked Nat :=
  if b ≤ a then .ok (a - b) else .error .range

theorem minus_eq_ok {a b : Nat} (h : b ≤ a) : minus a b = .ok (a - b) :=
  if_pos h

def addDigit? (n : Int) (digit : Nat) : Option Int :=
  if 10 * n ≤ Decimal.maxNumber ∧ 10 * n + digit ≤ Decimal.maxNumber then some (10 * n + digit)
  else none

theorem addDigit?_eq {n digit : Nat} :
    addDigit? n digit =
      if 10 * n + digit ≤ Decimal.maxNumber then some ((10 * n + digit : Nat) : Int) else none := by
  simp only [addDigit?]
  by_cases h : 10 * n + digit ≤ Decimal.maxNumber
  · have hcast : 10 * (n : Int) ≤ Decimal.maxNumber ∧
        10 * (n : Int) + digit ≤ Decimal.maxNumber := by omega
    rw [if_pos hcast, if_pos h]
    rfl
  · have hcast : ¬(10 * (n : Int) ≤ Decimal.maxNumber ∧
        10 * (n : Int) + digit ≤ Decimal.maxNumber) := by omega
    rw [if_neg hcast, if_neg h]

theorem not_foldl_digits_le {n max : Nat} (h : ¬ n ≤ max) (digits : Text) :
    ¬ digits.foldl (fun n c => 10 * n + Decimal.digitValue c) n ≤ max := by
  induction digits generalizing n with
  | nil => exact h
  | cons c digits ih =>
      have hnext : ¬ 10 * n + Decimal.digitValue c ≤ max := by omega
      exact ih hnext

def sliceFrom (t : Text) (i : Nat) : Checked Text :=
  match splitAtByte? i t with
  | some (_, after) => .ok after
  | none => .error .boundary

def sliceTo (t : Text) (i : Nat) : Checked Text :=
  match splitAtByte? i t with
  | some (before, _) => .ok before
  | none => .error .boundary

def slice (t : Text) (i j : Nat) : Checked Text := do
  if j < i then .error .order
  else
    let rest ← sliceFrom t i
    sliceTo rest (j - i)

theorem sliceFrom_append (a b : Text) : sliceFrom (a ++ b) (byteCount a) = .ok b := by
  simp [sliceFrom, Text.splitAtByte?_append]

theorem sliceTo_append (a b : Text) : sliceTo (a ++ b) (byteCount a) = .ok a := by
  simp [sliceTo, Text.splitAtByte?_append]

theorem sliceFrom_eq_ok_iff {t u : Text} {i : Nat} :
    sliceFrom t i = .ok u ↔ ∃ a, t = a ++ u ∧ byteCount a = i := by
  constructor
  · intro h
    simp only [sliceFrom] at h
    split at h
    · rename_i a b hs
      obtain rfl := Except.ok.inj h
      obtain ⟨rfl, hi⟩ := Text.append_of_splitAtByte? hs
      exact ⟨a, rfl, hi⟩
    · simp at h
  · rintro ⟨a, rfl, rfl⟩
    exact sliceFrom_append a u

theorem sliceTo_eq_ok_iff {t u : Text} {i : Nat} :
    sliceTo t i = .ok u ↔ ∃ b, t = u ++ b ∧ byteCount u = i := by
  constructor
  · intro h
    simp only [sliceTo] at h
    split at h
    · rename_i a b hs
      obtain rfl := Except.ok.inj h
      obtain ⟨rfl, hi⟩ := Text.append_of_splitAtByte? hs
      exact ⟨b, rfl, hi⟩
    · simp at h
  · rintro ⟨b, rfl, rfl⟩
    exact sliceTo_append u b

theorem slice_eq_ok_iff {t u : Text} {i j : Nat} :
    slice t i j = .ok u ↔ ∃ a b, t = a ++ u ++ b ∧ byteCount a = i ∧ byteCount (a ++ u) = j := by
  constructor
  · intro h
    simp only [slice] at h
    split at h
    · simp at h
    · rename_i hij
      cases hr : sliceFrom t i with
      | error x => simp [hr] at h
      | ok rest =>
          rw [hr] at h
          obtain ⟨a, rfl, rfl⟩ := sliceFrom_eq_ok_iff.1 hr
          obtain ⟨b, rfl, hu⟩ := sliceTo_eq_ok_iff.1 h
          refine ⟨a, b, by simp, rfl, ?_⟩
          rw [Text.byteCount_append]
          omega
  · rintro ⟨a, b, rfl, rfl, rfl⟩
    have hle : ¬ byteCount (a ++ u) < byteCount a := by simp
    simp only [slice, if_neg hle, List.append_assoc, sliceFrom_append, ok_bind]
    rw [Text.byteCount_append, Nat.add_sub_cancel_left]
    exact sliceTo_append u b

def isBoundary (t : Text) (i : Nat) : Bool :=
  (splitAtByte? i t).isSome

theorem isBoundary_iff {t : Text} {i : Nat} :
    isBoundary t i = true ↔ ∃ a b, t = a ++ b ∧ byteCount a = i := by
  simp only [isBoundary, Option.isSome_iff_exists, Prod.exists, Text.splitAtByte?_eq_some_iff]
  exact ⟨fun ⟨a, b, h, hi⟩ => ⟨a, b, h.symm, hi⟩, fun ⟨a, b, h, hi⟩ => ⟨a, b, h.symm, hi⟩⟩

def floorFrom (t : Text) : Nat → Checked Nat
  | 0 => if isBoundary t 0 then .ok 0 else .error .range
  | i + 1 => if isBoundary t (i + 1) then .ok (i + 1) else floorFrom t i

def floorBoundary (t : Text) (most : Nat) : Checked Nat :=
  if byteCount t ≤ most then .ok (byteCount t) else floorFrom t most

def truncate (t : Text) (most : Nat) : Checked Text := do
  if byteCount t ≤ most then .ok t
  else
    let i ← floorBoundary t most
    sliceTo t i

theorem takeBytes_append_of_le {a b : Text} {n : Nat} (h : byteCount a ≤ n) :
    takeBytes n (a ++ b) = a ++ takeBytes (n - byteCount a) b := by
  induction a generalizing n with
  | nil => rfl
  | cons c a ih =>
      simp only [Text.byteCount_cons] at h
      have hc : c.utf8Size ≤ n := by omega
      have hrest : n - c.utf8Size - byteCount a = n - (c.utf8Size + byteCount a) := by omega
      simp [takeBytes, hc, ih (n := n - c.utf8Size) (by omega), hrest]

theorem takeBytes_zero (t : Text) : takeBytes 0 t = [] := by
  cases t with
  | nil => rfl
  | cons c t =>
      have := c.utf8Size_pos
      simp only [takeBytes]
      exact if_neg (by omega)

theorem byteCount_takeBytes {t : Text} {i : Nat} (h : isBoundary t i = true) :
    byteCount (takeBytes i t) = i := by
  obtain ⟨a, b, rfl, rfl⟩ := isBoundary_iff.1 h
  simp [takeBytes_append_of_le, takeBytes_zero]

theorem isBoundary_takeBytes (t : Text) (n : Nat) :
    isBoundary t (byteCount (takeBytes n t)) = true := by
  obtain ⟨b, hb⟩ := Text.takeBytes_isPrefix n t
  exact isBoundary_iff.2 ⟨_, b, hb.symm, rfl⟩

theorem takeBytes_takeBytes {m n : Nat} (t : Text) (h : byteCount (takeBytes n t) ≤ m)
    (hm : m ≤ n) : takeBytes m t = takeBytes n t := by
  induction t generalizing m n with
  | nil => rfl
  | cons c t ih =>
      by_cases hc : c.utf8Size ≤ n
      · simp only [takeBytes, if_pos hc, Text.byteCount_cons] at h ⊢
        have hcm : c.utf8Size ≤ m := by omega
        rw [if_pos hcm, ih (m := m - c.utf8Size) (n := n - c.utf8Size) (by omega) (by omega)]
      · have hcm : ¬c.utf8Size ≤ m := by omega
        simp only [takeBytes, if_neg hc, if_neg hcm]

theorem floorFrom_eq (t : Text) (n : Nat) :
    floorFrom t n = .ok (byteCount (takeBytes n t)) := by
  induction n with
  | zero =>
      have h : isBoundary t 0 = true := isBoundary_iff.2 ⟨[], t, rfl, rfl⟩
      simp [floorFrom, h, takeBytes_zero]
  | succ n ih =>
      simp only [floorFrom]
      split
      · rename_i h
        rw [byteCount_takeBytes h]
      · rename_i h
        have hle := Text.byteCount_takeBytes_le (n + 1) t
        have hne : byteCount (takeBytes (n + 1) t) ≠ n + 1 :=
          fun heq => h (heq ▸ isBoundary_takeBytes t (n + 1))
        have hlt : byteCount (takeBytes (n + 1) t) ≤ n := by omega
        rw [ih, takeBytes_takeBytes t hlt (Nat.le_succ n)]

theorem truncate_eq (t : Text) (most : Nat) : truncate t most = .ok (takeBytes most t) := by
  simp only [truncate, floorBoundary]
  by_cases h : byteCount t ≤ most
  · simp [h, Text.takeBytes_eq_self]
  · obtain ⟨b, hb⟩ := Text.takeBytes_isPrefix most t
    rw [if_neg h, if_neg h, floorFrom_eq, ok_bind]
    exact sliceTo_eq_ok_iff.2 ⟨b, hb.symm, rfl⟩

def charsFrom : Nat → Text → List (Nat × Char)
  | _, [] => []
  | i, c :: t => (i, c) :: charsFrom (i + c.utf8Size) t

def chars (t : Text) : List (Nat × Char) :=
  charsFrom 0 t

theorem getElem?_charsFrom (i n : Nat) (t : Text) :
    (charsFrom i t)[n]? = t[n]?.map fun c => (i + byteCount (t.take n), c) := by
  induction t generalizing i n with
  | nil => simp [charsFrom]
  | cons c t ih =>
      cases n with
      | zero => simp [charsFrom]
      | succ n => simp [charsFrom, ih, Nat.add_assoc]

def offsetOf (t : Text) (n : Nat) : Nat :=
  ((chars t)[n]?).elim (byteCount t) (·.1)

theorem offsetOf_eq (t : Text) (n : Nat) : offsetOf t n = byteCount (t.take n) := by
  simp only [offsetOf, chars, getElem?_charsFrom]
  by_cases h : n < t.length
  · simp [h]
  · simp only [Nat.not_lt] at h
    simp [h, List.take_of_length_le]

def prefixBytes? (t : Text) (n : Nat) : Option Nat :=
  match (chars t)[n]? with
  | some (i, _) => some i
  | none => if t.length = n then some (byteCount t) else none

theorem prefixBytes?_eq (t : Text) (n : Nat) :
    prefixBytes? t n =
      if (t.take n).length = n then some (byteCount (t.take n)) else none := by
  simp only [prefixBytes?, chars, getElem?_charsFrom]
  by_cases h : n < t.length
  · have hn : min n t.length = n := by omega
    simp [h, hn]
  · simp only [Nat.not_lt] at h
    by_cases hn : t.length = n
    · subst hn
      simp
    · simp [h, hn]

def findByte? (p : Char → Bool) (t : Text) : Option Nat :=
  ((chars t).find? (p ·.2)).map (·.1)

theorem findByte?_charsFrom (p : Char → Bool) (i : Nat) (t : Text) :
    (((charsFrom i t).find? (p ·.2)).map (·.1)).getD (i + byteCount t) =
      i + byteCount (t.takeWhile (! p ·)) := by
  induction t generalizing i with
  | nil => rfl
  | cons c t ih =>
      cases hc : p c with
      | true => simp [charsFrom, hc]
      | false =>
          have := ih (i + c.utf8Size)
          simpa [charsFrom, hc, Nat.add_assoc] using this

theorem findByte?_getD (p : Char → Bool) (t : Text) :
    (findByte? p t).getD (byteCount t) = byteCount (t.takeWhile (! p ·)) := by
  simpa [findByte?, chars] using findByte?_charsFrom p 0 t

theorem sliceTo_findByte? (p : Char → Bool) (t : Text) :
    sliceTo t ((findByte? p t).getD (byteCount t)) = .ok (t.takeWhile (! p ·)) := by
  rw [findByte?_getD]
  exact sliceTo_eq_ok_iff.2 ⟨_, List.takeWhile_append_dropWhile.symm, rfl⟩

def findLastByte? (p : Char → Bool) (t : Text) : Option Nat :=
  ((chars t).reverse.find? (p ·.2)).map (·.1)

theorem charsFrom_append (i : Nat) (a b : Text) :
    charsFrom i (a ++ b) = charsFrom i a ++ charsFrom (i + byteCount a) b := by
  induction a generalizing i with
  | nil => rfl
  | cons c a ih => simp [charsFrom, ih, Nat.add_assoc]

theorem find?_charsFrom_eq_none {p : Char → Bool} {i : Nat} {t : Text}
    (h : ∀ c ∈ t, p c = false) : (charsFrom i t).reverse.find? (p ·.2) = none := by
  rw [List.find?_eq_none]
  intro x hx
  obtain ⟨n, hn⟩ := List.getElem?_of_mem (List.mem_reverse.1 hx)
  rw [getElem?_charsFrom] at hn
  obtain ⟨c, hc, rfl⟩ := Option.map_eq_some_iff.1 hn
  simp [h c (List.mem_of_getElem? hc)]

theorem findLastByte?_eq_none {p : Char → Bool} {t : Text} (h : ∀ c ∈ t, p c = false) :
    findLastByte? p t = none := by
  simp [findLastByte?, chars, find?_charsFrom_eq_none h]

theorem findLastByte?_append {p : Char → Bool} {a b : Text} {c : Char} (hc : p c = true)
    (hb : ∀ x ∈ b, p x = false) : findLastByte? p (a ++ c :: b) = some (byteCount a) := by
  simp [findLastByte?, chars, charsFrom_append, charsFrom, find?_charsFrom_eq_none hb, hc]

def matchEnd? (start : Nat) : Option Nat → Text → List (Nat × Char) → Option Nat
  | stop, [], _ => stop
  | _, w :: wanted, (i, c) :: more =>
      if Character.sameLetter c w then matchEnd? start (some (start + i + c.utf8Size)) wanted more
      else none
  | _, _ :: _, [] => none

def findFrom (wanted t : Text) : List (Nat × Char) → Checked (Option (Nat × Nat))
  | [] => .ok none
  | (i, _) :: more => do
      let rest ← sliceFrom t i
      match matchEnd? i none wanted (chars rest) with
      | some stop => return some (i, stop)
      | none => findFrom wanted t more

def find (wanted t : Text) : Checked (Option (Nat × Nat)) :=
  if wanted.isEmpty then .ok (some (0, 0)) else findFrom wanted t (chars t)

theorem matchEnd?_some (start i : Nat) (wanted t : Text) :
    matchEnd? start (some (start + i)) wanted (charsFrom i t) =
      (Text.stripStart? wanted t).map fun x => start + i + byteCount x.1 := by
  induction wanted generalizing i t with
  | nil => simp [matchEnd?, Text.stripStart?]
  | cons w wanted ih =>
      cases t with
      | nil => rfl
      | cons c t =>
          simp only [charsFrom, matchEnd?, Text.stripStart?]
          split
          · rw [Nat.add_assoc, ih]
            simp only [Option.map_map]
            congr 1
            funext x
            simp [Nat.add_assoc]
          · rfl

theorem matchEnd?_none {wanted : Text} (h : wanted ≠ []) (start : Nat) (t : Text) :
    matchEnd? start none wanted (chars t) =
      (Text.stripStart? wanted t).map fun x => start + byteCount x.1 := by
  rw [← Nat.add_zero start, ← matchEnd?_some (start + 0) 0]
  cases wanted with
  | nil => exact absurd rfl h
  | cons w wanted => cases t <;> rfl

theorem findFrom_eq {wanted : Text} (h : wanted ≠ []) (a t : Text) :
    findFrom wanted (a ++ t) (charsFrom (byteCount a) t) =
      .ok ((Text.find? wanted t).map fun o =>
        (byteCount (a ++ o.before), byteCount (a ++ o.before ++ o.found))) := by
  induction t generalizing a with
  | nil => simp [charsFrom, findFrom, Text.find?, h]
  | cons c t ih =>
      simp only [charsFrom, findFrom, sliceFrom_append, ok_bind, matchEnd?_none h, Text.find?]
      cases hs : Text.stripStart? wanted (c :: t) with
      | some x => simp
      | none =>
          have hrest := ih (a ++ [c])
          simp only [List.append_assoc, List.cons_append, List.nil_append, Text.byteCount_append,
            Text.byteCount_cons, Text.byteCount_nil, Nat.add_zero] at hrest
          simp only [Option.map_none, hrest, Option.map_map]
          congr 2
          funext o
          simp [Nat.add_assoc]

theorem find_eq (wanted t : Text) :
    find wanted t =
      .ok ((Text.find? wanted t).map fun o =>
        (byteCount o.before, byteCount (o.before ++ o.found))) := by
  simp only [find]
  by_cases h : wanted = []
  · subst h
    cases t <;> simp [Text.find?, Text.stripStart?]
  · have := findFrom_eq h [] t
    simpa [h, chars] using this

end ListingRules.Bytewise
