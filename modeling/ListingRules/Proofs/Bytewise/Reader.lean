import ListingRules.Proofs.Bytewise.Window
import ListingRules.Proofs.Tokens

namespace ListingRules.Bytewise

open Character (isAlphanumeric)
open Cursor (Walk YearOrTime)

section Options

variable {α β γ δ : Type}

theorem guards_eq {α : Type} {p q : Prop} [Decidable p] [Decidable q] {x : α} :
    (do guard p; guard q; return x : Option α) = if p ∧ q then some x else none := by
  by_cases hp : p <;> by_cases hq : q <;> simp [guard, hp, hq]

theorem guard_eq_some_iff {p : Prop} [Decidable p] {u : Unit} :
    (guard p : Option Unit) = some u ↔ p := by
  by_cases hp : p
  · simp [guard, hp]
  · simp [guard, hp]

theorem bind_agrees {x : Checked (Option β)} {next : Option β → Checked (Option δ)} {o : Option α}
    {f : α → Option γ} {g : α → β} {k : γ → δ} (hx : x = .ok (o.map g))
    (hnone : next none = .ok none)
    (hsome : ∀ a, o = some a → next (some (g a)) = .ok ((f a).map k)) :
    x >>= next = .ok ((o.bind f).map k) := by
  subst hx
  cases o with
  | none => exact hnone
  | some a => exact hsome a rfl

end Options

theorem time?_eq (c : Cursor) :
    c.time? =
      (c.digits?.filter (·.1 < 24)).bind fun (hour, c) =>
        (c.expect? ':').bind fun c =>
          (c.digits?.filter (·.1 < 60)).bind fun (minute, c) =>
            (c.seconds?.filter fun (second, milli, _) => second < 60 ∧ milli < 1000).bind
              fun (second, milli, c) =>
                let (hour, c) := c.halfOfDay hour
                if c.ahead.head?.any isAlphanumeric then none
                else (Time.ofParts? hour minute second milli).map (·, c) := by
  apply Option.ext
  intro r
  simp only [Cursor.time?, Option.bind_eq_bind, Option.bind_eq_some_iff, Prod.exists,
    Option.filter_eq_some_iff, guard_eq_some_iff, exists_const, Option.pure_def, decide_eq_true_eq,
    Option.ite_none_left_eq_some, Option.map_eq_some_iff, Bool.not_eq_true', Bool.not_eq_true,
    Option.some.injEq]
  constructor
  · rintro ⟨hour, c₁, h₁, hh, c₂, h₂, minute, c₃, h₃, second, milli, c₄, h₄, ha, t, ht, rfl⟩
    have hparts := t.isTimeOfDay
    obtain ⟨-, hm, hs, hms⟩ := Time.ofParts?_eq_some_iff.1 ht
    rw [IsTimeOfDay, hm, hs, hms] at hparts
    exact ⟨hour, c₁, ⟨h₁, hh⟩, c₂, h₂, minute, c₃, ⟨h₃, hparts.2.1⟩, second, milli, c₄,
      ⟨h₄, hparts.2.2⟩, ha, t, ht, rfl⟩
  · rintro ⟨hour, c₁, ⟨h₁, hh⟩, c₂, h₂, minute, c₃, ⟨h₃, -⟩, second, milli, c₄, ⟨h₄, -⟩, ha, t, ht,
      rfl⟩
    exact ⟨hour, c₁, h₁, hh, c₂, h₂, minute, c₃, h₃, second, milli, c₄, h₄, ha, t, ht, rfl⟩

theorem seconds?_eq (c : Cursor) :
    (c.seconds?.filter fun (second, milli, _) => second < 60 ∧ milli < 1000) =
      match c.expect? ':' with
      | none => some (0, 0, c)
      | some c =>
          (c.digits?.filter (·.1 < 60)).bind fun (second, c) =>
            match c.expect? '.' with
            | none => some (second, 0, c)
            | some c =>
                (c.digits?.filter (·.1 < 1000)).bind fun (milli, c) => some (second, milli, c) := by
  rw [Cursor.seconds?]
  cases c.expect? ':' with
  | none => rfl
  | some c =>
      cases hsecond : c.digits? with
      | none => simp [hsecond]
      | some r =>
          obtain ⟨second, d⟩ := r
          cases hpoint : d.expect? '.' with
          | none => by_cases hs : second < 60 <;> simp [hsecond, hpoint, Option.filter_some, hs]
          | some e =>
              cases hmilli : e.digits? with
              | none =>
                  by_cases hs : second < 60 <;>
                    simp [hsecond, hpoint, hmilli, Option.filter_some, hs]
              | some r =>
                  by_cases hs : second < 60 <;> by_cases hm : r.1 < 1000 <;>
                    simp [hsecond, hpoint, hmilli, Option.filter_some, hs, hm]

theorem yearOrTime?_eq (c : Cursor) :
    c.yearOrTime? =
      c.digits?.bind fun (first, c) =>
        if first < 24 ∧ c.ahead.head? = some ':' then
          (c.next.digits?.filter (·.1 < 60)).bind fun (minute, c) =>
            if c.nextIsAlphabetic then none
            else (Time.ofParts? first minute 0 0).map (.time ·, c)
        else if 1601 ≤ first ∧ first < 10000 then
          if c.nextIsAlphabetic then none
          else some (.year (if first = 1601 then 1602 else first), c)
        else none := by
  simp only [Cursor.yearOrTime?, Option.bind_eq_bind]
  congr 1
  funext read
  obtain ⟨first, c⟩ := read
  split
  · apply Option.ext
    intro r
    simp only [Option.bind_eq_some_iff, Prod.exists, Option.filter_eq_some_iff, guard_eq_some_iff,
      exists_const, Option.pure_def, decide_eq_true_eq, Option.ite_none_left_eq_some,
      Option.map_eq_some_iff, Bool.not_eq_true', Bool.not_eq_true, Option.some.injEq]
    constructor
    · rintro ⟨minute, d, hd, ha, t, ht, rfl⟩
      have hparts := t.isTimeOfDay
      obtain ⟨-, hm, -, -⟩ := Time.ofParts?_eq_some_iff.1 ht
      rw [IsTimeOfDay, hm] at hparts
      exact ⟨minute, d, ⟨hd, hparts.2.1⟩, ha, t, ht, rfl⟩
    · rintro ⟨minute, d, ⟨hd, -⟩, ha, t, ht, rfl⟩
      exact ⟨minute, d, hd, ha, t, ht, rfl⟩
  · by_cases hf : 1601 ≤ first ∧ first < 10000
    · cases c.nextIsAlphabetic <;> simp [guard, hf]
    · simp only [if_neg hf]
      have hguard : ¬(1601 ≤ first ∧ first < 10000 ∧ (!c.nextIsAlphabetic) = true) :=
        fun h => hf ⟨h.1, h.2.1⟩
      simp only [guard, if_neg hguard]
      rfl

namespace Window

def digitsFrom (w : Window) : Nat → Int → Nat → Checked (Option (Int × Nat))
  | 0, _, _ => .error .endless
  | k + 1, n, i => do
      match (w.byte? i).filter isDigitByte with
      | none => return some (n, i)
      | some b =>
          let digit ← minus b.toNat '0'.toNat
          match addDigit? n digit with
          | none => return none
          | some n =>
              let j ← w.move (i + 1)
              digitsFrom w k n j

def digits (w : Window) (i : Nat) : Checked (Option (Int × Nat)) := do
  return (← w.digitsFrom w.rounds 0 i).filter fun (_, j) => i < j

def sign (w : Window) (i : Nat) : Checked (Bool × Nat) := do
  if w.byte? i = some '+'.toUInt8 then
    return (false, ← w.move (i + 1))
  else if w.byte? i = some '-'.toUInt8 then
    return (true, ← w.move (i + 1))
  else
    return (false, i)

def signed (negative : Bool) (n : Int) : Checked Int :=
  if negative then asNumber (-n) else .ok n

def signedDigits (w : Window) (i : Nat) : Checked (Option (Int × Nat)) := do
  let (negative, i) ← w.sign i
  let some (n, i) ← w.digits i | return none
  return some (← signed negative n, i)

def separatedFrom (w : Window) (separators : Text) :
    Nat → Int → Nat → Checked (Option (Int × Nat))
  | 0, _, _ => .error .endless
  | k + 1, n, i => do
      match ← w.peek i with
      | none => return some (n, i)
      | some c =>
          if c.isDigit then
            match addDigit? n (Decimal.digitValue c) with
            | none => return none
            | some n =>
                let j ← w.move (i + c.utf8Size)
                separatedFrom w separators k n j
          else if List.contains separators c then
            let j ← w.move (i + c.utf8Size)
            separatedFrom w separators k n j
          else return some (n, i)

def separatedDigits (w : Window) (separators : Text) (i : Nat) :
    Checked (Option (Int × Nat)) := do
  let start := i
  let i ← w.skipWhile
    (fun x => !(x == '+' || x == '-') && !x.isDigit && List.contains separators x) i
  let (negative, i) ← w.sign i
  let some (n, i) ← w.separatedFrom separators w.rounds 0 i | return none
  let n ← signed negative n
  return if i = start then none else some (n, i)

def digitsBelow (w : Window) (bound : Nat) (i : Nat) : Checked (Option (Int × Nat)) := do
  return (← w.digits i).filter (·.1 < bound)

def seconds (w : Window) (i : Nat) : Checked (Option (Int × Int × Nat)) := do
  let some i ← w.expect ':' i | return some (0, 0, i)
  let some (second, i) ← w.digitsBelow 60 i | return none
  let some i ← w.expect '.' i | return some (second, 0, i)
  let some (milli, i) ← w.digitsBelow 1000 i | return none
  return some (second, milli, i)

def halfOfDay (w : Window) (hour : Int) (i : Nat) : Checked (Int × Nat) := do
  let suffix := (w.byte? i).map lowerByte
  if suffix = some 'a'.toUInt8 ∨ suffix = some 'p'.toUInt8 then
    let hour ← if suffix = some 'p'.toUInt8 ∧ hour < 12 then asNumber (hour + 12) else .ok hour
    let i ← w.move (i + 1)
    if (w.byte? i).map lowerByte = some 'm'.toUInt8 then
      return (hour, ← w.move (i + 1))
    else
      return (hour, i)
  else
    return (hour, i)

def time (w : Window) (i : Nat) : Checked (Option (Time × Nat)) := do
  let some (hour, i) ← w.digitsBelow 24 i | return none
  let some i ← w.expect ':' i | return none
  let some (minute, i) ← w.digitsBelow 60 i | return none
  let some (second, milli, i) ← w.seconds i | return none
  let (hour, i) ← w.halfOfDay hour i
  if (← w.peek i).any isAlphanumeric then
    return none
  else
    let time := Time.ofParts? (← asUnsigned hour) (← asUnsigned minute) (← asUnsigned second)
      (← asUnsigned milli)
    return time.map (·, i)

def yearOrTime (w : Window) (i : Nat) : Checked (Option ((Int ⊕ Time) × Nat)) := do
  let some (first, i) ← w.digits i | return none
  if first < 24 ∧ w.byte? i = some ':'.toUInt8 then
    let i ← w.move (i + 1)
    let some (minute, i) ← w.digitsBelow 60 i | return none
    if ← w.nextIsAlphabetic i then
      return none
    else
      let time := Time.ofParts? (← asUnsigned first) (← asUnsigned minute) 0 0
      return time.map (.inr ·, i)
  else if 1601 ≤ first ∧ first < 10000 then
    if ← w.nextIsAlphabetic i then
      return none
    else
      return some (.inl (if first = 1601 then 1602 else first), i)
  else
    return none

variable {w : Window} {c d : Cursor}

theorem digitsFrom_eq {k n : Nat} (h : w.Sees c) (hk : c.ahead.length < k)
    (hn : n ≤ Decimal.maxNumber) :
    w.digitsFrom k n c.offset =
      let value := (c.ahead.takeWhile Char.isDigit).foldl
        (fun n x => 10 * n + Decimal.digitValue x) n
      .ok (if value ≤ Decimal.maxNumber then
        some ((value : Int), (c.skipWhile Char.isDigit).offset) else none) := by
  obtain ⟨b, t⟩ := c
  induction t generalizing b k n with
  | nil =>
      obtain _ | k := k
      · simp at hk
      · simp [digitsFrom, h.byte?, Cursor.skipWhile, hn]
  | cons x t ih =>
      obtain _ | k := k
      · simp at hk
      · cases hx : x.isDigit with
        | false =>
            simp [digitsFrom, h.byte?, Option.filter_some, isDigitByte_lead, hx, Cursor.skipWhile,
              hn]
        | true =>
            have hascii : IsAscii x := isAscii_of_isDigit hx
            have hle : '0'.toNat ≤ (lead x).toNat := by
              rw [lead_of_isAscii hascii, toNat_toUInt8 hascii]
              exact (Char.isDigit_iff_toNat.1 hx).1
            have hvalue : (lead x).toNat - '0'.toNat = Decimal.digitValue x := by
              rw [lead_of_isAscii hascii, toNat_toUInt8 hascii, Decimal.digitValue]
            simp only [digitsFrom, h.byte?, List.head?_cons, Option.map_some, Option.filter_some,
              isDigitByte_lead, hx, ↓reduceIte, minus_eq_ok hle, hvalue, ok_bind, addDigit?_eq]
            by_cases hmax : 10 * n + Decimal.digitValue x ≤ Decimal.maxNumber
            · have hrest := ih hmax (x :: b) h.next (Nat.lt_of_succ_lt_succ hk)
              simpa [hmax, h.move_ascii (x := x) rfl hascii, hx, Cursor.skipWhile] using hrest
            · simp [hmax, hx, not_foldl_digits_le hmax]

theorem offset_lt_skipWhile {p : Char → Bool} (h : c.ahead.takeWhile p ≠ []) :
    c.offset < (c.skipWhile p).offset :=
  (Cursor.spans_skipWhile p c).offset_lt h

theorem offset_skipWhile_eq_iff {p : Char → Bool} :
    (c.skipWhile p).offset = c.offset ↔ Stops p c.ahead := by
  constructor
  · intro heq
    refine stops_of_takeWhile (Decidable.byContradiction fun hne => ?_)
    exact absurd heq (Nat.ne_of_gt (offset_lt_skipWhile hne))
  · intro hstops
    rw [Cursor.skipWhile_of_stops hstops]

def atOffset {α : Type} (read : Option (α × Cursor)) : Option (α × Nat) :=
  read.map fun (x, d) => (x, d.offset)

def numberAt (read : Option (Nat × Cursor)) : Option (Int × Nat) :=
  read.map fun (n, d) => ((n : Int), d.offset)

theorem Sees.digits (h : w.Sees c) : w.digits c.offset = .ok (numberAt c.digits?) := by
  have hfrom := digitsFrom_eq (n := 0) h h.rounds (Nat.zero_le _)
  have hall : (c.ahead.takeWhile Char.isDigit).all Char.isDigit = true := List.all_takeWhile
  simp only [Int.ofNat_zero] at hfrom
  simp only [Window.digits, hfrom, ok_bind, pure_eq_ok, numberAt, Cursor.digits?, Decimal.read?,
    hall, Bool.not_true, Bool.or_false, List.isEmpty_iff]
  by_cases hnil : c.ahead.takeWhile Char.isDigit = []
  · have hself := Cursor.skipWhile_of_stops (stops_of_takeWhile hnil)
    simp [hnil, hself, Option.filter_some]
  · have hlt := offset_lt_skipWhile hnil
    simp only [hnil, ↓reduceIte, Decimal.value]
    by_cases hmax : (c.ahead.takeWhile Char.isDigit).foldl
        (fun n x => 10 * n + Decimal.digitValue x) 0 ≤ Decimal.maxNumber
    · simp [hmax, Option.filter_some, hlt]
    · simp [hmax]

theorem le_of_digits? {n : Nat} (h : c.digits? = some (n, d)) : n ≤ Decimal.maxNumber := by
  simp only [Cursor.digits?, Option.map_eq_some_iff, Prod.mk.injEq] at h
  obtain ⟨_, hn, rfl, -⟩ := h
  exact Decimal.read?_le hn

theorem sign_of_unsigned (hplus : c.ahead.head? ≠ some '+') (hminus : c.ahead.head? ≠ some '-') :
    c.sign = (false, c) := by
  rw [Cursor.sign]
  split
  · exact absurd ‹_› hplus
  · exact absurd ‹_› hminus
  · rfl

theorem Sees.sign (h : w.Sees c) : w.sign c.offset = .ok (c.sign.1, c.sign.2.offset) := by
  have hplus : IsAscii '+' := by decide
  have hminus : IsAscii '-' := by decide
  simp only [Window.sign, byte?_eq_iff h hplus, byte?_eq_iff h hminus]
  by_cases hp : c.ahead.head? = some '+'
  · simp [Cursor.sign, hp, h.move_ascii hp hplus]
  · by_cases hm : c.ahead.head? = some '-'
    · simp [Cursor.sign, hm, h.move_ascii hm hminus]
    · simp [hp, hm, sign_of_unsigned hp hm]

theorem signed_eq_ok {negative : Bool} {n : Nat} (h : n ≤ Decimal.maxNumber) :
    signed negative n = .ok (if negative then -(n : Int) else n) := by
  cases negative with
  | false => rfl
  | true => exact asNumber_eq_ok (by omega) (by omega)

theorem Sees.signedDigits (h : w.Sees c) :
    w.signedDigits c.offset = .ok (atOffset c.signedDigits?) := by
  simp only [Window.signedDigits, h.sign, ok_bind, (h.walk (Cursor.walk_sign c)).digits,
    Cursor.signedDigits?]
  cases hd : c.sign.2.digits? with
  | none => rfl
  | some read =>
      obtain ⟨n, d⟩ := read
      simp [numberAt, atOffset, signed_eq_ok (le_of_digits? hd)]

theorem separatedFrom_eq {separators : Text} {k n : Nat} (h : w.Sees c) (hk : c.ahead.length < k)
    (hn : n ≤ Decimal.maxNumber) :
    w.separatedFrom separators k n c.offset =
      let isPart : Char → Bool := fun x => x.isDigit || List.contains separators x
      let value := ((c.ahead.takeWhile isPart).filter Char.isDigit).foldl
        (fun n x => 10 * n + Decimal.digitValue x) n
      .ok (if value ≤ Decimal.maxNumber then
        some ((value : Int), (c.skipWhile isPart).offset) else none) := by
  obtain ⟨b, t⟩ := c
  induction t generalizing b k n with
  | nil =>
      obtain _ | k := k
      · simp at hk
      · simp [separatedFrom, h.peek, Cursor.skipWhile, hn]
  | cons x t ih =>
      obtain _ | k := k
      · simp at hk
      · have hlen := Nat.lt_of_succ_lt_succ hk
        simp only [separatedFrom, h.peek, List.head?_cons, ok_bind, addDigit?_eq,
          h.move_next (x := x) rfl]
        cases hx : x.isDigit with
        | true =>
            by_cases hmax : 10 * n + Decimal.digitValue x ≤ Decimal.maxNumber
            · simpa [hmax, hx, Cursor.skipWhile] using ih hmax (x :: b) h.next hlen
            · simp [hmax, hx, not_foldl_digits_le hmax]
        | false =>
            by_cases hs : x ∈ separators
            · simpa [hx, hs, Cursor.skipWhile] using ih hn (x :: b) h.next hlen
            · simp [hx, hs, Cursor.skipWhile, hn]

theorem offset_le_skipWhile (p : Char → Bool) (c : Cursor) : c.offset ≤ (c.skipWhile p).offset := by
  simp [Cursor.skipWhile, Cursor.offset]

theorem sign_cases (c : Cursor) :
    Stops (fun x => x == '+' || x == '-') c.ahead ∧ c.sign.2 = c ∨
      ¬ Stops (fun x => x == '+' || x == '-') c.ahead ∧ c.offset < c.sign.2.offset := by
  obtain ⟨b, t⟩ := c
  cases t with
  | nil => exact .inl ⟨by simp [Stops], rfl⟩
  | cons x t =>
      by_cases hx : (x == '+' || x == '-') = true
      · refine .inr ⟨fun hstops => by simp [hstops x rfl] at hx, ?_⟩
        have hnext : (Cursor.sign ⟨b, x :: t⟩).2 = ⟨x :: b, t⟩ := by
          rw [Bool.or_eq_true, beq_iff_eq, beq_iff_eq] at hx
          rcases hx with rfl | rfl <;> rfl
        rw [hnext]
        exact Nat.lt_add_of_pos_left x.utf8Size_pos
      · rw [Bool.not_eq_true] at hx
        have hne : x ≠ '+' ∧ x ≠ '-' := by simpa using hx
        exact .inl ⟨stops_cons hx, congrArg Prod.snd
          (sign_of_unsigned (by simpa using hne.1) (by simpa using hne.2))⟩

theorem stops_or_iff {p q : Char → Bool} {t : Text} :
    Stops (fun x => p x || q x) t ↔ Stops p t ∧ Stops q t := by
  cases t <;> simp [Stops]

theorem separated_moves {isSign isPart isGap : Char → Bool}
    (hsign : isSign = fun x => x == '+' || x == '-')
    (hgap : ∀ x, isGap x = true → isPart x = true) (c : Cursor) :
    ((c.skipWhile isGap).sign.2.skipWhile isPart).offset = c.offset ↔
      (c.ahead.head?.any fun x => isSign x || isPart x) = false := by
  rw [← stops_iff, stops_or_iff]
  have hle := offset_le_skipWhile isGap c
  have hle' := offset_le_skipWhile isPart (c.skipWhile isGap).sign.2
  constructor
  · intro heq
    rcases sign_cases (c.skipWhile isGap) with ⟨hunsigned, hsame⟩ | ⟨-, hlt⟩
    · rw [hsame] at heq hle'
      have hstays : (c.skipWhile isGap).offset = c.offset := by omega
      have hfirst := Cursor.skipWhile_of_stops (offset_skipWhile_eq_iff.1 hstays)
      rw [hfirst] at heq hunsigned
      exact ⟨hsign ▸ hunsigned, offset_skipWhile_eq_iff.1 heq⟩
    · omega
  · rintro ⟨hunsigned, hpart⟩
    rw [Cursor.skipWhile_of_stops (hpart.mono hgap)]
    rcases sign_cases c with ⟨-, hsame⟩ | ⟨hsigned, -⟩
    · rw [hsame, Cursor.skipWhile_of_stops hpart]
    · exact absurd (hsign ▸ hunsigned) hsigned

theorem Sees.separatedDigits (separators : Text) (h : w.Sees c) :
    w.separatedDigits separators c.offset = .ok (atOffset (c.separatedDigits? separators)) := by
  let isSign : Char → Bool := fun x => x == '+' || x == '-'
  let isPart : Char → Bool := fun x => x.isDigit || List.contains separators x
  let isGap : Char → Bool := fun x => !isSign x && !x.isDigit && List.contains separators x
  have hgap : w.Sees (c.skipWhile isGap) := h.walk (Cursor.walk_skipWhile _ c)
  have hsign : w.Sees (c.skipWhile isGap).sign.2 := hgap.walk (Cursor.walk_sign _)
  have hpart : ∀ x, isGap x = true → isPart x = true := by
    intro x hx
    simp only [isGap, Bool.and_eq_true] at hx
    simp only [isPart, hx.2, Bool.or_true]
  have hmoves : ((c.skipWhile isGap).sign.2.skipWhile isPart).offset = c.offset ↔
      (c.ahead.head?.any fun x => isSign x || isPart x) = false := separated_moves rfl hpart c
  let digits := ((c.skipWhile isGap).sign.2.ahead.takeWhile isPart).filter Char.isDigit
  have hfrom : w.separatedFrom separators w.rounds 0 (c.skipWhile isGap).sign.2.offset =
      .ok (if Decimal.value digits ≤ Decimal.maxNumber then
        some ((Decimal.value digits : Int), ((c.skipWhile isGap).sign.2.skipWhile isPart).offset)
        else none) := separatedFrom_eq (n := 0) hsign hsign.rounds (Nat.zero_le _)
  have hmodel : c.separatedDigits? separators =
      if (c.ahead.head?.any fun x => isSign x || isPart x) = true ∧
          Decimal.value digits ≤ Decimal.maxNumber then
        some (if (c.skipWhile isGap).sign.1 then -(Decimal.value digits : Int)
          else Decimal.value digits, (c.skipWhile isGap).sign.2.skipWhile isPart)
      else none := guards_eq
  simp only [Window.separatedDigits]
  rw [h.skipWhile isGap]
  simp only [ok_bind, hgap.sign, hfrom, hmodel]
  by_cases hmax : Decimal.value digits ≤ Decimal.maxNumber
  · simp only [hmax, and_true, ↓reduceIte, signed_eq_ok hmax, ok_bind, pure_eq_ok]
    cases hany : c.ahead.head?.any fun x => isSign x || isPart x with
    | false => rw [if_pos (hmoves.2 hany)]; rfl
    | true =>
        rw [if_neg fun heq => Bool.false_ne_true ((hmoves.1 heq).symm.trans hany)]
        rfl
  · simp only [hmax, and_false, ↓reduceIte]
    rfl

theorem Sees.digitsBelow (bound : Nat) (h : w.Sees c) :
    w.digitsBelow bound c.offset = .ok (numberAt (c.digits?.filter (·.1 < bound))) := by
  simp only [Window.digitsBelow, h.digits, ok_bind, pure_eq_ok, numberAt]
  cases c.digits? with
  | none => rfl
  | some r => by_cases hr : r.1 < bound <;> simp [Option.filter_some, hr]

theorem lower_eq_iff {x : Char} (h : w.Sees c) (hx : IsAscii x) :
    (w.byte? c.offset).map lowerByte = some x.toUInt8 ↔
      c.ahead.head?.map Char.toLower = some x := by
  rw [h.byte?]
  cases c.ahead.head? with
  | none => simp
  | some y => simpa [lowerByte_lead] using lead_eq_iff hx

theorem move_lower {x : Char} (h : w.Sees c) (hx : IsAscii x)
    (hhead : c.ahead.head?.map Char.toLower = some x) :
    w.move (c.offset + 1) = .ok c.next.offset := by
  obtain ⟨y, hy, rfl⟩ := Option.map_eq_some_iff.1 hhead
  exact h.move_ascii hy (isAscii_of_toLower hx)

theorem Sees.seconds (h : w.Sees c) :
    w.seconds c.offset =
      .ok ((c.seconds?.filter fun (second, milli, _) => second < 60 ∧ milli < 1000).map
        fun (second, milli, d) => ((second : Int), (milli : Int), d.offset)) := by
  have hcolon : IsAscii ':' := by decide
  have hpoint : IsAscii '.' := by decide
  rw [seconds?_eq]
  simp only [Window.seconds, h.expect hcolon, ok_bind]
  cases h₁ : c.expect? ':' with
  | none => rfl
  | some c₁ =>
      have hw₁ := h.walk (Cursor.walk_expect? h₁)
      refine bind_agrees (hw₁.digitsBelow 60) rfl fun ⟨second, c₂⟩ h₂ => ?_
      obtain ⟨hd₂, -⟩ := Option.filter_eq_some_iff.1 h₂
      have hw₂ := hw₁.walk (Cursor.walk_digits? hd₂)
      simp only [hw₂.expect hpoint, ok_bind]
      cases h₃ : c₂.expect? '.' with
      | none => rfl
      | some c₃ =>
          have hw₃ := hw₂.walk (Cursor.walk_expect? h₃)
          exact bind_agrees (hw₃.digitsBelow 1000) rfl fun _ _ => rfl

theorem Sees.halfOfDay (hour : Nat) (h : w.Sees c) :
    w.halfOfDay hour c.offset =
      .ok (((c.halfOfDay hour).1 : Int), (c.halfOfDay hour).2.offset) := by
  have ha : IsAscii 'a' := by decide
  have hp : IsAscii 'p' := by decide
  have hm : IsAscii 'm' := by decide
  have hskip {d : Cursor} (hd : w.Sees d) (n : Int) :
      (if (w.byte? d.offset).map lowerByte = some 'm'.toUInt8 then do
        return (n, ← w.move (d.offset + 1)) else return (n, d.offset) : Checked (Int × Nat)) =
      .ok (n, (if (d.ahead.head?.map Char.toLower) = some 'm' then d.next else d).offset) := by
    simp only [lower_eq_iff hd hm]
    split
    · rename_i hhead
      simp [move_lower hd hm hhead]
    · rfl
  simp only [Window.halfOfDay, lower_eq_iff h ha, lower_eq_iff h hp]
  by_cases hha : c.ahead.head?.map Char.toLower = some 'a'
  · have hne : 'a' ≠ 'p' := by decide
    simp only [hha, Cursor.halfOfDay, Option.some.injEq, hne, true_or, false_and, ↓reduceIte,
      move_lower h ha hha, ok_bind]
    exact hskip h.next hour
  · by_cases hhp : c.ahead.head?.map Char.toLower = some 'p'
    · have hmax : (12 : Int) + 12 ≤ Decimal.maxNumber := by decide
      simp only [hhp, Cursor.halfOfDay, or_true, true_and, ↓reduceIte, move_lower h hp hhp, ok_bind]
      by_cases hlt : hour < 12
      · have hlt' : (hour : Int) < 12 := by omega
        rw [if_pos hlt', if_pos hlt, asNumber_eq_ok (by omega) (by omega), ok_bind]
        exact hskip h.next _
      · have hlt' : ¬(hour : Int) < 12 := by omega
        rw [if_neg hlt', if_neg hlt]
        exact hskip h.next _
    · have hnone : c.halfOfDay hour = (hour, c) := by
        rw [Cursor.halfOfDay]
        split
        · exact absurd ‹_› hha
        · exact absurd ‹_› hhp
        · rfl
      simp [hha, hhp, hnone]

theorem halfOfDay_le (hour : Nat) (c : Cursor) : (c.halfOfDay hour).1 ≤ hour + 12 := by
  rw [Cursor.halfOfDay]
  split
  · exact Nat.le_add_right _ _
  · simp only
    split
    · exact Nat.le_refl _
    · exact Nat.le_add_right _ _
  · exact Nat.le_add_right _ _

theorem Sees.time (h : w.Sees c) : w.time c.offset = .ok (atOffset c.time?) := by
  have hcolon : IsAscii ':' := by decide
  rw [time?_eq]
  refine bind_agrees (h.digitsBelow 24) rfl fun ⟨hour, c₁⟩ h₁ => ?_
  obtain ⟨hd₁, hhour⟩ := Option.filter_eq_some_iff.1 h₁
  have hw₁ := h.walk (Cursor.walk_digits? hd₁)
  refine bind_agrees (hw₁.expect hcolon) rfl fun c₂ h₂ => ?_
  have hw₂ := hw₁.walk (Cursor.walk_expect? h₂)
  refine bind_agrees (hw₂.digitsBelow 60) rfl fun ⟨minute, c₃⟩ h₃ => ?_
  obtain ⟨hd₃, hminute⟩ := Option.filter_eq_some_iff.1 h₃
  have hw₃ := hw₂.walk (Cursor.walk_digits? hd₃)
  refine bind_agrees hw₃.seconds rfl fun ⟨second, milli, c₄⟩ h₄ => ?_
  obtain ⟨hd₄, hseconds⟩ := Option.filter_eq_some_iff.1 h₄
  have hw₄ := hw₃.walk (Cursor.walk_seconds? hd₄)
  have hw₅ := hw₄.walk (Cursor.walk_halfOfDay hour c₄)
  -- the bounds that were checked are those of the casts
  have hle := halfOfDay_le hour c₄
  simp only [decide_eq_true_eq] at hhour hminute hseconds
  have hh : asUnsigned (c₄.halfOfDay hour).1 = .ok (c₄.halfOfDay hour).1 :=
    asUnsigned_eq_ok (by omega)
  have hm : asUnsigned minute = .ok minute := asUnsigned_eq_ok (by omega)
  have hs : asUnsigned second = .ok second := asUnsigned_eq_ok (by omega)
  have hms : asUnsigned milli = .ok milli := asUnsigned_eq_ok (by omega)
  simp only [hw₄.halfOfDay, ok_bind, hw₅.peek]
  split
  · rfl
  · simp only [hh, hm, hs, hms, ok_bind, pure_eq_ok, Option.map_map]
    rfl

def yearOrTimeAt (read : Option (YearOrTime × Cursor)) : Option ((Int ⊕ Time) × Nat) :=
  read.map fun
    | (.year y, d) => (.inl y, d.offset)
    | (.time t, d) => (.inr t, d.offset)

theorem Sees.yearOrTime (h : w.Sees c) :
    w.yearOrTime c.offset = .ok (yearOrTimeAt c.yearOrTime?) := by
  have hcolon : IsAscii ':' := by decide
  rw [yearOrTime?_eq]
  refine bind_agrees h.digits rfl fun ⟨first, c₁⟩ h₁ => ?_
  have hw₁ := h.walk (Cursor.walk_digits? h₁)
  simp only [byte?_eq_iff hw₁ hcolon]
  by_cases htime : first < 24 ∧ c₁.ahead.head? = some ':'
  · have hcast : (first : Int) < 24 ∧ c₁.ahead.head? = some ':' := ⟨by omega, htime.2⟩
    rw [if_pos htime, if_pos hcast, hw₁.move_ascii htime.2 hcolon, ok_bind]
    refine bind_agrees (hw₁.next.digitsBelow 60) rfl fun ⟨minute, c₂⟩ h₂ => ?_
    obtain ⟨hd₂, hminute⟩ := Option.filter_eq_some_iff.1 h₂
    have hw₂ := hw₁.next.walk (Cursor.walk_digits? hd₂)
    simp only [decide_eq_true_eq] at hminute
    have hf : asUnsigned first = .ok first := asUnsigned_eq_ok (by omega)
    have hm : asUnsigned minute = .ok minute := asUnsigned_eq_ok (by omega)
    simp only [hw₂.nextIsAlphabetic, ok_bind]
    split
    · rfl
    · simp only [hf, hm, ok_bind, pure_eq_ok, Option.map_map]
      rfl
  · have hcast : ¬((first : Int) < 24 ∧ c₁.ahead.head? = some ':') :=
      fun hc => htime ⟨by omega, hc.2⟩
    rw [if_neg htime, if_neg hcast]
    by_cases hyear : 1601 ≤ first ∧ first < 10000
    · have hcast' : 1601 ≤ (first : Int) ∧ (first : Int) < 10000 := by omega
      rw [if_pos hyear, if_pos hcast', hw₁.nextIsAlphabetic, ok_bind]
      split
      · rfl
      · by_cases hf : first = 1601
        · simp [hf]
        · have hf' : ¬(first : Int) = 1601 := by omega
          simp [hf, hf']
    · have hcast' : ¬(1601 ≤ (first : Int) ∧ (first : Int) < 10000) := by omega
      rw [if_neg hyear, if_neg hcast']
      rfl

end Window

end ListingRules.Bytewise
