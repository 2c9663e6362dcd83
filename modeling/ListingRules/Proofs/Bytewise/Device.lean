import ListingRules.Proofs.Bytewise.Reader

namespace ListingRules.Bytewise

open Text (isLineEnd isSpace isBlank)
open Character (isAlphabetic)
open Cursor (Walk Spans)

inductive DeviceState where
  | major
  | gap
  | comma
  | minor
  | done
  | wrong
  deriving DecidableEq, Repr

def DeviceState.step : DeviceState → Char → DeviceState
  | major, c =>
      if c.isDigit then major else if isSpace c then gap else if c = ',' then comma else wrong
  | gap, c => if c = ',' then comma else if isSpace c then gap else wrong
  | comma, c => if isSpace c then comma else if c.isDigit then minor else wrong
  | minor, c => if c.isDigit then minor else if isAlphabetic c then wrong else done
  | done, _ => wrong
  | wrong, _ => wrong

namespace Window

def deviceFrom (w : Window) : Nat → DeviceState → Nat → Checked (Option Nat)
  | 0, _, _ => .error .endless
  | k + 1, s, i => do
      match (← w.peek i).filter (! isLineEnd ·) with
      | none => return if s = .minor then some i else none
      | some c =>
          match s.step c with
          | .done => return some i
          | .wrong => return none
          | s =>
              let j ← w.move (i + c.utf8Size)
              deviceFrom w k s j

def device (w : Window) (i : Nat) : Checked (Option Nat) := do
  if ((w.byte? i).map isDigitByte).getD false then w.deviceFrom w.rounds .major i
  else return none

variable {w : Window} {c d : Cursor} {k : Nat}

def minor? (c : Cursor) : Option Cursor :=
  let d := c.skipWhile Char.isDigit
  if d.nextIsAlphabetic then none else some d

def comma? (c : Cursor) : Option Cursor :=
  let d := c.skipWhile isBlank
  if d.ahead.head?.any Char.isDigit then minor? d else none

def gap? (c : Cursor) : Option Cursor :=
  ((c.skipWhile isBlank).expect? ',').bind comma?

theorem deviceFrom_end {s : DeviceState} (h : w.Sees c) (hend : c.atLineEnd = true) :
    w.deviceFrom (k + 1) s c.offset = .ok (if s = .minor then some c.offset else none) := by
  have hnone : c.ahead.head?.filter (! isLineEnd ·) = none := by
    obtain ⟨b, t⟩ := c
    cases t with
    | nil => rfl
    | cons x t =>
        have hx : isLineEnd x = true := hend
        simp [Option.filter_some, hx]
  simp [deviceFrom, h.peek, hnone]

theorem deviceFrom_on {b t : Text} {x : Char} {s : DeviceState} (h : w.Sees ⟨b, x :: t⟩)
    (hx : isLineEnd x = false) (hd : s.step x ≠ .done) (hw : s.step x ≠ .wrong) :
    w.deviceFrom (k + 1) s (Cursor.offset ⟨b, x :: t⟩) =
      w.deviceFrom k (s.step x) (Cursor.offset ⟨x :: b, t⟩) := by
  simp only [deviceFrom, h.peek, List.head?_cons, ok_bind, Option.filter_some, hx, Bool.not_false,
    ↓reduceIte, h.move_next (x := x) rfl, Cursor.next_cons]

theorem deviceFrom_wrong {b t : Text} {x : Char} {s : DeviceState} (h : w.Sees ⟨b, x :: t⟩)
    (hx : isLineEnd x = false) (hw : s.step x = .wrong) :
    w.deviceFrom (k + 1) s (Cursor.offset ⟨b, x :: t⟩) = .ok none := by
  simp [deviceFrom, h.peek, Option.filter_some, hx, hw]

theorem deviceFrom_done {b t : Text} {x : Char} {s : DeviceState} (h : w.Sees ⟨b, x :: t⟩)
    (hx : isLineEnd x = false) (hw : s.step x = .done) :
    w.deviceFrom (k + 1) s (Cursor.offset ⟨b, x :: t⟩) =
      .ok (some (Cursor.offset ⟨b, x :: t⟩)) := by
  simp [deviceFrom, h.peek, Option.filter_some, hx, hw]

theorem isAlphabetic_of_isLineEnd {x : Char} (h : isLineEnd x = true) : isAlphabetic x = false := by
  simp only [isLineEnd, Bool.or_eq_true, beq_iff_eq] at h
  rcases h with rfl | rfl <;> decide

theorem isDigit_of_isLineEnd {x : Char} (h : isLineEnd x = true) : x.isDigit = false := by
  simp only [isLineEnd, Bool.or_eq_true, beq_iff_eq] at h
  rcases h with rfl | rfl <;> decide

theorem deviceFrom_minor (h : w.Sees c) (hk : c.ahead.length < k) :
    w.deviceFrom k .minor c.offset = .ok ((minor? c).map Cursor.offset) := by
  obtain ⟨b, t⟩ := c
  induction t generalizing b k with
  | nil =>
      obtain _ | k := k
      · simp at hk
      · rw [deviceFrom_end h rfl]
        rfl
  | cons x t ih =>
      obtain _ | k := k
      · simp at hk
      · cases hx : isLineEnd x with
        | true =>
            rw [deviceFrom_end h hx]
            simp [minor?, Cursor.skipWhile_cons, isDigit_of_isLineEnd hx, Cursor.nextIsAlphabetic,
              isAlphabetic_of_isLineEnd hx]
        | false =>
            cases hd : x.isDigit with
            | true =>
                have hs : DeviceState.minor.step x = .minor := by simp [DeviceState.step, hd]
                rw [deviceFrom_on h hx (by simp [hs]) (by simp [hs]), hs,
                  ih (x :: b) h.next (Nat.lt_of_succ_lt_succ hk)]
                simp [minor?, Cursor.skipWhile_cons, hd]
            | false =>
                cases ha : isAlphabetic x with
                | true =>
                    rw [deviceFrom_wrong h hx (by simp [DeviceState.step, hd, ha])]
                    simp [minor?, Cursor.skipWhile_cons, hd, Cursor.nextIsAlphabetic, ha]
                | false =>
                    rw [deviceFrom_done h hx (by simp [DeviceState.step, hd, ha])]
                    simp [minor?, Cursor.skipWhile_cons, hd, Cursor.nextIsAlphabetic, ha]

theorem deviceFrom_comma (h : w.Sees c) (hk : c.ahead.length < k) :
    w.deviceFrom k .comma c.offset = .ok ((comma? c).map Cursor.offset) := by
  obtain ⟨b, t⟩ := c
  induction t generalizing b k with
  | nil =>
      obtain _ | k := k
      · simp at hk
      · rw [deviceFrom_end h rfl]
        rfl
  | cons x t ih =>
      obtain _ | k := k
      · simp at hk
      · cases hx : isLineEnd x with
        | true =>
            rw [deviceFrom_end h hx]
            simp [comma?, Cursor.skipWhile_cons, isBlank, hx, isDigit_of_isLineEnd hx]
        | false =>
            have hlen := Nat.lt_of_succ_lt_succ hk
            cases hs : isSpace x with
            | true =>
                have hstep : DeviceState.comma.step x = .comma := by simp [DeviceState.step, hs]
                have hblank : isBlank x = true := by simp [isBlank, hs, hx]
                rw [deviceFrom_on h hx (by simp [hstep]) (by simp [hstep]), hstep,
                  ih (x :: b) h.next hlen, comma?, comma?, Cursor.skipWhile_cons, if_pos hblank]
            | false =>
                cases hd : x.isDigit with
                | true =>
                    have hstep : DeviceState.comma.step x = .minor := by
                      simp [DeviceState.step, hs, hd]
                    have hcomma : comma? ⟨b, x :: t⟩ = minor? ⟨b, x :: t⟩ := by
                      simp [comma?, Cursor.skipWhile_cons, isBlank, hs, hd]
                    have hminor : minor? ⟨b, x :: t⟩ = minor? ⟨x :: b, t⟩ := by
                      rw [minor?, minor?, Cursor.skipWhile_cons, if_pos hd]
                    rw [deviceFrom_on h hx (by simp [hstep]) (by simp [hstep]), hstep, hcomma,
                      hminor]
                    exact deviceFrom_minor h.next hlen
                | false =>
                    rw [deviceFrom_wrong h hx (by simp [DeviceState.step, hs, hd])]
                    simp [comma?, Cursor.skipWhile_cons, isBlank, hs, hd]

theorem deviceFrom_gap (h : w.Sees c) (hk : c.ahead.length < k) :
    w.deviceFrom k .gap c.offset = .ok ((gap? c).map Cursor.offset) := by
  obtain ⟨b, t⟩ := c
  induction t generalizing b k with
  | nil =>
      obtain _ | k := k
      · simp at hk
      · rw [deviceFrom_end h rfl]
        rfl
  | cons x t ih =>
      obtain _ | k := k
      · simp at hk
      · cases hx : isLineEnd x with
        | true =>
            have hc : ¬x = ',' := by
              rintro rfl
              exact absurd hx (by decide)
            rw [deviceFrom_end h hx]
            simp [gap?, Cursor.skipWhile_cons, isBlank, hx, Cursor.expect?, hc]
        | false =>
            have hlen := Nat.lt_of_succ_lt_succ hk
            by_cases hc : x = ','
            · subst hc
              have hblank : isBlank ',' = false := by decide
              rw [deviceFrom_on h hx (by decide) (by decide)]
              exact (deviceFrom_comma h.next hlen).trans
                (by simp [gap?, Cursor.skipWhile_cons, hblank, Cursor.expect?])
            · cases hs : isSpace x with
              | true =>
                  have hstep : DeviceState.gap.step x = .gap := by simp [DeviceState.step, hc, hs]
                  rw [deviceFrom_on h hx (by simp [hstep]) (by simp [hstep]), hstep,
                    ih (x :: b) h.next hlen]
                  simp [gap?, Cursor.skipWhile_cons, isBlank, hs, hx]
              | false =>
                  rw [deviceFrom_wrong h hx (by simp [DeviceState.step, hc, hs])]
                  simp [gap?, Cursor.skipWhile_cons, isBlank, hs, Cursor.expect?, hc]

theorem deviceFrom_major (h : w.Sees c) (hk : c.ahead.length < k) :
    w.deviceFrom k .major c.offset =
      .ok ((gap? (c.skipWhile Char.isDigit)).map Cursor.offset) := by
  obtain ⟨b, t⟩ := c
  induction t generalizing b k with
  | nil =>
      obtain _ | k := k
      · simp at hk
      · rw [deviceFrom_end h rfl]
        rfl
  | cons x t ih =>
      have hgap := deviceFrom_gap h hk
      obtain _ | k := k
      · simp at hk
      · rw [Cursor.skipWhile_cons]
        cases hx : isLineEnd x with
        | true =>
            rw [deviceFrom_end h hx] at hgap ⊢
            simpa [isDigit_of_isLineEnd hx] using hgap
        | false =>
            cases hd : x.isDigit with
            | true =>
                have hstep : DeviceState.major.step x = .major := by simp [DeviceState.step, hd]
                rw [deviceFrom_on h hx (by simp [hstep]) (by simp [hstep]), hstep,
                  ih (x :: b) h.next (Nat.lt_of_succ_lt_succ hk)]
                simp
            | false =>
                -- behind the digits, the machine does what it does in the gap
                have hstep : DeviceState.major.step x = DeviceState.gap.step x := by
                  by_cases hc : x = ','
                  · subst hc
                    decide
                  · simp [DeviceState.step, hd, hc]
                simp only [Bool.false_eq_true, ↓reduceIte, ← hgap]
                simp [deviceFrom, h.peek, Option.filter_some, hx, hstep]

theorem device?_eq (c : Cursor) :
    c.device? =
      if c.ahead.head?.any Char.isDigit then gap? (c.skipWhile Char.isDigit) else none := by
  cases hd : c.ahead.head?.any Char.isDigit with
  | false => simp [Cursor.device?, guard, hd]
  | true =>
      have hcomma : gap? (c.skipWhile Char.isDigit) =
          (((c.skipWhile Char.isDigit).skipWhile isBlank).expect? ',').bind comma? := rfl
      simp only [Cursor.device?, guard, hd, ↓reduceIte, hcomma]
      cases ((c.skipWhile Char.isDigit).skipWhile isBlank).expect? ',' with
      | none => rfl
      | some d =>
          cases hd' : (d.skipWhile isBlank).ahead.head?.any Char.isDigit with
          | false =>
              simp only [Option.bind_eq_bind, Option.bind_some, comma?, hd']
              rfl
          | true =>
              simp only [Option.bind_eq_bind, Option.bind_some, comma?, hd', ↓reduceIte, minor?]
              cases ((d.skipWhile isBlank).skipWhile Char.isDigit).nextIsAlphabetic <;> rfl

theorem Sees.device (h : w.Sees c) :
    w.device c.offset = .ok (c.device?.map Cursor.offset) := by
  have hbyte : ((w.byte? c.offset).map isDigitByte).getD false =
      c.ahead.head?.any Char.isDigit := by
    rw [h.byte?]
    cases c.ahead.head? with
    | none => rfl
    | some x => exact isDigitByte_lead x
  rw [Window.device, hbyte, device?_eq]
  split
  · exact deviceFrom_major h h.rounds
  · rfl

end Window

def OnLine (c d : Cursor) : Prop :=
  ∃ t, Spans c d t ∧ ∀ x ∈ t, isLineEnd x = false

variable {c d e : Cursor}

theorem OnLine.trans (h : OnLine c d) (h' : OnLine d e) : OnLine c e := by
  obtain ⟨t, ht, hline⟩ := h
  obtain ⟨u, hu, hline'⟩ := h'
  refine ⟨t ++ u, ht.trans hu, fun x hx => ?_⟩
  rcases List.mem_append.1 hx with hx | hx
  · exact hline x hx
  · exact hline' x hx

theorem onLine_skipWhile {p : Char → Bool} (hp : ∀ x, p x = true → isLineEnd x = false)
    (c : Cursor) : OnLine c (c.skipWhile p) :=
  ⟨_, Cursor.spans_skipWhile p c,
    fun x hx => hp x (List.all_eq_true.1 List.all_takeWhile x hx)⟩

theorem onLine_expect? {x : Char} (hx : isLineEnd x = false) (h : c.expect? x = some d) :
    OnLine c d :=
  ⟨[x], Cursor.spans_expect? h, by simpa using hx⟩

theorem onLine_device? (h : c.device? = some d) : OnLine c d := by
  have hdigit (x : Char) (hx : x.isDigit = true) : isLineEnd x = false := by
    cases he : isLineEnd x with
    | false => rfl
    | true => exact absurd hx (by simp [Window.isDigit_of_isLineEnd he])
  have hblank (x : Char) (hx : isBlank x = true) : isLineEnd x = false := by
    simpa [isBlank] using (Bool.and_eq_true_iff.1 hx).2
  simp only [Cursor.device?, Option.bind_eq_bind, Option.bind_eq_some_iff, Option.pure_def,
    Option.some.injEq] at h
  obtain ⟨_, -, c₁, h₁, _, -, _, -, rfl⟩ := h
  have hgap : OnLine c ((c.skipWhile Char.isDigit).skipWhile isBlank) :=
    (onLine_skipWhile hdigit c).trans (onLine_skipWhile hblank _)
  have hcomma : OnLine c (c₁.skipWhile isBlank) :=
    (hgap.trans (onLine_expect? (by decide) h₁)).trans (onLine_skipWhile hblank c₁)
  exact hcomma.trans (onLine_skipWhile hdigit _)

theorem OnLine.spans (h : OnLine c d) :
    Spans c d (c.restOfLine.take (d.behind.length - c.behind.length)) := by
  obtain ⟨t, ht, hline⟩ := h
  have hlen : d.behind.length - c.behind.length = t.length := by
    rw [ht.2, List.length_append, List.length_reverse, Nat.add_sub_cancel]
  have hrest : c.restOfLine = t ++ d.ahead.takeWhile (! isLineEnd ·) := by
    rw [Cursor.restOfLine, ht.1]
    exact List.takeWhile_append_of_pos fun x hx => by simp [hline x hx]
  rw [hlen, hrest, List.take_left]
  exact ht

end ListingRules.Bytewise
