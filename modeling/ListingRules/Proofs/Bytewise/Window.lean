import ListingRules.Proofs.Bytewise.Bytes
import ListingRules.Proofs.Walk

namespace ListingRules.Bytewise

open Text (byteCount isLineEnd)
open Character (isAlphabetic)
open Cursor (Walk Spans)

structure Window where
  text : Text
  start : Nat
  deriving DecidableEq, Repr

namespace Window

def move (w : Window) (i : Nat) : Checked Nat :=
  if i < w.start then .error .start
  else if isBoundary w.text i then .ok i
  else .error .boundary

theorem move_eq_ok_iff {w : Window} {i j : Nat} :
    w.move i = .ok j ↔ i = j ∧ w.start ≤ i ∧ ∃ a b, w.text = a ++ b ∧ byteCount a = i := by
  rw [← isBoundary_iff, move]
  by_cases hi : i < w.start
  · rw [if_pos hi]
    simp only [reduceCtorEq, false_iff, not_and]
    omega
  · cases hb : isBoundary w.text i with
    | true => simp [hi, Nat.not_lt.1 hi]
    | false => simp [hi]

def peek (w : Window) (i : Nat) : Checked (Option Char) := do
  let rest ← sliceFrom w.text i
  return rest.head?

def byte? (w : Window) (i : Nat) : Option UInt8 :=
  byteAt? w.text i

def rounds (w : Window) : Nat :=
  byteCount w.text + 1

def skipFrom (w : Window) (p : Char → Bool) : Nat → Nat → Checked Nat
  | 0, _ => .error .endless
  | n + 1, i => do
      match (← w.peek i).filter p with
      | none => return i
      | some c =>
          let j ← w.move (i + c.utf8Size)
          skipFrom w p n j

def skipWhile (w : Window) (p : Char → Bool) (i : Nat) : Checked Nat :=
  w.skipFrom p w.rounds i

def lineEnd (w : Window) (i : Nat) : Checked Nat := do
  let rest ← sliceFrom w.text i
  return (findByte? isLineEnd rest).elim (byteCount w.text) (i + ·)

def nextIsAlphabetic (w : Window) (i : Nat) : Checked Bool := do
  return (← w.peek i).any isAlphabetic

def forward (w : Window) (p : Char → Bool) : Nat → Nat → Checked (Option Nat)
  | 0, i => .ok (some i)
  | n + 1, i => do
      match (← w.peek i).filter p with
      | none => return none
      | some c =>
          let j ← w.move (i + c.utf8Size)
          forward w p n j

def back (w : Window) (i : Nat) : Checked (Option Nat) := do
  let before ← sliceTo w.text i
  match before.getLast?.filter (! isLineEnd ·) with
  | none => return none
  | some c =>
      let j ← minus i c.utf8Size
      return some (← w.move j)

def backward (w : Window) : Nat → Nat → Checked (Option Nat)
  | 0, i => .ok (some i)
  | n + 1, i => do
      match ← w.back i with
      | none => return none
      | some j => backward w n j

def expect (w : Window) (x : Char) (i : Nat) : Checked (Option Nat) := do
  if w.byte? i = some x.toUInt8 then
    return some (← w.move (i + 1))
  else
    return none

def Sees (w : Window) (c : Cursor) : Prop :=
  ∃ start : Cursor, start.StartsLine ∧ w = ⟨start.text, start.offset⟩ ∧ Walk start c

variable {w : Window} {c d : Cursor}

theorem Sees.walk (h : w.Sees c) (hw : Walk c d) : w.Sees d := by
  obtain ⟨start, hline, rfl, hc⟩ := h
  exact ⟨start, hline, rfl, hc.trans hw⟩

theorem sees_text (c : Cursor) : Sees ⟨c.text, 0⟩ c := by
  have hwalk := Cursor.walk_advance c.behind.reverse.length (Cursor.ofText c.text)
  rw [Cursor.ofText, Cursor.text, Cursor.advance_append, List.reverse_reverse,
    List.append_nil] at hwalk
  exact ⟨Cursor.ofText c.text, by simp [Cursor.StartsLine, Cursor.ofText], rfl, hwalk⟩

theorem Sees.text_eq (h : w.Sees c) : w.text = c.behind.reverse ++ c.ahead := by
  obtain ⟨start, -, rfl, hc⟩ := h
  exact (Cursor.text_walk hc).symm

theorem Sees.start_le (h : w.Sees c) : w.start ≤ c.offset := by
  obtain ⟨start, hline, rfl, hc⟩ := h
  obtain ⟨t, ht⟩ := Cursor.spans_walk hline hc
  simp only [Cursor.offset, ht.2, Text.byteCount_append]
  omega

theorem offset_eq (c : Cursor) : c.offset = byteCount c.behind.reverse := by
  simp [Cursor.offset]

theorem Sees.move (h : w.Sees c) : w.move c.offset = .ok c.offset :=
  move_eq_ok_iff.2 ⟨rfl, h.start_le, _, _, h.text_eq, (offset_eq c).symm⟩

theorem Sees.sliceFrom (h : w.Sees c) : sliceFrom w.text c.offset = .ok c.ahead := by
  rw [h.text_eq, offset_eq]
  exact sliceFrom_append _ _

theorem Sees.sliceTo (h : w.Sees c) : sliceTo w.text c.offset = .ok c.behind.reverse := by
  rw [h.text_eq, offset_eq]
  exact sliceTo_append _ _

theorem Sees.slice {t : Text} (h : w.Sees c) (hs : Spans c d t) :
    slice w.text c.offset d.offset = .ok t := by
  refine slice_eq_ok_iff.2 ⟨c.behind.reverse, d.ahead, ?_, (offset_eq c).symm, ?_⟩
  · rw [h.text_eq, hs.1, List.append_assoc]
  · simp [offset_eq, hs.2, Nat.add_comm]

theorem Sees.peek (h : w.Sees c) : w.peek c.offset = .ok c.ahead.head? := by
  simp [Window.peek, h.sliceFrom]

theorem Sees.byte? (h : w.Sees c) : w.byte? c.offset = c.ahead.head?.map lead := by
  rw [Window.byte?, h.text_eq, offset_eq]
  exact byteAt?_at _ _

theorem Sees.rounds (h : w.Sees c) : c.ahead.length < w.rounds := by
  have := Text.length_le_byteCount c.ahead
  simp only [Window.rounds, h.text_eq, Text.byteCount_append]
  omega

theorem offset_next {x : Char} (hx : c.ahead.head? = some x) :
    c.next.offset = c.offset + x.utf8Size := by
  obtain ⟨b, t⟩ := c
  cases t with
  | nil => simp at hx
  | cons y t =>
      obtain rfl := Option.some.inj hx
      simp [Cursor.offset, Nat.add_comm]

theorem Sees.next (h : w.Sees c) : w.Sees c.next :=
  h.walk (Cursor.walk_next c)

theorem Sees.move_next {x : Char} (h : w.Sees c) (hx : c.ahead.head? = some x) :
    w.move (c.offset + x.utf8Size) = .ok c.next.offset := by
  rw [← offset_next hx]
  exact h.next.move

theorem Sees.move_ascii {x : Char} (h : w.Sees c) (hx : c.ahead.head? = some x) (ha : IsAscii x) :
    w.move (c.offset + 1) = .ok c.next.offset := by
  rw [← utf8Size_of_isAscii ha]
  exact h.move_next hx

theorem skipFrom_eq {p : Char → Bool} {n : Nat} (h : w.Sees c) (hn : c.ahead.length < n) :
    w.skipFrom p n c.offset = .ok (c.skipWhile p).offset := by
  obtain ⟨b, t⟩ := c
  induction t generalizing b n with
  | nil =>
      obtain _ | n := n
      · simp at hn
      · simp [skipFrom, h.peek, Cursor.skipWhile_nil]
  | cons x t ih =>
      obtain _ | n := n
      · simp at hn
      · simp only [skipFrom, h.peek, ok_bind]
        cases hx : p x with
        | false => simp [Option.filter_some, hx, Cursor.skipWhile_cons]
        | true =>
            have hrest := ih (x :: b) h.next (Nat.lt_of_succ_lt_succ hn)
            simpa [Option.filter_some, hx, h.move_next (x := x) rfl, Cursor.skipWhile_cons]
              using hrest

theorem Sees.skipWhile (p : Char → Bool) (h : w.Sees c) :
    w.skipWhile p c.offset = .ok (c.skipWhile p).offset :=
  skipFrom_eq h h.rounds

theorem Sees.lineEnd (h : w.Sees c) :
    w.lineEnd c.offset = .ok (c.skipWhile (! isLineEnd ·)).offset := by
  have htext : byteCount w.text = c.offset + byteCount c.ahead := by
    simp [h.text_eq, Cursor.offset]
  have hfind := findByte?_getD isLineEnd c.ahead
  have hoff : (c.skipWhile (! isLineEnd ·)).offset =
      c.offset + byteCount (c.ahead.takeWhile (! isLineEnd ·)) := by
    simp [Cursor.skipWhile, Cursor.offset, Nat.add_comm]
  simp only [Window.lineEnd, h.sliceFrom, ok_bind, htext, hoff, ← hfind]
  cases findByte? isLineEnd c.ahead <;> rfl

theorem Sees.nextIsAlphabetic (h : w.Sees c) :
    w.nextIsAlphabetic c.offset = .ok c.nextIsAlphabetic := by
  simp [Window.nextIsAlphabetic, h.peek, Cursor.nextIsAlphabetic]

theorem Sees.forward {p : Char → Bool} (n : Nat) (h : w.Sees c) :
    w.forward p n c.offset = .ok ((c.forward? p n).map Cursor.offset) := by
  induction n generalizing c with
  | zero => rfl
  | succ n ih =>
      simp only [Window.forward, h.peek, ok_bind, Cursor.forward?]
      cases hx : c.ahead.head? with
      | none => simp
      | some x =>
          cases hp : p x with
          | false => simp [Option.filter_some, hp]
          | true => simp [Option.filter_some, hp, h.move_next hx, ih h.next]

theorem Sees.back (h : w.Sees c) : w.back c.offset = .ok (c.back?.map Cursor.offset) := by
  obtain ⟨b, t⟩ := c
  cases b with
  | nil => simp [Window.back, h.sliceTo, Cursor.back?]
  | cons x b =>
      simp only [Window.back, h.sliceTo, ok_bind, Cursor.back?]
      cases hx : isLineEnd x with
      | true => simp [Option.filter_some, hx]
      | false =>
          have hd : w.Sees ⟨b, x :: t⟩ := h.walk (.single (.back b x t hx))
          have hle : x.utf8Size ≤ x.utf8Size + byteCount b := Nat.le_add_right _ _
          have hmove : w.move (byteCount b) = .ok (byteCount b) := hd.move
          simp [Option.filter_some, hx, minus_eq_ok hle, Cursor.offset, hmove]

theorem Sees.backward (n : Nat) (h : w.Sees c) :
    w.backward n c.offset = .ok ((c.backward? n).map Cursor.offset) := by
  induction n generalizing c with
  | zero => rfl
  | succ n ih =>
      simp only [Window.backward, h.back, ok_bind, Cursor.backward?]
      cases hd : c.back? with
      | none => simp
      | some d => simpa using ih (h.walk (Cursor.walk_back? hd))

theorem byte?_eq_iff {x : Char} (h : w.Sees c) (hx : IsAscii x) :
    w.byte? c.offset = some x.toUInt8 ↔ c.ahead.head? = some x := by
  rw [h.byte?]
  cases c.ahead.head? with
  | none => simp
  | some y => simpa using lead_eq_iff hx

theorem Sees.expect {x : Char} (h : w.Sees c) (hx : IsAscii x) :
    w.expect x c.offset = .ok ((c.expect? x).map Cursor.offset) := by
  simp only [Window.expect, byte?_eq_iff h hx, Cursor.expect?]
  split
  · rename_i hhead
    simp [h.move_ascii hhead hx]
  · rfl

end Window

end ListingRules.Bytewise
