import ListingRules.Text.Blank

namespace ListingRules

structure Cursor where
  behind : Text
  ahead : Text
  deriving DecidableEq, Repr

namespace Cursor

def ofText (t : Text) : Cursor :=
  ⟨[], t⟩

def text (c : Cursor) : Text :=
  c.behind.reverse ++ c.ahead

def offset (c : Cursor) : Nat :=
  Text.byteCount c.behind

@[simp] theorem text_ofText (t : Text) : (ofText t).text = t := rfl

@[simp] theorem offset_ofText (t : Text) : (ofText t).offset = 0 := rfl

theorem offset_le (c : Cursor) : c.offset ≤ Text.byteCount c.text := by
  simp [offset, text]

def next (c : Cursor) : Cursor :=
  match c.ahead with
  | [] => c
  | x :: rest => ⟨x :: c.behind, rest⟩

@[simp] theorem next_cons (b : Text) (x : Char) (rest : Text) :
    (⟨b, x :: rest⟩ : Cursor).next = ⟨x :: b, rest⟩ := rfl

@[simp] theorem text_next (c : Cursor) : c.next.text = c.text := by
  obtain ⟨b, a⟩ := c
  cases a <;> simp [next, text]

def advance : Nat → Cursor → Cursor
  | 0, c => c
  | n + 1, c => advance n c.next

theorem advance_append {behind t u : Text} :
    advance t.length ⟨behind, t ++ u⟩ = ⟨t.reverse ++ behind, u⟩ := by
  induction t generalizing behind with
  | nil => rfl
  | cons x t ih =>
      rw [List.length_cons, advance, List.cons_append, next_cons, ih]
      simp

@[simp] theorem text_advance (n : Nat) (c : Cursor) : (advance n c).text = c.text := by
  induction n generalizing c with
  | zero => rfl
  | succ n ih => simp [advance, ih]

theorem ahead_advance (n : Nat) (c : Cursor) : (advance n c).ahead = c.ahead.drop n := by
  induction n generalizing c with
  | zero => rfl
  | succ n ih =>
      obtain ⟨b, a⟩ := c
      rw [advance, ih]
      cases a <;> simp [next]

def skipWhile (p : Char → Bool) (c : Cursor) : Cursor :=
  ⟨(c.ahead.takeWhile p).reverse ++ c.behind, c.ahead.dropWhile p⟩

@[simp] theorem ahead_skipWhile (p : Char → Bool) (c : Cursor) :
    (c.skipWhile p).ahead = c.ahead.dropWhile p := rfl

@[simp] theorem text_skipWhile (p : Char → Bool) (c : Cursor) :
    (c.skipWhile p).text = c.text := by
  simp [skipWhile, text]

theorem skipWhile_nil (p : Char → Bool) (b : Text) : skipWhile p ⟨b, []⟩ = ⟨b, []⟩ := rfl

theorem skipWhile_cons (p : Char → Bool) (b : Text) (x : Char) (t : Text) :
    skipWhile p ⟨b, x :: t⟩ = if p x then skipWhile p ⟨x :: b, t⟩ else ⟨b, x :: t⟩ := by
  cases hx : p x <;> simp [skipWhile, hx]

def back? (c : Cursor) : Option Cursor :=
  match c.behind with
  | [] => none
  | x :: rest => if Text.isLineEnd x then none else some ⟨rest, x :: c.ahead⟩

def restOfLine (c : Cursor) : Text :=
  c.ahead.takeWhile (! Text.isLineEnd ·)

def atLineEnd (c : Cursor) : Bool :=
  match c.ahead with
  | [] => true
  | x :: _ => Text.isLineEnd x

/-- Past the line end at the place: a carriage return, a line feed, or both in this order. -/
def skipLineEnd (c : Cursor) : Cursor :=
  let d := if c.ahead.head? = some '\r' then c.next else c
  if d.ahead.head? = some '\n' then d.next else d

@[simp] theorem text_skipLineEnd (c : Cursor) : c.skipLineEnd.text = c.text := by
  simp only [skipLineEnd]
  split <;> split <;> simp

def toEnd (c : Cursor) : Cursor :=
  ⟨c.ahead.reverse ++ c.behind, []⟩

@[simp] theorem text_toEnd (c : Cursor) : c.toEnd.text = c.text := by
  simp [toEnd, text]

def at? (t : Text) (offset : Nat) : Option Cursor :=
  (Text.splitAtByte? offset t).map fun (before, after) => ⟨before.reverse, after⟩

theorem at?_offset (c : Cursor) : at? c.text c.offset = some c := by
  obtain ⟨b, a⟩ := c
  have h := Text.splitAtByte?_append b.reverse a
  rw [Text.byteCount_reverse] at h
  simp [at?, text, offset, h]

end Cursor

end ListingRules
