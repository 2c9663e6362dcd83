import ListingRules.Text.Blank

namespace ListingRules.Listing

open Text (isLineEnd isVisible)

structure Line where
  content : Text
  ending : Text
  deriving DecidableEq, Repr

def Line.text (l : Line) : Text :=
  l.content ++ l.ending

def Line.cons (c : Char) (l : Line) : Line :=
  { l with content := c :: l.content }

def lines : Text → List Line
  | [] => []
  | '\r' :: '\n' :: t => ⟨[], ['\r', '\n']⟩ :: lines t
  | c :: t =>
      if isLineEnd c then ⟨[], [c]⟩ :: lines t
      else match lines t with
        | [] => [⟨[c], []⟩]
        | l :: more => l.cons c :: more

theorem flatMap_text_lines (t : Text) : (lines t).flatMap Line.text = t := by
  fun_induction lines t with
  | case1 => rfl
  | case2 t ih => simp [Line.text, ih]
  | case3 c t _ h ih => simp [Line.text, ih]
  | case4 c t _ h hl ih =>
      rw [hl] at ih
      simp [Line.text, ← ih]
  | case5 c t _ h l more hl ih =>
      rw [hl] at ih
      simp [Line.text, Line.cons, ← ih]

def countLineEnds : Text → Nat
  | [] => 0
  | '\r' :: '\n' :: t => countLineEnds t + 1
  | c :: t => if isLineEnd c then countLineEnds t + 1 else countLineEnds t

structure Span where
  start : Nat
  stop : Nat
  deriving DecidableEq, Repr

def Span.contains (s : Span) (offset : Nat) : Bool :=
  decide (s.start ≤ offset) && decide (offset < s.stop)

/-- The first nonempty line of a text, when a line that starts at `start` has been read up to
`offset`. The span takes in the line's end, or the end of the text. -/
def firstNonemptyFrom (start offset : Nat) (nonempty : Bool) : Text → Option Span
  | [] => if nonempty then some ⟨start, offset + 1⟩ else none
  | '\r' :: '\n' :: t =>
      if nonempty then some ⟨start, offset + 2⟩
      else firstNonemptyFrom (offset + 2) (offset + 2) false t
  | c :: t =>
      if isLineEnd c then
        if nonempty then some ⟨start, offset + 1⟩
        else firstNonemptyFrom (offset + 1) (offset + 1) false t
      else firstNonemptyFrom start (offset + c.utf8Size) (nonempty || isVisible c) t

/-- The last nonempty line of a text that is given from its end, when a line that stops at `stop`
has been read back to `offset`. -/
def lastNonemptyFrom (stop offset : Nat) (nonempty : Bool) : Text → Option Span
  | [] => if nonempty then some ⟨0, stop⟩ else none
  | '\n' :: '\r' :: t =>
      if nonempty then some ⟨offset, stop⟩ else lastNonemptyFrom offset (offset - 2) false t
  | c :: t =>
      if isLineEnd c then
        if nonempty then some ⟨offset, stop⟩ else lastNonemptyFrom offset (offset - 1) false t
      else lastNonemptyFrom stop (offset - c.utf8Size) (nonempty || isVisible c) t

structure NonemptyLines where
  first : Option Span
  last : Option Span
  deriving DecidableEq, Repr

def NonemptyLines.ofText (t : Text) : NonemptyLines :=
  let size := Text.byteCount t
  ⟨firstNonemptyFrom 0 0 false t, lastNonemptyFrom (size + 1) size false t.reverse⟩

end ListingRules.Listing
