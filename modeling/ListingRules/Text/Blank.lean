import ListingRules.Text.Basic

namespace ListingRules.Text

def isLineEnd (c : Char) : Bool :=
  c == '\r' || c == '\n'

def isSpace (c : Char) : Bool :=
  decide (c ≤ ' ')

def isVisible (c : Char) : Bool :=
  !isSpace c

def isBlank (c : Char) : Bool :=
  isSpace c && !isLineEnd c

def isSpaceOrTab (c : Char) : Bool :=
  c == ' ' || c == '\t'

theorem isSpace_of_isLineEnd {c : Char} (h : isLineEnd c = true) : isSpace c = true := by
  simp only [isLineEnd, Bool.or_eq_true, beq_iff_eq] at h
  rcases h with rfl | rfl <;> decide

theorem isLineEnd_eq_false_of_isVisible {c : Char} (h : isVisible c = true) :
    isLineEnd c = false := by
  cases hc : isLineEnd c with
  | false => rfl
  | true => simp [isVisible, isSpace_of_isLineEnd hc] at h

theorem isVisible_of_isDigit {c : Char} (h : c.isDigit = true) : isVisible c = true := by
  simp only [Char.isDigit, Bool.and_eq_true, decide_eq_true_eq] at h
  have hspace : ¬ c ≤ ' ' := fun hc => absurd (Char.le_trans h.1 hc) (by decide)
  simp [isVisible, isSpace, hspace]

theorem isBlank_eq_false_of_isVisible {c : Char} (h : isVisible c = true) : isBlank c = false := by
  have hspace : isSpace c = false := by simpa [isVisible] using h
  simp [isBlank, hspace]

def trimStart (t : Text) : Text :=
  t.dropWhile isSpace

def trimEnd (t : Text) : Text :=
  (t.reverse.dropWhile isSpace).reverse

end ListingRules.Text
