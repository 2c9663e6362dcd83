import ListingRules.Text.Cursor
import ListingRules.Text.Search

namespace ListingRules

/-- What searches texts for patterns, without regard to letter case. It makes a pattern of a source
or refuses it, perhaps with an explanation, and tells the offset of the first match at or behind a
place. -/
class PatternEngine where
  Compiled : Type
  [decEq : DecidableEq Compiled]
  read : Text → Except (Option Text) Compiled
  find? : Compiled → Cursor → Option Nat

attribute [reducible, instance] PatternEngine.decEq

namespace PatternEngine

/-- An engine that asks a second one about the sources that the first refuses. -/
@[reducible]
def orElse (first second : PatternEngine) : PatternEngine where
  Compiled := first.Compiled ⊕ second.Compiled
  decEq := @instDecidableEqSum _ _ first.decEq second.decEq
  read source :=
    match first.read source with
    | .ok p => .ok (.inl p)
    | .error _ => (second.read source).map .inr
  find? p place := p.elim (first.find? · place) (second.find? · place)

theorem orElse_read_eq_error_iff {first second : PatternEngine} {source : Text}
    {reason : Option Text} :
    (first.orElse second).read source = .error reason ↔
      (∃ r, first.read source = .error r) ∧ second.read source = .error reason := by
  have hread : (first.orElse second).read source =
      match first.read source with
      | .ok p => .ok (.inl p)
      | .error _ => (second.read source).map .inr := rfl
  rw [hread]
  cases first.read source with
  | ok p => simp
  | error r => cases second.read source <;> simp [Except.map]

end PatternEngine

inductive Searcher [PatternEngine] where
  | substring (wanted : Text)
  | pattern (source : Text) (compiled : PatternEngine.Compiled)
  deriving DecidableEq

namespace Searcher

variable [PatternEngine]

def source : Searcher → Text
  | substring wanted => wanted
  | pattern source _ => source

def findFrom? (s : Searcher) (t : Text) (start : Nat) : Option Nat :=
  match s with
  | substring wanted => Text.findFrom? wanted t start
  | pattern _ p => (Cursor.at? t start).bind (PatternEngine.find? p)

def foundIn (s : Searcher) (t : Text) : Bool :=
  (s.findFrom? t 0).isSome

end Searcher

end ListingRules
