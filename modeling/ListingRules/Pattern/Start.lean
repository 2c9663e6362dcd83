import ListingRules.Pattern.Node

namespace ListingRules.Pattern

def placesFrom : Text → Text → List Cursor
  | behind, [] => [⟨behind, []⟩]
  | behind, c :: ahead => ⟨behind, c :: ahead⟩ :: placesFrom (c :: behind) ahead

abbrev Marks := List Bool

namespace Marks

def union (a b : Marks) : Marks :=
  a.zipWith (· || ·) b

def keep (p : Cursor → Bool) (places : List Cursor) (m : Marks) : Marks :=
  places.zipWith (fun c marked => p c && marked) m

def shift (m : Marks) : Marks :=
  m.drop 1 ++ [false]

def repeated (step : Marks → Marks) : Nat → Marks → Marks
  | 0, m => m
  | n + 1, m => repeated step n (step m)

def closed (step : Marks → Marks) : Nat → Marks → Marks
  | 0, m => m
  | n + 1, m =>
      let more := m.union (step m)
      if more = m then m else closed step n more

theorem length_union {a b : Marks} (h : a.length = b.length) :
    (a.union b).length = a.length := by
  simp [union, h]

theorem length_keep {p : Cursor → Bool} {places : List Cursor} {m : Marks}
    (h : m.length = places.length) : (keep p places m).length = places.length := by
  simp [keep, h]

theorem length_shift {m : Marks} (h : 0 < m.length) : m.shift.length = m.length := by
  simp only [shift, List.length_append, List.length_drop, List.length_singleton]
  omega

theorem length_repeated {step : Marks → Marks} {size : Nat}
    (h : ∀ m : Marks, m.length = size → (step m).length = size) (n : Nat) {m : Marks}
    (hm : m.length = size) : (repeated step n m).length = size := by
  induction n generalizing m with
  | zero => exact hm
  | succ n ih => exact ih (h m hm)

theorem length_closed {step : Marks → Marks} {size : Nat}
    (h : ∀ m : Marks, m.length = size → (step m).length = size) (n : Nat) {m : Marks}
    (hm : m.length = size) : (closed step n m).length = size := by
  induction n generalizing m with
  | zero => exact hm
  | succ n ih =>
      simp only [closed]
      split
      · exact hm
      · exact ih (by rw [length_union (by rw [hm, h m hm]), hm])

end Marks

namespace Node

/-- What a part matches does not depend on how other parts have matched, nor on the order in which
its matches are tried. -/
def isRegular : Node → Bool
  | empty | set _ | assertion _ => true
  | sequence a b | choice a b => a.isRegular && b.isRegular
  | repetition body .. | group _ body => body.isRegular
  | _ => false

/-- The places where a match of a regular part starts that ends at one of the marked places. More
times than there are places mark nothing new. -/
def starts (origin : Cursor) (places : List Cursor) : Node → Marks → Marks
  | empty, m => m
  | set s, m => Marks.keep (fun c => c.ahead.head?.any s.contains) places m.shift
  | assertion a, m => Marks.keep (a.holds origin) places m
  | sequence a b, m => a.starts origin places (b.starts origin places m)
  | choice a b, m => (a.starts origin places m).union (b.starts origin places m)
  | repetition body least most _, m =>
      let size := places.length
      let step := body.starts origin places
      Marks.repeated step (min least size)
        (Marks.closed step (most.elim size fun n => min size (n - least)) m)
  | group _ body, m => body.starts origin places m
  | _, m => m.map fun _ => false

def firstStart? (whole : Node) (c : Cursor) : Option Cursor :=
  let places := placesFrom c.behind c.ahead
  ((places.zip (whole.starts c places (places.map fun _ => true))).find? (·.2)).map (·.1)

theorem length_starts {origin : Cursor} {places : List Cursor} (h : places ≠ []) (n : Node)
    {m : Marks} (hm : m.length = places.length) :
    (n.starts origin places m).length = places.length := by
  have hpos : 0 < m.length := hm ▸ List.length_pos_iff.2 h
  induction n generalizing m with
  | set s => exact Marks.length_keep (by rw [Marks.length_shift hpos, hm])
  | assertion a => exact Marks.length_keep hm
  | sequence a b iha ihb =>
      have hb := ihb hm hpos
      exact iha hb (hb ▸ List.length_pos_iff.2 h)
  | choice a b iha ihb =>
      simp only [starts]
      rw [Marks.length_union (by rw [iha hm hpos, ihb hm hpos]), iha hm hpos]
  | repetition body least most greedy ih =>
      have hs (m : Marks) (hm : m.length = places.length) :
          (body.starts origin places m).length = places.length :=
        ih hm (hm ▸ List.length_pos_iff.2 h)
      exact Marks.length_repeated hs _ (Marks.length_closed hs _ hm)
  | group index body ih => exact ih hm hpos
  | _ => simpa [starts] using hm

end Node

end ListingRules.Pattern
