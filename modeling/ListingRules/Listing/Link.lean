import ListingRules.Text.Cursor

namespace ListingRules.Listing

def splitAtArrow? : Text → Option (Text × Text)
  | '-' :: '>' :: t => some ([], t)
  | c :: t => (splitAtArrow? t).map fun (a, b) => (c :: a, b)
  | [] => none

theorem append_of_splitAtArrow? {t a b : Text} (h : splitAtArrow? t = some (a, b)) :
    a ++ '-' :: '>' :: b = t := by
  induction t generalizing a b with
  | nil => simp [splitAtArrow?] at h
  | cons c t ih =>
      unfold splitAtArrow? at h
      split at h
      · rename_i heq
        obtain ⟨rfl, rfl⟩ := List.cons.inj heq
        obtain ⟨rfl, rfl⟩ := Prod.mk.inj (Option.some.inj h)
        rfl
      · rename_i heq
        obtain ⟨rfl, rfl⟩ := List.cons.inj heq
        simp only [Option.map_eq_some_iff, Prod.exists, Prod.mk.injEq] at h
        obtain ⟨a', b', hs, rfl, rfl⟩ := h
        simp [ih hs]
      · rename_i heq
        simp at heq

def hasExtension (t : Text) : Bool :=
  (t.dropWhile (· != '.')).any fun c => Text.isVisible c && c != '.'

theorem hasExtension_cons {x : Char} {t : Text} :
    hasExtension (x :: t) =
      if x = '.' then t.any fun c => Text.isVisible c && c != '.' else hasExtension t := by
  by_cases hx : x = '.'
  · simp [hasExtension, hx]
  · simp [hasExtension, hx]

structure TargetGuess where
  hasPoint : Bool := false
  afterSlash : Bool := false
  isFile : Bool := false
  deriving DecidableEq, Repr

/-- A slash starts a new component, and a point right behind it does not start an extension. -/
def TargetGuess.step (g : TargetGuess) (c : Char) : TargetGuess :=
  if c = '.' then { g with hasPoint := !g.afterSlash, afterSlash := false }
  else if c = '/' then { hasPoint := false, afterSlash := true, isFile := false }
  else { g with afterSlash := false, isFile := g.isFile || Text.isVisible c && g.hasPoint }

def targetIsFile (target : Text) : Bool :=
  (target.drop 1).foldl TargetGuess.step {} |>.isFile

structure Link where
  name : Text
  target : Option Text
  isDir : Bool
  deriving DecidableEq, Repr

def dropSpace : Text → Text
  | ' ' :: t => t
  | t => t

def dropSpaceEnd (t : Text) : Text :=
  (dropSpace t.reverse).reverse

theorem dropSpace_of_ne {c : Char} (hc : c ≠ ' ') (t : Text) : dropSpace (c :: t) = c :: t := by
  simp [dropSpace, hc]

/-- Reads a line that starts with a visible character. The arrow cannot be at its start, one space
around it belongs to it, and its target cannot be empty. -/
def Link.ofLine? : Text → Option Link
  | [] => none
  | c :: t =>
      if !Text.isVisible c then none
      else match splitAtArrow? t with
        | none => some ⟨c :: t, none, !hasExtension t⟩
        | some (before, behind) =>
            let name := c :: dropSpaceEnd before
            match dropSpace behind with
            | [] => none
            | target => some ⟨name, some target, !(hasExtension before || targetIsFile target)⟩

end ListingRules.Listing
