import ListingRules.Listing.Link
import ListingRules.Proofs.Bytewise.Reader

namespace ListingRules.Bytewise

open Text (byteCount isLineEnd isVisible)
open Listing (Link splitAtArrow? hasExtension hasExtension_cons TargetGuess targetIsFile dropSpace
  dropSpaceEnd dropSpace_of_ne)
open Cursor (Walk)

inductive LinkPart where
  | start
  | name
  | arrow
  | target
  deriving DecidableEq, Repr

structure LinkScan where
  part : LinkPart := .start
  isFile : Bool := false
  targetIsFile : Bool := false
  hasPoint : Bool := false
  afterSlash : Bool := false
  nameEnd : Nat
  targetStart : Nat
  deriving DecidableEq, Repr

namespace LinkScan

def step (t : Text) (i : Nat) (s : LinkScan) : Checked (Nat × LinkScan) := do
  let c ← byteAt t i
  match s.part with
  | .start => return (i + 1, { s with part := .name })
  | .name =>
      if c = '.'.toUInt8 then
        return (i + 1, { s with hasPoint := true })
      else if c = '-'.toUInt8 ∧ byteAt? t (i + 1) = some '>'.toUInt8 then
        let before ← minus i 1
        let b ← byteAt t before
        let j := if byteAt? t (i + 2) = some ' '.toUInt8 then i + 3 else i + 2
        return (j, { s with
          part := .arrow, hasPoint := false
          nameEnd := if b = ' '.toUInt8 then before else i
          targetStart := j })
      else if isVisibleByte c && s.hasPoint then
        return (i + 1, { s with isFile := true })
      else
        return (i + 1, s)
  | .arrow => return (i + 1, { s with part := .target })
  | .target =>
      if c = '.'.toUInt8 then
        return (i + 1, { s with hasPoint := !s.afterSlash, afterSlash := false })
      else if c = '/'.toUInt8 then
        return (i + 1, { s with hasPoint := false, targetIsFile := false, afterSlash := true })
      else
        return (i + 1, { s with
          afterSlash := false
          targetIsFile := s.targetIsFile || isVisibleByte c && s.hasPoint })

def runFrom (t : Text) (stop : Nat) : Nat → Nat → LinkScan → Checked LinkScan
  | 0, _, _ => .error .endless
  | k + 1, i, s => do
      if i < stop then
        let (j, s) ← s.step t i
        runFrom t stop k j s
      else return s

def see (s : LinkScan) (x : Char) : LinkScan :=
  match s.part with
  | .start => { s with part := .name }
  | .name =>
      if x = '.' then { s with hasPoint := true }
      else if isVisible x && s.hasPoint then { s with isFile := true }
      else s
  | .arrow => { s with part := .target }
  | .target =>
      if x = '.' then { s with hasPoint := !s.afterSlash, afterSlash := false }
      else if x = '/' then { s with hasPoint := false, targetIsFile := false, afterSlash := true }
      else { s with
        afterSlash := false
        targetIsFile := s.targetIsFile || isVisible x && s.hasPoint }

def initial (stop : Nat) : LinkScan :=
  { nameEnd := stop, targetStart := stop }

def link (t : Text) (i stop : Nat) (s : LinkScan) : Checked (Option Link) := do
  match s.part with
  | .start | .arrow => return none
  | .name =>
      let name ← slice t i (min s.nameEnd stop)
      return some ⟨name, none, !(s.isFile || s.targetIsFile)⟩
  | .target =>
      let name ← slice t i (min s.nameEnd stop)
      let target ← slice t (min s.targetStart stop) stop
      return some ⟨name, some target, !(s.isFile || s.targetIsFile)⟩

end LinkScan

def Window.link (w : Window) (i : Nat) : Checked (Option (Link × Nat)) := do
  if (← w.peek i).any isVisible then
    let stop ← w.lineEnd i
    let s ← LinkScan.runFrom w.text stop w.rounds i (LinkScan.initial stop)
    match ← s.link w.text i stop with
    | none => return none
    | some l => return some (l, ← w.move stop)
  else
    return none

section Step

variable {a b : Text} {x : Char} {s : LinkScan} {i : Nat}

theorem byteAt_at : byteAt (a ++ x :: b) (byteCount a) = .ok (lead x) := by
  simp [byteAt, byteAt?_at]

theorem step_lead (harrow : s.part = .name → x = '-' → b.head? ≠ some '>') :
    s.step (a ++ x :: b) (byteCount a) = .ok (byteCount a + 1, s.see x) := by
  have hpoint : lead x = '.'.toUInt8 ↔ x = '.' := lead_eq_iff (by decide)
  have hslash : lead x = '/'.toUInt8 ↔ x = '/' := lead_eq_iff (by decide)
  have hdash : lead x = '-'.toUInt8 ↔ x = '-' := lead_eq_iff (by decide)
  simp only [LinkScan.step, byteAt_at, ok_bind, hpoint, hslash, hdash, isVisibleByte_lead,
    LinkScan.see]
  cases hp : s.part with
  | start => rfl
  | arrow => rfl
  | target =>
      simp only
      split
      · rfl
      · split <;> rfl
  | name =>
      have hno : ¬(x = '-' ∧ byteAt? (a ++ x :: b) (byteCount a + 1) = some '>'.toUInt8) := by
        rintro ⟨rfl, hnext⟩
        rw [byteAt?_next (by decide)] at hnext
        obtain ⟨y, hy, hlead⟩ := Option.map_eq_some_iff.1 hnext
        obtain rfl := (lead_eq_iff (by decide)).1 hlead
        exact harrow hp rfl hy
      simp only [hno, ↓reduceIte]
      split
      · rfl
      · split <;> rfl

theorem step_high {c : UInt8} {t : Text} (hc : byteAt? t i = some c) (hle : 128 ≤ c.toNat)
    (hx : ¬IsAscii x) : s.step t i = .ok (i + 1, s.see x) := by
  have hbyte : byteAt t i = .ok c := by simp [byteAt, hc]
  have hne {y : Char} (hy : IsAscii y) : ¬c = y.toUInt8 := by
    rintro rfl
    rw [toNat_toUInt8 hy] at hle
    exact absurd hy (Nat.not_lt.2 hle)
  have hne' {y : Char} (hy : IsAscii y) : ¬x = y := by
    rintro rfl
    exact hx hy
  have hpoint := hne (y := '.') (by decide)
  have hdash := hne (y := '-') (by decide)
  have hslash := hne (y := '/') (by decide)
  have hpoint' := hne' (y := '.') (by decide)
  have hslash' := hne' (y := '/') (by decide)
  have hvisible : isVisible x = true := by
    rw [← isVisibleByte_lead]
    exact isVisibleByte_of_le (le_lead hx)
  simp only [LinkScan.step, hbyte, ok_bind, LinkScan.see, hpoint, hdash, hslash, hpoint', hslash',
    isVisibleByte_of_le hle, hvisible, false_and, ↓reduceIte]
  cases s.part with
  | name =>
      simp only
      split <;> rfl
  | _ => rfl

end Step

def Reaches (t : Text) (stop i : Nat) (s : LinkScan) (j : Nat) (s' : LinkScan) : Prop :=
  ∃ n, n + i ≤ j ∧ ∀ k, LinkScan.runFrom t stop (k + n) i s = LinkScan.runFrom t stop k j s'

section Reaches

variable {t : Text} {stop i j l : Nat} {s s' s'' : LinkScan}

theorem Reaches.refl : Reaches t stop i s i s :=
  ⟨0, Nat.le_of_eq (Nat.zero_add i), fun _ => rfl⟩

theorem Reaches.trans (h : Reaches t stop i s j s') (h' : Reaches t stop j s' l s'') :
    Reaches t stop i s l s'' := by
  obtain ⟨n, hn, hrun⟩ := h
  obtain ⟨m, hm, hrun'⟩ := h'
  refine ⟨m + n, by omega, fun k => ?_⟩
  rw [← Nat.add_assoc, hrun, hrun']

theorem Reaches.single (hi : i < stop) (hij : i < j) (h : s.step t i = .ok (j, s')) :
    Reaches t stop i s j s' := by
  refine ⟨1, by omega, fun k => ?_⟩
  simp [LinkScan.runFrom, hi, h]

theorem Reaches.run (h : Reaches t stop i s stop s') (hstop : stop ≤ byteCount t) :
    LinkScan.runFrom t stop (byteCount t + 1) i s = .ok s' := by
  obtain ⟨n, hn, hrun⟩ := h
  obtain ⟨k, hk⟩ : ∃ k, byteCount t + 1 = k + 1 + n := ⟨byteCount t - n, by omega⟩
  rw [hk, hrun]
  simp [LinkScan.runFrom]

end Reaches

def LinkScan.Fresh (s : LinkScan) : Prop :=
  s.part = .start ∨ s.part = .arrow → s.hasPoint = false ∧ s.afterSlash = false

section Many

variable {a b t : Text} {x : Char} {s : LinkScan} {stop : Nat}

theorem see_see (hs : s.Fresh) (hx : ¬IsAscii x) : (s.see x).see x = s.see x := by
  have hpoint : ¬x = '.' := by
    rintro rfl
    exact hx (by decide)
  have hslash : ¬x = '/' := by
    rintro rfl
    exact hx (by decide)
  simp only [LinkScan.see, hpoint, hslash, ↓reduceIte]
  cases hp : s.part with
  | start =>
      obtain ⟨hh, -⟩ := hs (.inl hp)
      simp [hh]
  | name =>
      simp only
      cases hv : isVisible x && s.hasPoint <;> simp [hv, hp]
  | arrow =>
      obtain ⟨hh, ha⟩ := hs (.inr hp)
      simp [hh, ha]
  | target => simp

theorem reaches_see (hs : s.Fresh) (harrow : s.part = .name → x = '-' → b.head? ≠ some '>')
    (hstop : byteCount a + x.utf8Size ≤ stop) :
    Reaches (a ++ x :: b) stop (byteCount a) s (byteCount a + x.utf8Size) (s.see x) := by
  have hpos := x.utf8Size_pos
  have hfirst : Reaches (a ++ x :: b) stop (byteCount a) s (byteCount a + 1) (s.see x) :=
    .single (by omega) (Nat.lt_succ_self _) (step_lead harrow)
  by_cases hx : IsAscii x
  · rw [utf8Size_of_isAscii hx]
    exact hfirst
  · -- what the first byte has told, the other bytes do not change
    have hrest (m : Nat) (hm : m + 1 ≤ x.utf8Size) :
        Reaches (a ++ x :: b) stop (byteCount a + 1) (s.see x) (byteCount a + (m + 1))
          (s.see x) := by
      induction m with
      | zero => exact .refl
      | succ m ih =>
          obtain ⟨c, hc, hbyte⟩ := byteAt?_within (a := a) (b := b) (m := m + 1) hm
          have hstep := step_high (s := s.see x) hbyte (le_of_mem_encode hx hc) hx
          rw [see_see hs hx] at hstep
          exact (ih (by omega)).trans (.single (by omega) (Nat.lt_succ_self _) hstep)
    obtain ⟨m, hm⟩ : ∃ m, x.utf8Size = m + 1 := ⟨x.utf8Size - 1, by omega⟩
    rw [hm]
    exact hfirst.trans (hrest m (by omega))

theorem splitAtArrow?_tail (h : splitAtArrow? (x :: t) = none) : splitAtArrow? t = none := by
  unfold splitAtArrow? at h
  split at h
  · simp at h
  · rename_i heq
    obtain ⟨rfl, rfl⟩ := List.cons.inj heq
    simpa using h
  · rename_i heq
    simp at heq

theorem head?_ne_of_splitAtArrow? (h : splitAtArrow? ('-' :: t) = none) : t.head? ≠ some '>' := by
  intro hhead
  obtain ⟨u, rfl⟩ := List.head?_eq_some_iff.1 hhead
  simp [splitAtArrow?] at h

theorem part_see (hs : s.part = .name ∨ s.part = .target) : (s.see x).part = s.part := by
  rcases hs with hs | hs
  · simp only [LinkScan.see, hs]
    split
    · rfl
    · split
      · rfl
      · exact hs
  · simp only [LinkScan.see, hs]
    split
    · rfl
    · split <;> rfl

theorem fresh_of_part (hs : s.part = .name ∨ s.part = .target) : s.Fresh := by
  intro h
  rcases hs with hs | hs <;> simp [hs] at h

theorem reaches_foldl (hs : s.part = .name ∨ s.part = .target)
    (harrow : s.part = .name → splitAtArrow? t = none ∧ b.head? ≠ some '>')
    (hstop : byteCount (a ++ t) ≤ stop) :
    Reaches (a ++ t ++ b) stop (byteCount a) s (byteCount (a ++ t)) (t.foldl LinkScan.see s) := by
  induction t generalizing a s with
  | nil => simpa using Reaches.refl
  | cons x t ih =>
      have hassoc : a ++ x :: t = (a ++ [x]) ++ t := by simp
      have hsize : byteCount (a ++ [x]) = byteCount a + x.utf8Size := by simp
      have htext : a ++ x :: t ++ b = a ++ x :: (t ++ b) := by simp
      have hnext : s.part = .name → x = '-' → (t ++ b).head? ≠ some '>' := by
        rintro hn rfl
        cases t with
        | nil => simpa using (harrow hn).2
        | cons y t => simpa using head?_ne_of_splitAtArrow? (harrow hn).1
      have hle : byteCount a + x.utf8Size ≤ stop := by
        simp only [Text.byteCount_append, Text.byteCount_cons] at hstop
        omega
      have hfirst := reaches_see (a := a) (b := t ++ b) (fresh_of_part hs) hnext hle
      rw [← htext] at hfirst
      have hrest := ih (a := a ++ [x]) (s := s.see x) (by rwa [part_see hs])
        (fun hn => ⟨splitAtArrow?_tail (harrow (part_see hs ▸ hn)).1,
          (harrow (part_see hs ▸ hn)).2⟩) (by rwa [← hassoc])
      rw [hassoc, List.foldl_cons]
      rw [hsize] at hrest
      rw [hassoc] at hfirst
      exact hfirst.trans hrest

theorem foldl_see_name (hs : s.part = .name) :
    t.foldl LinkScan.see s =
      { s with
        hasPoint := s.hasPoint || List.contains t '.'
        isFile := s.isFile ||
          if s.hasPoint then t.any fun c => isVisible c && c != '.' else hasExtension t } := by
  induction t generalizing s with
  | nil => simp [hasExtension]
  | cons x t ih =>
      rw [List.foldl_cons, ih ((part_see (.inl hs)).trans hs), hasExtension_cons]
      simp only [LinkScan.see, hs]
      by_cases hx : x = '.'
      · simp [hx]
      · have hx' : '.' ≠ x := fun h => hx h.symm
        cases hv : isVisible x <;> cases hh : s.hasPoint <;> simp [hx, hx', hv, hh, hs]

theorem foldl_see_target (hs : s.part = .target) :
    t.foldl LinkScan.see s =
      let g := t.foldl TargetGuess.step ⟨s.hasPoint, s.afterSlash, s.targetIsFile⟩
      { s with hasPoint := g.hasPoint, afterSlash := g.afterSlash, targetIsFile := g.isFile } := by
  induction t generalizing s with
  | nil => rfl
  | cons x t ih =>
      rw [List.foldl_cons, ih ((part_see (.inr hs)).trans hs)]
      simp only [LinkScan.see, hs, TargetGuess.step, List.foldl_cons]
      split
      · simp
      · split <;> simp

end Many

section Arrow

variable {a b t : Text} {x : Char} {s : LinkScan} {stop : Nat}

theorem byteAt?_last {y : Char} :
    ∃ c, byteAt? (a ++ y :: b) (byteCount a + (y.utf8Size - 1)) = some c ∧
      (c = ' '.toUInt8 ↔ y = ' ') := by
  have hpos := y.utf8Size_pos
  obtain ⟨c, hc, hbyte⟩ :=
    byteAt?_within (a := a) (b := b) (x := y) (m := y.utf8Size - 1) (by omega)
  refine ⟨c, hbyte, ?_⟩
  by_cases hy : IsAscii y
  · rw [encode_of_isAscii hy, List.mem_singleton] at hc
    rw [hc, ← lead_of_isAscii hy]
    exact lead_eq_iff (by decide)
  · have hle := le_of_mem_encode hy hc
    constructor
    · rintro rfl
      exact absurd hle (by decide)
    · rintro rfl
      exact absurd (by decide) hy

theorem dropSpace_append (hx : x ≠ ' ') (u v : Text) :
    dropSpace (u ++ x :: v) = dropSpace u ++ x :: v := by
  cases u with
  | nil => exact dropSpace_of_ne hx v
  | cons y u =>
      by_cases hy : y = ' '
      · subst hy
        rfl
      · rw [List.cons_append, dropSpace_of_ne hy, dropSpace_of_ne hy, List.cons_append]

def arrowBefore (behind : Text) : Text :=
  if behind.head? = some ' ' then ['-', '>', ' '] else ['-', '>']

theorem byteCount_dropSpaceEnd (t : Text) (y : Char) :
    byteCount (dropSpaceEnd (t ++ [y])) =
      if y = ' ' then byteCount (t ++ [y]) - 1 else byteCount (t ++ [y]) := by
  by_cases hy : y = ' '
  · subst hy
    have hone : ' '.utf8Size = 1 := by decide
    simp [dropSpaceEnd, dropSpace, hone]
  · simp [dropSpaceEnd, dropSpace_of_ne hy, hy]

theorem byteCount_append_arrowBefore (t behind : Text) :
    byteCount (t ++ arrowBefore behind) =
      if behind.head? = some ' ' then byteCount t + 3 else byteCount t + 2 := by
  rw [Text.byteCount_append, arrowBefore]
  split <;> rfl

theorem byteAt?_behind_arrow :
    byteAt? (a ++ '-' :: '>' :: b) (byteCount a + 2) = some ' '.toUInt8 ↔
      b.head? = some ' ' := by
  have htext : a ++ '-' :: '>' :: b = (a ++ ['-']) ++ '>' :: b := by simp
  have htwo : byteCount a + 2 = byteCount (a ++ ['-']) + 1 := by
    rw [Text.byteCount_append]
    rfl
  rw [htext, htwo, byteAt?_next (by decide)]
  cases b.head? with
  | none => simp
  | some z => simpa using lead_eq_iff (c := z) (x := ' ') (by decide)

theorem step_arrow (hs : s.part = .name) (ha : a ≠ []) :
    s.step (a ++ '-' :: '>' :: b) (byteCount a) =
      .ok (byteCount (a ++ arrowBefore b),
        { s with
          part := .arrow, hasPoint := false
          nameEnd := byteCount (dropSpaceEnd a)
          targetStart := byteCount (a ++ arrowBefore b) }) := by
  obtain ⟨p, y, rfl⟩ := (List.eq_nil_or_concat a).resolve_left ha
  rw [List.concat_eq_append]
  have hpos := y.utf8Size_pos
  have hsize : byteCount (p ++ [y]) = byteCount p + y.utf8Size := by simp
  have hdash : lead '-' = '-'.toUInt8 := lead_of_isAscii (by decide)
  have hgreater : byteAt? (p ++ [y] ++ '-' :: '>' :: b) (byteCount (p ++ [y]) + 1) =
      some '>'.toUInt8 := by
    rw [byteAt?_next (by decide), List.head?_cons, Option.map_some, lead_of_isAscii (by decide)]
  -- the byte before the arrow is the last of its character, and a space only if this is one
  obtain ⟨c, hc, hlast⟩ := byteAt?_last (a := p) (b := '-' :: '>' :: b) (y := y)
  have hbefore : byteAt (p ++ [y] ++ '-' :: '>' :: b) (byteCount (p ++ [y]) - 1) = .ok c := by
    have htext : p ++ [y] ++ '-' :: '>' :: b = p ++ y :: '-' :: '>' :: b := by simp
    have hone : byteCount (p ++ [y]) - 1 = byteCount p + (y.utf8Size - 1) := by omega
    rw [htext, hone, byteAt, hc]
    rfl
  have hpoint : '-'.toUInt8 ≠ '.'.toUInt8 := by decide
  rw [byteCount_dropSpaceEnd, byteCount_append_arrowBefore]
  simp only [LinkScan.step, byteAt_at, ok_bind, hs, hdash, hpoint, ↓reduceIte, hgreater, and_self,
    minus_eq_ok (show 1 ≤ byteCount (p ++ [y]) by omega), hbefore, byteAt?_behind_arrow, hlast]
  rfl

theorem splitAtArrow?_before {u v : Text} (h : splitAtArrow? t = some (u, v)) :
    splitAtArrow? u = none := by
  induction t generalizing u v with
  | nil => simp [splitAtArrow?] at h
  | cons y t ih =>
      unfold splitAtArrow? at h
      split at h
      · obtain ⟨rfl, -⟩ := Prod.mk.inj (Option.some.inj h)
        rfl
      · rename_i hno heq
        obtain ⟨rfl, rfl⟩ := List.cons.inj heq
        simp only [Option.map_eq_some_iff, Prod.exists, Prod.mk.injEq] at h
        obtain ⟨u', v', hs, rfl, rfl⟩ := h
        have htext := Listing.append_of_splitAtArrow? hs
        unfold splitAtArrow?
        split
        · rename_i heq'
          obtain ⟨rfl, rfl⟩ := List.cons.inj heq'
          exact (hno _ rfl htext.symm).elim
        · rename_i heq'
          obtain ⟨rfl, rfl⟩ := List.cons.inj heq'
          rw [ih hs]
          rfl
        · rfl
      · rename_i heq
        simp at heq

theorem dropSpace_eq (behind : Text) :
    '-' :: '>' :: behind = arrowBefore behind ++ dropSpace behind := by
  cases behind with
  | nil => rfl
  | cons y t =>
      by_cases hy : y = ' '
      · subst hy
        rfl
      · simp [arrowBefore, hy, dropSpace_of_ne hy]

end Arrow

section Line

variable {a b t : Text} {x : Char} {stop : Nat}

theorem reaches_name (hno : splitAtArrow? t = none) (hb : b.head? ≠ some '>')
    (hstop : byteCount (a ++ x :: t) ≤ stop) :
    Reaches (a ++ x :: t ++ b) stop (byteCount a) (LinkScan.initial stop) (byteCount (a ++ x :: t))
      { LinkScan.initial stop with
        part := .name, hasPoint := List.contains t '.', isFile := hasExtension t } := by
  have htext : a ++ x :: t ++ b = a ++ x :: (t ++ b) := by simp
  have hassoc : a ++ x :: t = (a ++ [x]) ++ t := by simp
  have hsize : byteCount (a ++ [x]) = byteCount a + x.utf8Size := by simp
  have hle : byteCount a + x.utf8Size ≤ stop := by
    simp only [Text.byteCount_append, Text.byteCount_cons] at hstop
    omega
  have hfirst := reaches_see (a := a) (b := t ++ b) (x := x) (s := LinkScan.initial stop)
    (fun _ => ⟨rfl, rfl⟩) (fun hn => by simp [LinkScan.initial] at hn) hle
  have htail : byteCount (a ++ [x] ++ t) ≤ stop := by rwa [← hassoc]
  have hrest := reaches_foldl (a := a ++ [x]) (b := b) (s := (LinkScan.initial stop).see x)
    (.inl rfl) (fun _ => ⟨hno, hb⟩) htail
  rw [foldl_see_name rfl, hsize] at hrest
  rw [← htext, hassoc] at hfirst
  rw [hassoc]
  simpa [LinkScan.see, LinkScan.initial] using hfirst.trans hrest

theorem reaches_target {s : LinkScan} (hs : s.part = .arrow) (hp : s.hasPoint = false)
    (ha : s.afterSlash = false) (hf : s.targetIsFile = false)
    (hstop : byteCount (a ++ x :: t) ≤ stop) :
    let g := t.foldl TargetGuess.step {}
    Reaches (a ++ x :: t ++ b) stop (byteCount a) s (byteCount (a ++ x :: t))
      { s with
        part := .target, hasPoint := g.hasPoint, afterSlash := g.afterSlash
        targetIsFile := targetIsFile (x :: t) } := by
  intro g
  have htext : a ++ x :: t ++ b = a ++ x :: (t ++ b) := by simp
  have hassoc : a ++ x :: t = (a ++ [x]) ++ t := by simp
  have hsize : byteCount (a ++ [x]) = byteCount a + x.utf8Size := by simp
  have hsee : s.see x = { s with part := .target } := by simp [LinkScan.see, hs]
  have hle : byteCount a + x.utf8Size ≤ stop := by
    simp only [Text.byteCount_append, Text.byteCount_cons] at hstop
    omega
  have hfirst := reaches_see (a := a) (b := t ++ b) (x := x) (s := s)
    (fun _ => ⟨hp, ha⟩) (fun hn => by simp [hs] at hn) hle
  have htail : byteCount (a ++ [x] ++ t) ≤ stop := by rwa [← hassoc]
  have hrest := reaches_foldl (a := a ++ [x]) (b := b) (s := s.see x)
    (.inr (by rw [hsee])) (fun hn => by simp [hsee] at hn) htail
  rw [foldl_see_target (by rw [hsee]), hsize] at hrest
  rw [← htext, hassoc] at hfirst
  rw [hassoc]
  have hall := hfirst.trans hrest
  simp only [hsee, hp, ha, hf] at hall
  exact hall

theorem dropSpaceEnd_append (hx : x ≠ ' ') :
    dropSpaceEnd (a ++ x :: t) = a ++ x :: dropSpaceEnd t := by
  simp only [dropSpaceEnd, List.reverse_append, List.reverse_cons, List.append_assoc,
    List.singleton_append]
  rw [dropSpace_append hx]
  simp

theorem dropSpaceEnd_isPrefix (t : Text) : ∃ u, t = dropSpaceEnd t ++ u := by
  have hsuffix : ∃ u, t.reverse = u ++ dropSpace t.reverse := by
    unfold dropSpace
    split
    · exact ⟨[' '], by simp_all⟩
    · exact ⟨[], rfl⟩
  obtain ⟨u, hu⟩ := hsuffix
  refine ⟨u.reverse, ?_⟩
  rw [dropSpaceEnd, ← List.reverse_append, ← hu, List.reverse_reverse]

theorem link_name {s : LinkScan} {i : Nat} {name : Text} (hs : s.part = .name)
    (hname : slice t i (min s.nameEnd stop) = .ok name) :
    s.link t i stop = .ok (some ⟨name, none, !(s.isFile || s.targetIsFile)⟩) := by
  simp [LinkScan.link, hs, hname]

theorem link_target {s : LinkScan} {i : Nat} {name target : Text} (hs : s.part = .target)
    (hname : slice t i (min s.nameEnd stop) = .ok name)
    (htarget : slice t (min s.targetStart stop) stop = .ok target) :
    s.link t i stop = .ok (some ⟨name, some target, !(s.isFile || s.targetIsFile)⟩) := by
  simp [LinkScan.link, hs, hname, htarget]

variable {before behind : Text}

theorem ofLine?_of_arrow (hx : isVisible x = true) (ht : splitAtArrow? t = some (before, behind)) :
    Link.ofLine? (x :: t) =
      match dropSpace behind with
      | [] => none
      | y :: target => some ⟨x :: dropSpaceEnd before, some (y :: target),
          !(hasExtension before || targetIsFile (y :: target))⟩ := by
  simp only [Link.ofLine?, hx, Bool.not_true, Bool.false_eq_true, ↓reduceIte, ht]
  cases dropSpace behind <;> rfl

theorem append_arrow (ht : splitAtArrow? t = some (before, behind)) :
    a ++ x :: t = a ++ x :: before ++ arrowBefore behind ++ dropSpace behind := by
  rw [← Listing.append_of_splitAtArrow? ht, dropSpace_eq]
  simp

theorem reaches_arrow (ht : splitAtArrow? t = some (before, behind)) (hspace : b.head? ≠ some ' ') :
    Reaches (a ++ x :: t ++ b) (byteCount (a ++ x :: t)) (byteCount a)
      (LinkScan.initial (byteCount (a ++ x :: t)))
      (byteCount (a ++ x :: before ++ arrowBefore behind))
      { part := .arrow, isFile := hasExtension before
        nameEnd := byteCount (dropSpaceEnd (a ++ x :: before))
        targetStart := byteCount (a ++ x :: before ++ arrowBefore behind) } := by
  have harrow : arrowBefore (behind ++ b) = arrowBefore behind := by
    cases behind with
    | nil => simp [arrowBefore, hspace]
    | cons y behind => simp [arrowBefore]
  have htext : a ++ x :: t ++ b = a ++ x :: before ++ '-' :: '>' :: (behind ++ b) := by
    rw [← Listing.append_of_splitAtArrow? ht]
    simp
  have hpos : 0 < byteCount (arrowBefore behind) := by
    rw [arrowBefore]
    split <;> decide
  have hlt : byteCount (a ++ x :: before) < byteCount (a ++ x :: before ++ arrowBefore behind) := by
    rw [Text.byteCount_append (a ++ x :: before)]
    omega
  have hle : byteCount (a ++ x :: before ++ arrowBefore behind) ≤ byteCount (a ++ x :: t) := by
    rw [append_arrow ht, Text.byteCount_append (a ++ x :: before ++ arrowBefore behind)]
    exact Nat.le_add_right _ _
  have hbefore : byteCount (a ++ x :: before) ≤ byteCount (a ++ x :: t) := by omega
  have hname := reaches_name (a := a) (x := x) (b := '-' :: '>' :: (behind ++ b))
    (splitAtArrow?_before ht) (by simp) hbefore
  have hstep := step_arrow (a := a ++ x :: before) (b := behind ++ b)
    (s := { LinkScan.initial (byteCount (a ++ x :: t)) with
      part := .name, hasPoint := List.contains before '.', isFile := hasExtension before })
    rfl (by simp)
  rw [harrow, ← htext] at hstep
  rw [← htext] at hname
  exact hname.trans (.single (by omega) hlt hstep)

theorem slice_name (hx : x ≠ ' ') (ht : splitAtArrow? t = some (before, behind)) :
    slice (a ++ x :: t ++ b) (byteCount a)
        (min (byteCount (dropSpaceEnd (a ++ x :: before))) (byteCount (a ++ x :: t))) =
      .ok (x :: dropSpaceEnd before) := by
  obtain ⟨u, hu⟩ := dropSpaceEnd_isPrefix before
  have htext : a ++ x :: t ++ b =
      a ++ (x :: dropSpaceEnd before) ++ (u ++ '-' :: '>' :: (behind ++ b)) := by
    calc a ++ x :: t ++ b
        = a ++ x :: (before ++ '-' :: '>' :: behind) ++ b := by
          rw [Listing.append_of_splitAtArrow? ht]
      _ = a ++ x :: ((dropSpaceEnd before ++ u) ++ '-' :: '>' :: behind) ++ b := by rw [← hu]
      _ = a ++ (x :: dropSpaceEnd before) ++ (u ++ '-' :: '>' :: (behind ++ b)) := by simp
  have hle : byteCount (dropSpaceEnd before) ≤ byteCount t := by
    have hsize := congrArg byteCount hu
    rw [Text.byteCount_append] at hsize
    rw [← Listing.append_of_splitAtArrow? ht, Text.byteCount_append]
    omega
  refine slice_eq_ok_iff.2 ⟨a, _, htext, rfl, ?_⟩
  rw [dropSpaceEnd_append hx, Nat.min_eq_left]
  simp [hle]

theorem runFrom_link (hb : b.head? ≠ some '>') (hspace : b.head? ≠ some ' ')
    (hx : isVisible x = true) :
    (do
      let s ← LinkScan.runFrom (a ++ x :: t ++ b) (byteCount (a ++ x :: t))
        (byteCount (a ++ x :: t ++ b) + 1) (byteCount a)
        (LinkScan.initial (byteCount (a ++ x :: t)))
      s.link (a ++ x :: t ++ b) (byteCount a) (byteCount (a ++ x :: t))) =
      .ok (Link.ofLine? (x :: t)) := by
  have hstop : byteCount (a ++ x :: t) ≤ byteCount (a ++ x :: t ++ b) := by simp
  cases hsplit : splitAtArrow? t with
  | none =>
      have hline : Link.ofLine? (x :: t) = some ⟨x :: t, none, !hasExtension t⟩ := by
        simp [Link.ofLine?, hx, hsplit]
      rw [(reaches_name hsplit hb (Nat.le_refl _)).run hstop, ok_bind, hline,
        link_name rfl (slice_eq_ok_iff.2 ⟨a, b, rfl, rfl, (Nat.min_self _).symm⟩)]
      simp [LinkScan.initial]
  | some split =>
      obtain ⟨before, behind⟩ := split
      have hxs : x ≠ ' ' := by
        rintro rfl
        exact absurd hx (by decide)
      have harrived := reaches_arrow (a := a) (x := x) hsplit hspace
      have hname := slice_name (a := a) (b := b) hxs hsplit
      rw [ofLine?_of_arrow hx hsplit]
      rw [append_arrow hsplit] at harrived hstop hname ⊢
      cases hd : dropSpace behind with
      | nil =>
          rw [hd, List.append_nil] at harrived hstop
          rw [List.append_nil, harrived.run hstop]
          rfl
      | cons y target =>
          rw [hd] at harrived hstop hname
          have hrun := (harrived.trans (reaches_target (x := y) (t := target) rfl rfl rfl rfl
            (Nat.le_refl _))).run hstop
          have htarget : byteCount (a ++ x :: before ++ arrowBefore behind) =
              min (byteCount (a ++ x :: before ++ arrowBefore behind))
                (byteCount (a ++ x :: before ++ arrowBefore behind ++ y :: target)) := by
            rw [Nat.min_eq_left]
            simp
          rw [hrun, ok_bind,
            link_target rfl hname (slice_eq_ok_iff.2 ⟨_, b, rfl, htarget, rfl⟩)]

end Line

theorem head?_dropWhile_ne {t : Text} {x : Char} (hx : isLineEnd x = false) :
    (t.dropWhile (! isLineEnd ·)).head? ≠ some x := by
  intro hhead
  obtain ⟨u, hu⟩ := List.head?_eq_some_iff.1 hhead
  have hend := List.head_dropWhile_not (l := t) (p := (! isLineEnd ·)) (by simp [hu])
  simp [hu, hx] at hend

theorem ofLine?_restOfLine_of_invisible {c : Cursor} (h : c.ahead.head?.any isVisible = false) :
    Link.ofLine? c.restOfLine = none := by
  obtain ⟨b, t⟩ := c
  cases t with
  | nil => rfl
  | cons x t =>
      have hx : isVisible x = false := h
      cases hend : isLineEnd x with
      | true => simp [Cursor.restOfLine, hend, Link.ofLine?]
      | false => simp [Cursor.restOfLine, hend, Link.ofLine?, hx]

theorem Window.Sees.link {w : Window} {c : Cursor} (h : w.Sees c) :
    w.link c.offset = .ok ((Link.ofLine? c.restOfLine).map fun l =>
      (l, (c.skipWhile (! isLineEnd ·)).offset)) := by
  have hend := h.walk (Cursor.walk_skipWhile (! isLineEnd ·) c)
  have htext : w.text =
      c.behind.reverse ++ c.restOfLine ++ c.ahead.dropWhile (! isLineEnd ·) := by
    rw [h.text_eq, Cursor.restOfLine, List.append_assoc, List.takeWhile_append_dropWhile]
  have hstop : (c.skipWhile (! isLineEnd ·)).offset =
      byteCount (c.behind.reverse ++ c.restOfLine) := by
    simp [Cursor.skipWhile, Cursor.offset, Cursor.restOfLine, Nat.add_comm]
  have hgreater : isLineEnd '>' = false := by decide
  have hspace : isLineEnd ' ' = false := by decide
  simp only [Window.link, h.peek, ok_bind]
  cases hx : c.ahead.head?.any isVisible with
  | false =>
      simp [ofLine?_restOfLine_of_invisible hx]
  | true =>
      obtain ⟨b, t⟩ := c
      cases t with
      | nil => simp at hx
      | cons x t =>
          have hv : isVisible x = true := hx
          have hl := Text.isLineEnd_eq_false_of_isVisible hv
          have hrest : Cursor.restOfLine ⟨b, x :: t⟩ = x :: t.takeWhile (! isLineEnd ·) := by
            simp [Cursor.restOfLine, hl]
          have hdrop : (x :: t).dropWhile (! isLineEnd ·) = t.dropWhile (! isLineEnd ·) := by
            simp [hl]
          rw [hrest] at htext hstop ⊢
          simp only [hdrop] at htext
          have hrun := runFrom_link (a := b.reverse) (x := x) (t := t.takeWhile (! isLineEnd ·))
            (head?_dropWhile_ne (t := t) hgreater) (head?_dropWhile_ne hspace) hv
          simp only [↓reduceIte, h.lineEnd, ok_bind, Window.rounds]
          have hmove := hend.move
          rw [hstop] at hmove ⊢
          rw [htext, offset_eq, ← bind_assoc, hrun, ok_bind]
          cases Link.ofLine? (x :: t.takeWhile (! isLineEnd ·)) with
          | none => rfl
          | some l => simp only [hmove, ok_bind, pure_eq_ok, Option.map_some]

theorem Window.link_text (c : Cursor) :
    Window.link ⟨c.text, 0⟩ c.offset =
      .ok ((Link.ofLine? c.restOfLine).map fun l => (l, c.offset + byteCount c.restOfLine)) := by
  have hspans : Cursor.Spans c (c.skipWhile (! isLineEnd ·)) c.restOfLine :=
    Cursor.spans_skipWhile _ c
  rw [(Window.sees_text c).link, hspans.offset_eq]

end ListingRules.Bytewise
