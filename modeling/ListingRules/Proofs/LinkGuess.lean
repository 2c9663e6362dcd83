import Mathlib.Data.List.DropRight
import ListingRules.Proofs.LinkParts

namespace ListingRules.Listing

open Text (isVisible)

def isMark (c : Char) : Bool :=
  isVisible c && c != '.'

def HasExtension (t : Text) : Prop :=
  ∃ behind, '.' :: behind <:+ t.tail ∧ ∃ x ∈ behind, isMark x = true

def lastComponent (t : Text) : Text :=
  t.rtakeWhile (· != '/')

def IsRootPoint (target : Text) : Prop :=
  ∃ rest, target = '/' :: '.' :: rest ∧ '/' ∉ rest ∧ ∃ x ∈ rest, isMark x = true

section Extensions

variable {t : Text} {c : Char}

theorem isMark_of_ne (hc : c ≠ '.') : isMark c = isVisible c := by
  rw [isMark, bne_iff_ne.2 hc, Bool.and_true]

theorem hasExtension_point (t : Text) : hasExtension ('.' :: t) = t.any isMark :=
  hasExtension_cons.trans (if_pos rfl)

theorem hasExtension_of_ne (hc : c ≠ '.') (t : Text) : hasExtension (c :: t) = hasExtension t :=
  hasExtension_cons.trans (if_neg hc)

theorem hasExtension_iff :
    hasExtension t = true ↔ ∃ behind, '.' :: behind <:+ t ∧ ∃ x ∈ behind, isMark x = true := by
  induction t with
  | nil => simp [hasExtension]
  | cons c t ih =>
      simp only [List.suffix_cons_iff]
      by_cases hc : c = '.'
      · subst hc
        rw [hasExtension_point, List.any_eq_true]
        constructor
        · exact fun h => ⟨t, .inl rfl, h⟩
        · rintro ⟨behind, h | h, x, hx, hmark⟩
          · obtain rfl := (List.cons.inj h).2
            exact ⟨x, hx, hmark⟩
          · exact ⟨x, h.mem (List.mem_cons_of_mem _ hx), hmark⟩
      · rw [hasExtension_of_ne hc, ih]
        constructor
        · rintro ⟨behind, h, hmark⟩
          exact ⟨behind, .inr h, hmark⟩
        · rintro ⟨behind, h | h, hmark⟩
          · exact absurd (List.cons.inj h).1.symm hc
          · exact ⟨behind, h, hmark⟩

theorem hasExtension_tail_iff : HasExtension t ↔ hasExtension t.tail = true :=
  hasExtension_iff.symm

theorem exists_isMark (h : hasExtension t = true) : ∃ x ∈ t, isMark x = true := by
  obtain ⟨behind, hbehind, x, hx, hmark⟩ := hasExtension_iff.1 h
  exact ⟨x, hbehind.mem (List.mem_cons_of_mem _ hx), hmark⟩

theorem hasExtension_iff_tail :
    hasExtension t = true ↔
      hasExtension t.tail = true ∨ ∃ rest, t = '.' :: rest ∧ ∃ x ∈ rest, isMark x = true := by
  cases t with
  | nil => simp [hasExtension]
  | cons c t =>
      by_cases hc : c = '.'
      · subst hc
        rw [hasExtension_point, List.any_eq_true, List.tail_cons]
        constructor
        · exact fun h => .inr ⟨t, rfl, h⟩
        · rintro (h | ⟨rest, h, hmark⟩)
          · exact exists_isMark h
          · obtain rfl := (List.cons.inj h).2
            exact hmark
      · simp [hasExtension_of_ne hc, hc]

theorem hasExtension_append_space (t : Text) : hasExtension (t ++ [' ']) = hasExtension t := by
  induction t with
  | nil => decide
  | cons c t ih =>
      by_cases hc : c = '.'
      · subst hc
        have hspace : isMark ' ' = false := by decide
        simp [hasExtension_point, hspace]
      · rw [List.cons_append, hasExtension_of_ne hc, hasExtension_of_ne hc, ih]

theorem dropSpaceEnd_cases (t : Text) : t = dropSpaceEnd t ++ [' '] ∨ dropSpaceEnd t = t := by
  have hrev : t = t.reverse.reverse := t.reverse_reverse.symm
  rw [dropSpaceEnd]
  cases h : t.reverse with
  | nil =>
      rw [h] at hrev
      exact .inr hrev.symm
  | cons c u =>
      rw [h] at hrev
      by_cases hc : c = ' '
      · subst hc
        exact .inl (hrev.trans List.reverse_cons)
      · rw [dropSpace_of_ne hc]
        exact .inr hrev.symm

theorem hasExtension_dropSpaceEnd (t : Text) : hasExtension (dropSpaceEnd t) = hasExtension t := by
  rcases dropSpaceEnd_cases t with h | h
  · rw [← hasExtension_append_space, ← h]
  · rw [h]

end Extensions

section Components

variable {u v : Text}

theorem lastComponent_append_slash (h : '/' ∉ v) (u : Text) :
    lastComponent (u ++ '/' :: v) = v := by
  have hv : ∀ x ∈ v.reverse, (x != '/') = true := by
    intro x hx
    exact bne_iff_ne.2 fun hslash => h (hslash ▸ List.mem_reverse.1 hx)
  have hrev : (u ++ '/' :: v).reverse = v.reverse ++ '/' :: u.reverse := by simp
  rw [lastComponent, List.rtakeWhile, hrev, List.takeWhile_append_of_pos hv,
    List.takeWhile_cons_of_neg (by decide), List.append_nil, List.reverse_reverse]

theorem lastComponent_eq_self (h : '/' ∉ v) : lastComponent v = v :=
  List.rtakeWhile_eq_self_iff.2 fun _ hx => bne_iff_ne.2 fun hslash => h (hslash ▸ hx)

theorem exists_lastComponent {t : Text} (h : '/' ∈ t) : ∃ u v, t = u ++ '/' :: v ∧ '/' ∉ v := by
  obtain ⟨v, u, ht, hv⟩ := List.eq_append_cons_of_mem (List.mem_reverse.2 h)
  refine ⟨u.reverse, v.reverse, ?_, by simpa using hv⟩
  simpa using congrArg List.reverse ht

end Components

namespace TargetGuess

variable {t : Text} {isFile : Bool}

theorem step_point (hasPoint afterSlash isFile : Bool) :
    step ⟨hasPoint, afterSlash, isFile⟩ '.' = ⟨!afterSlash, false, isFile⟩ := rfl

theorem step_slash (g : TargetGuess) : step g '/' = ⟨false, true, false⟩ := rfl

theorem step_other {c : Char} (hpoint : c ≠ '.') (hslash : c ≠ '/')
    (hasPoint afterSlash isFile : Bool) :
    step ⟨hasPoint, afterSlash, isFile⟩ c =
      ⟨hasPoint, false, isFile || isVisible c && hasPoint⟩ := by
  simp [step, hpoint, hslash]

theorem foldl_behindPoint (h : '/' ∉ t) :
    (t.foldl step ⟨true, false, isFile⟩).isFile = (isFile || t.any isMark) := by
  induction t generalizing isFile with
  | nil => simp
  | cons c t ih =>
      obtain ⟨hc, ht⟩ := not_or.1 (List.mem_cons.not.1 h)
      rw [List.foldl_cons, List.any_cons]
      by_cases hpoint : c = '.'
      · subst hpoint
        rw [step_point, Bool.not_false, ih ht]
        rfl
      · rw [step_other hpoint (Ne.symm hc), ih ht]
        simp [isMark_of_ne hpoint, Bool.or_assoc]

theorem foldl_inComponent (h : '/' ∉ t) :
    (t.foldl step ⟨false, false, isFile⟩).isFile = (isFile || hasExtension t) := by
  induction t generalizing isFile with
  | nil => simp [hasExtension]
  | cons c t ih =>
      obtain ⟨hc, ht⟩ := not_or.1 (List.mem_cons.not.1 h)
      rw [List.foldl_cons]
      by_cases hpoint : c = '.'
      · subst hpoint
        rw [step_point, Bool.not_false, foldl_behindPoint ht, hasExtension_point]
      · rw [step_other hpoint (Ne.symm hc), ih ht, hasExtension_of_ne hpoint]
        simp

theorem foldl_behindSlash (h : '/' ∉ t) :
    (t.foldl step ⟨false, true, false⟩).isFile = hasExtension t.tail := by
  cases t with
  | nil => rfl
  | cons c t =>
      obtain ⟨hc, ht⟩ := not_or.1 (List.mem_cons.not.1 h)
      rw [List.foldl_cons, List.tail_cons]
      by_cases hpoint : c = '.'
      · subst hpoint
        rw [step_point, Bool.not_true, foldl_inComponent ht, Bool.false_or]
      · rw [step_other hpoint (Ne.symm hc), foldl_inComponent ht]
        simp

theorem foldl_append_slash (h : '/' ∉ t) (u : Text) (g : TargetGuess) :
    ((u ++ '/' :: t).foldl step g).isFile = hasExtension t.tail := by
  rw [List.foldl_append, List.foldl_cons, step_slash, foldl_behindSlash h]

end TargetGuess

theorem isRootPoint_cons_iff {c : Char} {t : Text} :
    IsRootPoint (c :: t) ↔
      c = '/' ∧ '/' ∉ t ∧ ∃ rest, t = '.' :: rest ∧ ∃ x ∈ rest, isMark x = true := by
  constructor
  · rintro ⟨rest, h, hrest, hmark⟩
    obtain ⟨rfl, rfl⟩ := List.cons.inj h
    exact ⟨rfl, by simpa using hrest, rest, rfl, hmark⟩
  · rintro ⟨rfl, hslash, rest, rfl, hmark⟩
    exact ⟨rest, rfl, fun h => hslash (List.mem_cons_of_mem _ h), hmark⟩

/-- The first character of a target is passed without a look at it. So a slash there is not seen,
and the point behind it is not the first of its component. -/
theorem targetIsFile_iff {target : Text} :
    targetIsFile target = true ↔ HasExtension (lastComponent target) ∨ IsRootPoint target := by
  cases target with
  | nil => simp [targetIsFile, lastComponent, HasExtension, IsRootPoint]
  | cons c t =>
      simp only [targetIsFile, List.drop_succ_cons, List.drop_zero, hasExtension_tail_iff,
        isRootPoint_cons_iff]
      by_cases hslash : '/' ∈ t
      · obtain ⟨u, v, rfl, hv⟩ := exists_lastComponent hslash
        rw [TargetGuess.foldl_append_slash hv, ← List.cons_append, lastComponent_append_slash hv]
        exact (or_iff_left fun h => h.2.1 hslash).symm
      · rw [TargetGuess.foldl_inComponent hslash, Bool.false_or]
        by_cases hc : c = '/'
        · have hlast : lastComponent (c :: t) = t := hc ▸ lastComponent_append_slash hslash []
          rw [hlast, hasExtension_iff_tail]
          simp [hc, hslash]
        · have hlast : lastComponent (c :: t) = c :: t :=
            lastComponent_eq_self (by simp [Ne.symm hc, hslash])
          simp [hlast, hc]

theorem ArrowCut.Cuts.hasExtension_name_iff {p : ArrowCut} {c : Char} {t : Text}
    (h : p.Cuts (c :: t)) (hc : isVisible c = true) :
    HasExtension p.name ↔ hasExtension p.before.tail = true := by
  rw [hasExtension_tail_iff, h.name_eq hc, List.tail_cons, hasExtension_dropSpaceEnd]

theorem exists_of_ofLine? {line : Text} {l : Link} (h : Link.ofLine? line = some l) :
    ∃ c t, line = c :: t ∧ isVisible c = true := by
  cases line with
  | nil => cases h
  | cons c t =>
      refine ⟨c, t, rfl, ?_⟩
      cases hc : isVisible c with
      | true => rfl
      | false => simp [Link.ofLine?, hc] at h

theorem exists_link_of_takeLink {s : ColumnSet} {a b : Attempt} {name link : ColumnRef}
    (h : a.takeLink s name link = .continues b) :
    ∃ l, Link.ofLine? a.place.restOfLine = some l ∧ b.row.isDir = l.isDir := by
  simp only [Attempt.takeLink] at h
  split at h
  · cases h
  · rename_i l hl
    refine ⟨l, hl, ?_⟩
    obtain ⟨d, hname, h⟩ := Outcome.exists_of_andThen h
    obtain ⟨_, _, _, _, -, -, -, -, rfl⟩ := Attempt.exists_of_modify hname
    split at h
    · obtain rfl := Outcome.continues.inj h
      rfl
    · obtain ⟨_, _, _, _, -, -, -, -, rfl⟩ := Attempt.exists_of_modify h
      rfl

/-- A link is taken for a file by the extension of its name, of the last component of its target,
or of a target right below the root that is all extension; and so it is byte by byte. -/
theorem isDir_of_unixLink {e : Surroundings} {a b : Attempt} {flag : Param}
    {name link : ColumnRef}
    (happly : a.apply e ⟨.unixLink, [flag, .operand (.column name), .operand (.column link)]⟩ =
      .continues b) :
    let line := a.place.restOfLine
    (¬ HasArrow line → (b.row.isDir = false ↔ HasExtension line)) ∧
    (∀ p : ArrowCut, p.Cuts line →
      (b.row.isDir = false ↔
        HasExtension p.name ∨ HasExtension (lastComponent p.target) ∨ IsRootPoint p.target)) ∧
    ∃ l stop, Bytewise.Window.link ⟨a.place.text, 0⟩ a.place.offset = .ok (some (l, stop)) ∧
      b.row.isDir = l.isDir := by
  obtain ⟨l, hl, hdir⟩ := exists_link_of_takeLink happly
  have hseen := Bytewise.Window.link_text a.place
  rw [hl] at hseen
  obtain ⟨c, t, hline, hc⟩ := exists_of_ofLine? hl
  rw [hline] at hl ⊢
  intro line
  rw [hdir]
  refine ⟨fun h => ?_, fun p hp => ?_, l, _, hseen, rfl⟩
  · obtain rfl := Option.some.inj ((ofLine?_of_not_hasArrow hc h).symm.trans hl)
    rw [Bool.not_eq_false', hasExtension_tail_iff]
    rfl
  · rw [ofLine?_of_cuts hc hp] at hl
    split at hl
    · cases hl
    · obtain rfl := Option.some.inj hl
      rw [Bool.not_eq_false', Bool.or_eq_true, ← hp.hasExtension_name_iff hc, targetIsFile_iff]

namespace Links

theorem isDir_of_unixLink_points :
    let listing := "a -> ../x.y/.b\n".toList
    let b := ((attempt listing).withName 0 ['a'] true).withText 1 "../x.y/.b".toList
    (attempt listing).apply (surroundings listing) (linkCall columns 1) = .continues b ∧
      (b.row.isDir = false ↔ HasExtension ['a'] ∨
        HasExtension (lastComponent "../x.y/.b".toList) ∨ IsRootPoint "../x.y/.b".toList) := by
  intro listing b
  have hcuts : ArrowCut.Cuts ⟨"a ".toList, " ../x.y/.b".toList⟩ "a -> ../x.y/.b".toList :=
    ArrowCut.cuts_of_splitAtArrow? (by rfl)
  have happly : (attempt listing).apply (surroundings listing) (linkCall columns 1) =
      .continues b := by rfl
  exact ⟨happly, (isDir_of_unixLink happly).2.1 _ hcuts⟩

def source : Text :=
  "* unix_link(<is_dir>, <name>, <to>);\n".toList

def rules : RuleSet :=
  ⟨[⟨[linkCall columns 1]⟩], columns⟩

def record : FileRecord :=
  { name := ['a'], isDir := false, isHidden := false, isLink := false, size := 0
    modified := none, extension := none, values := [.text ['a'], .text "/.b".toList] }

/-- A file, though neither the name nor the last component of the target has an extension. -/
theorem parse_rootPoint :
    RuleSet.compile source columns = .ok rules ∧
      ArrowCut.Cuts ⟨"a ".toList, " /.b".toList⟩ "a -> /.b".toList ∧
      ¬ HasExtension ['a'] ∧ ¬ HasExtension (lastComponent "/.b".toList) ∧
      parse rules "a -> /.b\n".toList context = .ok [record] := by
  refine ⟨by rfl, ArrowCut.cuts_of_splitAtArrow? (by rfl), ?_, ?_, by rfl⟩
  · rw [hasExtension_tail_iff]
    decide
  · rw [hasExtension_tail_iff]
    decide

end Links

end ListingRules.Listing
