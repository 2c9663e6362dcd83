import ListingRules.Proofs.Bytewise.Link
import ListingRules.Proofs.CellWrites
import ListingRules.Proofs.KnownText
import ListingRules.Proofs.RecordValues

namespace ListingRules

open Text (isLineEnd isVisible)

namespace Cursor

theorem restOfLine_of_visible {c : Cursor} (h : c.ahead.head?.any isVisible = true) :
    ∃ x t, c.restOfLine = x :: t ∧ isVisible x = true := by
  obtain ⟨behind, ahead⟩ := c
  cases ahead with
  | nil => cases h
  | cons x ahead =>
      have hx : isVisible x = true := h
      have hline := Text.isLineEnd_eq_false_of_isVisible hx
      exact ⟨x, ahead.takeWhile (! isLineEnd ·), by simp [restOfLine, hline], hx⟩

theorem atLineEnd_skipWhile (c : Cursor) : (c.skipWhile (! isLineEnd ·)).atLineEnd = true := by
  obtain ⟨behind, ahead⟩ := c
  induction ahead generalizing behind with
  | nil => rfl
  | cons x ahead ih =>
      rw [skipWhile_cons]
      cases hx : isLineEnd x with
      | true => exact hx
      | false => exact ih (x :: behind)

end Cursor

namespace Listing

theorem exists_splitAtArrow? (u v : Text) :
    ∃ a b, splitAtArrow? (u ++ '-' :: '>' :: v) = some (a, b) ∧ a.length ≤ u.length := by
  induction u with
  | nil => exact ⟨[], v, rfl, Nat.le_refl _⟩
  | cons c u ih =>
      rw [List.cons_append]
      unfold splitAtArrow?
      split
      · exact ⟨[], _, rfl, Nat.zero_le _⟩
      · rename_i heq
        obtain ⟨rfl, rfl⟩ := List.cons.inj heq
        obtain ⟨a, b, h, hle⟩ := ih
        exact ⟨c :: a, b, by rw [h]; rfl, Nat.succ_le_succ hle⟩
      · rename_i heq
        cases heq

theorem splitAtArrow?_eq_none_iff {t : Text} :
    splitAtArrow? t = none ↔ ∀ u v, u ++ '-' :: '>' :: v ≠ t := by
  constructor
  · rintro h u v rfl
    obtain ⟨a, b, hsome, -⟩ := exists_splitAtArrow? u v
    rw [h] at hsome
    cases hsome
  · intro h
    cases hs : splitAtArrow? t with
    | none => rfl
    | some p => exact absurd (append_of_splitAtArrow? hs) (h p.1 p.2)

theorem length_le_of_splitAtArrow? {t a b u v : Text} (h : splitAtArrow? t = some (a, b))
    (hu : u ++ '-' :: '>' :: v = t) : a.length ≤ u.length := by
  subst hu
  obtain ⟨a', b', h', hle⟩ := exists_splitAtArrow? u v
  obtain ⟨rfl, rfl⟩ := Prod.mk.inj (Option.some.inj (h.symm.trans h'))
  exact hle

def HasArrow (line : Text) : Prop :=
  ∃ before behind, before ≠ [] ∧ before ++ '-' :: '>' :: behind = line

theorem hasArrow_cons_iff {c : Char} {t : Text} :
    HasArrow (c :: t) ↔ ∃ a b, splitAtArrow? t = some (a, b) := by
  constructor
  · rintro ⟨before, behind, hne, h⟩
    obtain ⟨d, before, rfl⟩ := List.exists_cons_of_ne_nil hne
    obtain ⟨rfl, rfl⟩ := List.cons.inj h
    obtain ⟨a, b, hs, -⟩ := exists_splitAtArrow? before behind
    exact ⟨a, b, hs⟩
  · rintro ⟨a, b, h⟩
    exact ⟨c :: a, b, List.cons_ne_nil c a, congrArg (c :: ·) (append_of_splitAtArrow? h)⟩

theorem dropSpaceEnd_cons {c : Char} (hc : c ≠ ' ') (t : Text) :
    dropSpaceEnd (c :: t) = c :: dropSpaceEnd t := by
  simp only [dropSpaceEnd, List.reverse_cons]
  cases t.reverse with
  | nil =>
      rw [List.nil_append, dropSpace_of_ne hc]
      rfl
  | cons d u =>
      by_cases hd : d = ' '
      · simp [hd, dropSpace]
      · simp [dropSpace_of_ne hd]

structure ArrowCut where
  before : Text
  behind : Text

namespace ArrowCut

def name (p : ArrowCut) : Text :=
  dropSpaceEnd p.before

def target (p : ArrowCut) : Text :=
  dropSpace p.behind

structure Cuts (p : ArrowCut) (line : Text) : Prop where
  text : p.before ++ '-' :: '>' :: p.behind = line
  inside : p.before ≠ []
  first : ∀ u v, u ≠ [] → u ++ '-' :: '>' :: v = line → p.before.length ≤ u.length

variable {p q : ArrowCut} {line a b t : Text} {c : Char}

theorem Cuts.eq (hp : p.Cuts line) (hq : q.Cuts line) : q = p := by
  have hlength : p.before.length = q.before.length :=
    Nat.le_antisymm (hp.first _ _ hq.inside hq.text) (hq.first _ _ hp.inside hp.text)
  obtain ⟨hbefore, hrest⟩ := List.append_inj (hp.text.trans hq.text.symm) hlength
  obtain ⟨p₁, p₂⟩ := p
  obtain ⟨q₁, q₂⟩ := q
  obtain rfl : p₁ = q₁ := hbefore
  obtain rfl : p₂ = q₂ := by simpa using hrest
  rfl

theorem cuts_of_splitAtArrow? (h : splitAtArrow? t = some (a, b)) :
    Cuts ⟨c :: a, b⟩ (c :: t) where
  text := congrArg (c :: ·) (append_of_splitAtArrow? h)
  inside := List.cons_ne_nil c a
  first := by
    intro u v hu huv
    obtain ⟨d, u, rfl⟩ := List.exists_cons_of_ne_nil hu
    exact Nat.succ_le_succ (length_le_of_splitAtArrow? h (List.cons.inj huv).2)

theorem Cuts.hasArrow (h : p.Cuts line) : HasArrow line :=
  ⟨p.before, p.behind, h.inside, h.text⟩

theorem Cuts.splitAtArrow? (h : p.Cuts (c :: t)) :
    ∃ a, p.before = c :: a ∧ Listing.splitAtArrow? t = some (a, p.behind) := by
  obtain ⟨a, b, hs⟩ := hasArrow_cons_iff.1 h.hasArrow
  obtain rfl := (cuts_of_splitAtArrow? (c := c) hs).eq h
  exact ⟨a, rfl, hs⟩

theorem exists_cuts (h : HasArrow (c :: t)) : ∃ p : ArrowCut, p.Cuts (c :: t) := by
  obtain ⟨a, b, hs⟩ := hasArrow_cons_iff.1 h
  exact ⟨⟨c :: a, b⟩, cuts_of_splitAtArrow? hs⟩

end ArrowCut

theorem ne_space_of_isVisible {c : Char} (h : isVisible c = true) : c ≠ ' ' := by
  rintro rfl
  cases h

section Link

variable {p : ArrowCut} {c : Char} {t : Text}

theorem ArrowCut.Cuts.name_eq (h : p.Cuts (c :: t)) (hc : isVisible c = true) :
    p.name = c :: dropSpaceEnd (p.before.tail) := by
  obtain ⟨a, ha, -⟩ := h.splitAtArrow?
  rw [name, ha, dropSpaceEnd_cons (ne_space_of_isVisible hc)]
  rfl

theorem ofLine?_of_not_hasArrow (hc : isVisible c = true) (h : ¬ HasArrow (c :: t)) :
    Link.ofLine? (c :: t) = some ⟨c :: t, none, !hasExtension t⟩ := by
  have hs : splitAtArrow? t = none := by
    refine splitAtArrow?_eq_none_iff.2 fun u v huv => h ⟨c :: u, v, List.cons_ne_nil c u, ?_⟩
    exact congrArg (c :: ·) huv
  simp [Link.ofLine?, hc, hs]

theorem ofLine?_of_cuts (hc : isVisible c = true) (h : p.Cuts (c :: t)) :
    Link.ofLine? (c :: t) =
      if p.target = [] then none
      else some ⟨p.name, some p.target,
        !(hasExtension p.before.tail || targetIsFile p.target)⟩ := by
  obtain ⟨a, ha, hs⟩ := h.splitAtArrow?
  simp only [Link.ofLine?, hc, hs, h.name_eq hc, ha, ArrowCut.target]
  cases dropSpace p.behind with
  | nil => rfl
  | cons x target => rfl

inductive ShowsLink (line : Text) : Text → Option Text → Prop
  | name : ¬ HasArrow line → ShowsLink line line none
  | target {p : ArrowCut} : p.Cuts line → p.target ≠ [] → ShowsLink line p.name (some p.target)

theorem exists_ofLine?_iff (hc : isVisible c = true) {name : Text} {target : Option Text} :
    (∃ isDir, Link.ofLine? (c :: t) = some ⟨name, target, isDir⟩) ↔
      ShowsLink (c :: t) name target := by
  by_cases h : HasArrow (c :: t)
  · obtain ⟨p, hp⟩ := ArrowCut.exists_cuts h
    rw [ofLine?_of_cuts hc hp]
    constructor
    · rintro ⟨isDir, hread⟩
      split at hread
      · cases hread
      · rename_i hne
        obtain ⟨rfl, rfl, -⟩ := Link.mk.inj (Option.some.inj hread)
        exact .target hp hne
    · intro hshown
      cases hshown with
      | name hno => exact absurd h hno
      | target hq hne =>
          obtain rfl := hp.eq hq
          exact ⟨_, if_neg hne⟩
  · rw [ofLine?_of_not_hasArrow hc h]
    constructor
    · rintro ⟨isDir, hread⟩
      obtain ⟨rfl, rfl, -⟩ := Link.mk.inj (Option.some.inj hread)
      exact .name h
    · intro hshown
      cases hshown with
      | name => exact ⟨_, rfl⟩
      | target hp => exact absurd hp.hasArrow h

theorem exists_link_eq_iff {d : Cursor} (hline : d.restOfLine = c :: t) (hc : isVisible c = true) :
    ∃ seen, Bytewise.Window.link ⟨d.text, 0⟩ d.offset = .ok seen ∧
      ∀ name target stop, (∃ isDir, seen = some (⟨name, target, isDir⟩, stop)) ↔
        ShowsLink (c :: t) name target ∧ stop = d.offset + Text.byteCount (c :: t) := by
  refine ⟨_, Bytewise.Window.link_text d, fun name target stop => ?_⟩
  rw [hline, ← exists_ofLine?_iff hc]
  constructor
  · rintro ⟨isDir, hseen⟩
    obtain ⟨l, hl, heq⟩ := Option.map_eq_some_iff.1 hseen
    obtain ⟨rfl, rfl⟩ := Prod.mk.inj heq
    exact ⟨⟨isDir, hl⟩, rfl⟩
  · rintro ⟨⟨isDir, hl⟩, rfl⟩
    exact ⟨isDir, by rw [hl]; rfl⟩

end Link

def linkCall (s : ColumnSet) (link : Nat) : Call :=
  ⟨.unixLink, [.operand (.column .isDir), .operand (.column (.declared s.nameIndex)),
    .operand (.column (.declared link))]⟩

theorem eq_linkCall_of_accepted {s : ColumnSet} {call : Call} {eff : Effect} {i : Nat}
    (h : Call.Accepted s call eff) (hf : call.function = .unixLink)
    (hi : .declared i ∈ call.targets) (hother : i ≠ s.nameIndex) :
    call = linkCall s i ∧ s.operandType? (.declared i) = some .text := by
  cases h with
  | link hname hlink =>
      rcases List.mem_cons.1 hi with hi | hi
      · exact absurd (ColumnRef.declared.inj hi) hother
      · obtain rfl := List.mem_singleton.1 hi
        exact ⟨rfl, hlink⟩
  | _ => simp_all

section Calls

variable {e : Surroundings} {a : Attempt} {s : ColumnSet} {n i : Nat} {name t : Text}
  {isDir : Bool} {k : ColumnKind} {old cell : Cell}

theorem Row.Typed.holds_name {ds : List ColumnDefinition} {row : Row} (h : row.Typed s)
    (hs : ColumnSet.ofDefinitions ds = .ok s) : ∃ cell, row.Holds s s.nameIndex .name cell := by
  obtain ⟨column, hcolumn, hkind⟩ := ColumnSet.get?_nameIndex hs
  obtain ⟨cell, hcell, -⟩ := h.exists_cell hcolumn
  exact ⟨cell, by simp [hcolumn, hkind], hcell⟩

def Attempt.withName (a : Attempt) (n : Nat) (name : Text) (isDir : Bool) : Attempt :=
  { a with
    place := a.place.skipWhile (! isLineEnd ·)
    row := { a.row with isDir }.set n (.text (Text.takeBytes maxNameBytes name)) }

def Attempt.withText (a : Attempt) (i : Nat) (t : Text) : Attempt :=
  { a with row := a.row.set i (.text t) }

theorem setText_name (hname : a.row.Holds s n .name cell) (name : Text) (isDir : Bool) :
    { a with place := a.place.skipWhile (! isLineEnd ·), row := { a.row with isDir } }.setText s
        name (.declared n) = .continues (a.withName n name isDir) :=
  Row.Holds.setText (f := ⟨{ a.row with isDir }, a.languages⟩) ⟨hname.kind, hname.cell⟩ name _

theorem setText_other (hlink : a.row.Holds s i k old) (hk : k ≠ .name) (t : Text) :
    a.setText s t (.declared i) = .continues (a.withText i t) := by
  have hset := Row.Holds.setText (f := ⟨a.row, a.languages⟩) hlink t a.place
  rwa [keptText, if_neg hk] at hset

theorem takeLink_of_name (hname : a.row.Holds s n .name cell)
    (h : Link.ofLine? a.place.restOfLine = some ⟨name, none, isDir⟩) (link : ColumnRef) :
    a.takeLink s (.declared n) link = .continues (a.withName n name isDir) := by
  simp only [Attempt.takeLink, h, setText_name hname, Outcome.andThen]

theorem takeLink_of_target (hname : a.row.Holds s n .name cell) (hlink : a.row.Holds s i k old)
    (hk : k ≠ .name) (hother : i ≠ n)
    (h : Link.ofLine? a.place.restOfLine = some ⟨name, some t, isDir⟩) :
    a.takeLink s (.declared n) (.declared i) =
      .continues ((a.withName n name isDir).withText i t) := by
  have hcell : (a.withName n name isDir).row.cells[i]? = some old := by
    rw [← hlink.cell]
    exact List.getElem?_set_ne (Ne.symm hother)
  simp only [Attempt.takeLink, h, setText_name hname, Outcome.andThen]
  exact setText_other ⟨hlink.kind, hcell⟩ hk t

theorem takeLink_of_cuts {p : ArrowCut} {c : Char} (hname : a.row.Holds s n .name cell)
    (hlink : a.row.Holds s i k old) (hk : k ≠ .name) (hother : i ≠ n)
    (hline : a.place.restOfLine = c :: t) (hc : isVisible c = true) (hp : p.Cuts (c :: t)) :
    a.takeLink s (.declared n) (.declared i) =
      if p.target = [] then .fails a.languages
      else .continues ((a.withName n p.name
        !(hasExtension p.before.tail || targetIsFile p.target)).withText i p.target) := by
  have hread := ofLine?_of_cuts hc hp
  rw [← hline] at hread
  split
  · rename_i hnil
    rw [if_pos hnil] at hread
    simp only [Attempt.takeLink, hread]
  · rename_i hne
    rw [if_neg hne] at hread
    exact takeLink_of_target hname hlink hk hother hread

end Calls

/-- A call for a link at a visible character: the name is what stands before the first arrow, and
the target what stands behind it, each without one space next to the arrow. Byte by byte the same
parts are seen. -/
theorem unixLink_parts {ds : List ColumnDefinition} {e : Surroundings} {a : Attempt} {call : Call}
    {eff : Effect} {i : Nat} (hcolumns : ColumnSet.ofDefinitions ds = .ok e.columns)
    (hrow : a.row.Typed e.columns) (hcall : Call.Accepted e.columns call eff)
    (hfunction : call.function = .unixLink) (hlink : .declared i ∈ call.targets)
    (hother : i ≠ e.columns.nameIndex) (hvisible : a.place.ahead.head?.any isVisible = true) :
    let line := a.place.restOfLine
    let n := e.columns.nameIndex
    (¬ HasArrow line → ∃ isDir, a.apply e call = .continues (a.withName n line isDir)) ∧
    (HasArrow line → ∃ p : ArrowCut, (∀ q : ArrowCut, q.Cuts line ↔ q = p) ∧ p.name ≠ [] ∧
      (a.apply e call = .fails a.languages ↔ p.target = []) ∧
      (p.target ≠ [] → ∃ isDir, a.apply e call =
        .continues ((a.withName n p.name isDir).withText i p.target))) ∧
    (∀ b, a.apply e call = .continues b → b.place.atLineEnd = true) ∧
    ∃ seen, Bytewise.Window.link ⟨a.place.text, 0⟩ a.place.offset = .ok seen ∧
      ∀ name target stop, (∃ isDir, seen = some (⟨name, target, isDir⟩, stop)) ↔
        ShowsLink line name target ∧ stop = a.place.offset + Text.byteCount line := by
  obtain ⟨rfl, htype⟩ := eq_linkCall_of_accepted hcall hfunction hlink hother
  obtain ⟨c, t, hline, hc⟩ := Cursor.restOfLine_of_visible hvisible
  rw [hline]
  intro line n
  obtain ⟨cell, hname⟩ := hrow.holds_name hcolumns
  obtain ⟨k, old, hheld⟩ := hrow.holds htype
  have hk := ColumnSet.kind_ne_name hcolumns hheld.kind hother
  have hlineEnd := a.place.atLineEnd_skipWhile
  have hwithout (h : ¬ HasArrow line) :
      a.apply e (linkCall e.columns i) = .continues (a.withName n line !hasExtension t) :=
    takeLink_of_name hname (hline ▸ ofLine?_of_not_hasArrow hc h) _
  have hwith {p : ArrowCut} (hp : p.Cuts line) :
      a.apply e (linkCall e.columns i) = if p.target = [] then .fails a.languages
        else .continues ((a.withName n p.name _).withText i p.target) :=
    takeLink_of_cuts hname hheld hk hother hline hc hp
  refine ⟨fun h => ⟨_, hwithout h⟩, fun h => ?_, fun b hb => ?_, exists_link_eq_iff hline hc⟩
  · obtain ⟨p, hp⟩ := ArrowCut.exists_cuts h
    have happly := hwith hp
    refine ⟨p, fun q => ⟨hp.eq, fun hq => hq ▸ hp⟩, ?_, ?_,
      fun hne => ⟨_, happly.trans (if_neg hne)⟩⟩
    · rw [hp.name_eq hc]
      exact List.cons_ne_nil c _
    · rw [happly, ite_eq_left_iff]
      simp
  · by_cases h : HasArrow line
    · obtain ⟨p, hp⟩ := ArrowCut.exists_cuts h
      rw [hwith hp] at hb
      split at hb
      · cases hb
      · obtain rfl := Outcome.continues.inj hb
        exact hlineEnd
    · obtain rfl := Outcome.continues.inj ((hwithout h).symm.trans hb)
      exact hlineEnd

namespace Links

def definitions : List ColumnDefinition :=
  [⟨"name".toList, .name, none⟩, ⟨"to".toList, .text, none⟩]

def columns : ColumnSet :=
  ⟨[⟨"name".toList, .name, .empty⟩, ⟨"to".toList, .text, .text []⟩], 0⟩

theorem isDay_today : IsDay 2024 4 10 := by decide

def context : Context :=
  { today := ⟨2024, 4, 10, isDay_today⟩ }

def surroundings (listing : Text) : Surroundings :=
  Reading.surroundings columns context listing

def attempt (listing : Text) : Attempt :=
  ⟨Cursor.ofText listing, Row.empty columns, Languages.all⟩

theorem unixLink_arrows :
    let listing := "->ä -> b -> c\n".toList
    let a := attempt listing
    ∃ isDir, a.apply (surroundings listing) (linkCall columns 1) =
      .continues ((a.withName 0 "->ä".toList isDir).withText 1 "b -> c".toList) := by
  intro listing a
  have hcuts : ArrowCut.Cuts ⟨"->ä ".toList, " b -> c".toList⟩ "->ä -> b -> c".toList :=
    ArrowCut.cuts_of_splitAtArrow? (by rfl)
  have hcall : Call.Accepted columns (linkCall columns 1) _ := .link (by rfl) (by rfl)
  obtain ⟨-, hwith, -⟩ := unixLink_parts (e := surroundings listing) (a := a) (i := 1)
    (show ColumnSet.ofDefinitions definitions = .ok columns by rfl) Row.typed_empty hcall rfl
    (by decide) (by decide) rfl
  obtain ⟨p, hp, -, -, hwritten⟩ := hwith hcuts.hasArrow
  obtain rfl := (hp _).1 hcuts
  exact hwritten (by decide)

end Links

end Listing

end ListingRules
