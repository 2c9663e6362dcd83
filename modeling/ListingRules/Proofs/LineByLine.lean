import ListingRules.Proofs.Margin.Line
import ListingRules.Proofs.Passes
import ListingRules.Rule.Compile

namespace ListingRules

open Text (isLineEnd)

def Call.readsOnLine (c : Call) : Bool :=
  c.function != .whiteSpacesAndLineEnds && c.function != .numberWithSeparators &&
    !(c.params.flatMap Param.operands).any Operand.isLinePosition

def Rule.readsOnLine (r : Rule) : Bool :=
  r.calls.all Call.readsOnLine

def RuleSet.readsOnLine (s : RuleSet) : Bool :=
  s.rules.all Rule.readsOnLine

namespace Listing

section Calls

variable {m n : Margin} {e e' : Surroundings} {a : Attempt}

theorem seesSame_of_readsOnLine {call : Call} (hcolumns : e'.columns = e.columns)
    (htoday : e'.today = e.today) (hnext : m.after.head? = n.after.head?)
    (hcall : call.readsOnLine = true) : SeesSame m n e e' call a := by
  simp only [Call.readsOnLine, Bool.and_eq_true, bne_iff_ne, ne_eq, Bool.not_eq_true',
    List.any_eq_false] at hcall
  obtain ⟨⟨hspaces, hseparated⟩, hoperands⟩ := hcall
  constructor
  · exact hcolumns
  · exact htoday
  · intro p hp
    refine eval?_within hcolumns (fun o ho => boolOf?_within ?_) fun o _ =>
      textOf?_within fun _ => hnext
    simpa using hoperands o (List.mem_flatMap.2 ⟨p, hp, ho⟩)
  · exact fun o _ => textOf?_within fun _ => hnext
  · exact fun _ _ h => absurd (congrArg Call.function h) hseparated
  · exact hspaces

end Calls

def Match.stoppingAt (stop : Cursor) : Match → Match
  | matched _ row languages => matched stop row languages
  | skipsRest languages => skipsRest languages
  | fails languages => fails languages

def Outcome.onLine (s : ColumnSet) (languages : Languages) (stop : Cursor) : Outcome → Match
  | continues a =>
      if a.row.hasEmptyName s || !a.place.ahead.isEmpty then .fails a.languages
      else .matched stop a.row a.languages
  | skipsRest a => if a.row.hasEmptyName s then .fails a.languages else .skipsRest a.languages
  | fails left => .fails left
  | stuck => .fails languages

theorem Outcome.stoppingAt_onLine (s : ColumnSet) (languages : Languages) (c d : Cursor)
    (o : Outcome) : (o.onLine s languages c).stoppingAt d = o.onLine s languages d := by
  cases o with
  | continues a =>
      simp only [onLine]
      split <;> rfl
  | skipsRest a =>
      simp only [onLine]
      split <;> rfl
  | fails left => rfl
  | stuck => rfl

section Lines

variable {e e' : Surroundings} {l : Line} {rest rest' behind behind' : Text}

theorem applyRule_onLine {rule : Rule} {languages : Languages} {o : Outcome}
    (h : l.Precedes rest) (hb : Stops (! isLineEnd ·) behind)
    (ho : applyAll e rule.calls
      (Attempt.within (h.margin hb) ⟨Cursor.ofText l.content, Row.empty e.columns, languages⟩) =
        o.within (h.margin hb)) :
    applyRule e ⟨behind, l.text ++ rest⟩ languages rule =
      o.onLine e.columns languages ⟨l.text.reverse ++ behind, rest⟩ := by
  have hstart := h.within_margin hb
  simp only [Attempt.within, hstart] at ho
  simp only [applyRule, ho]
  cases o with
  | continues a =>
      have htext : a.place.text = l.content := by
        rw [← hstart] at ho
        exact text_of_applyAll_within (m := h.margin hb)
          (a := ⟨Cursor.ofText l.content, Row.empty e.columns, languages⟩) ho
      have hcontent : ∀ x ∈ a.place.ahead, isLineEnd x = false := by
        intro x hx
        exact h.content x (htext ▸ List.mem_append_right _ hx)
      have hend := Cursor.atLineEnd_within hcontent (h.margin hb)
      by_cases hahead : a.place.ahead = []
      · have hstop : (a.place.within (h.margin hb)).skipLineEnd =
            ⟨l.text.reverse ++ behind, rest⟩ := h.skipLineEnd_within rfl htext hahead
        simp [Outcome.within, Outcome.onLine, hend.2 hahead, hahead, hstop]
      · have hmiddle : (a.place.within (h.margin hb)).atLineEnd = false :=
          Bool.eq_false_iff.2 fun hc => hahead (hend.1 hc)
        simp [Outcome.within, Outcome.onLine, hmiddle, hahead]
  | skipsRest a => rfl
  | fails left => rfl
  | stuck => rfl

theorem sameLine_applyRule (hcolumns : e'.columns = e.columns) (htoday : e'.today = e.today)
    (h : l.Precedes rest) (h' : l.Precedes rest') (hb : Stops (! isLineEnd ·) behind)
    (hb' : Stops (! isLineEnd ·) behind') {rule : Rule} (hrule : rule.readsOnLine = true)
    (languages : Languages) :
    ∃ x : Match,
      applyRule e ⟨behind, l.text ++ rest⟩ languages rule =
        x.stoppingAt ⟨l.text.reverse ++ behind, rest⟩ ∧
      applyRule e' ⟨behind', l.text ++ rest'⟩ languages rule =
        x.stoppingAt ⟨l.text.reverse ++ behind', rest'⟩ := by
  have hnext : (h.margin hb).after.head? = (h'.margin hb').after.head? := by
    simp only [Line.Precedes.margin]
    by_cases hend : l.ending = []
    · rw [h.rest_eq_nil hend, h'.rest_eq_nil hend]
    · obtain ⟨x, ending, hcons⟩ := List.exists_cons_of_ne_nil hend
      rw [hcons]
      rfl
  have hstart : Outcome.SameIn (h.margin hb) (h'.margin hb')
      (applyAll e rule.calls (Attempt.within (h.margin hb)
        ⟨Cursor.ofText l.content, Row.empty e.columns, languages⟩))
      (applyAll e' rule.calls (Attempt.within (h'.margin hb')
        ⟨Cursor.ofText l.content, Row.empty e.columns, languages⟩)) :=
    sameIn_applyAll fun call hcall b _ => seesSame_of_readsOnLine hcolumns htoday hnext
      (List.all_eq_true.1 hrule call hcall)
  obtain ⟨o, ho, ho'⟩ := hstart
  refine ⟨o.onLine e.columns languages ⟨[], []⟩, ?_, ?_⟩
  · rw [Outcome.stoppingAt_onLine]
    exact applyRule_onLine h hb ho
  · rw [Outcome.stoppingAt_onLine, ← hcolumns]
    exact applyRule_onLine h' hb' (hcolumns ▸ ho')

theorem sameLine_applyRules (hcolumns : e'.columns = e.columns) (htoday : e'.today = e.today)
    (h : l.Precedes rest) (h' : l.Precedes rest') (hb : Stops (! isLineEnd ·) behind)
    (hb' : Stops (! isLineEnd ·) behind') {rules : List Rule}
    (hrules : ∀ r ∈ rules, r.readsOnLine = true) (languages : Languages) :
    ∃ x : Match,
      applyRules e ⟨behind, l.text ++ rest⟩ languages rules =
        x.stoppingAt ⟨l.text.reverse ++ behind, rest⟩ ∧
      applyRules e' ⟨behind', l.text ++ rest'⟩ languages rules =
        x.stoppingAt ⟨l.text.reverse ++ behind', rest'⟩ := by
  induction rules generalizing languages with
  | nil => exact ⟨.fails languages, rfl, rfl⟩
  | cons rule more ih =>
      obtain ⟨x, hx, hx'⟩ := sameLine_applyRule hcolumns htoday h h' hb hb'
        (hrules rule List.mem_cons_self) languages
      simp only [applyRules, hx, hx']
      cases x with
      | matched stop row left => exact ⟨.matched stop row left, rfl, rfl⟩
      | skipsRest left => exact ⟨.skipsRest left, rfl, rfl⟩
      | fails left => exact ih (fun r hr => hrules r (List.mem_cons_of_mem rule hr)) left

theorem oneLine_of_applyRules {c stop : Cursor} {rules : List Rule} {row : Row}
    {before after : Languages} (hline : c.StartsLine) (hne : c.ahead ≠ [])
    (hrules : ∀ r ∈ rules, r.readsOnLine = true)
    (hm : applyRules e c before rules = .matched stop row after) :
    ∃ l, lines c.ahead = l :: lines stop.ahead ∧ Cursor.Spans c stop l.text := by
  obtain ⟨b, t⟩ := c
  obtain ⟨l, rest, rfl, hl⟩ := Line.exists_precedes hne
  have hb : Stops (! isLineEnd ·) b := fun x hx => by simp [hline x hx]
  have hcolumns : e.columns = e.columns := rfl
  have htoday : e.today = e.today := rfl
  obtain ⟨x, hx, -⟩ := sameLine_applyRules hcolumns htoday hl hl hb hb hrules before
  rw [hx] at hm
  cases x with
  | matched _ _ _ =>
      simp only [Match.stoppingAt, Match.matched.injEq] at hm
      obtain ⟨rfl, -, -⟩ := hm
      exact ⟨l, hl.lines_eq, rfl, rfl⟩
  | skipsRest left => simp [Match.stoppingAt] at hm
  | fails left => simp [Match.stoppingAt] at hm

end Lines

def Result.behind (a : Text) : Result → Result
  | .unread u => .unread ⟨u.offset + Text.byteCount a, u.line + countLineEnds a⟩
  | x => x

namespace Reading

def behind (a : Text) (r : Reading) : Reading :=
  { r with
    place := ⟨r.place.behind ++ a.reverse, r.place.ahead⟩
    line := r.line + countLineEnds a }

def followedBy (b : Text) (r : Reading) : Reading :=
  { r with place := ⟨r.place.behind, r.place.ahead ++ b⟩ }

section Steps

variable {e e' : Surroundings} {rules : List Rule} {a b text : Text} {r r' : Reading}

structure ReadAlike (e e' : Surroundings) (rules : List Rule) : Prop where
  columns : e'.columns = e.columns
  today : e'.today = e.today
  whole : e.incomplete = false
  whole' : e'.incomplete = false
  onLine : ∀ r ∈ rules, r.readsOnLine = true

theorem sameLine_step (he : ReadAlike e e' rules) {l : Line} {rest rest' b b' : Text}
    (h : l.Precedes rest) (h' : l.Precedes rest') (hb : Stops (! isLineEnd ·) b)
    (hb' : Stops (! isLineEnd ·) b') (line line' : Nat) (languages : Languages) :
    (∃ left,
      step e rules ⟨⟨b, l.text ++ rest⟩, line, languages, false⟩ =
        (some (.unread ⟨Text.byteCount b, line⟩), ⟨⟨b, l.text ++ rest⟩, line, left, true⟩) ∧
      step e' rules ⟨⟨b', l.text ++ rest'⟩, line', languages, false⟩ =
        (some (.unread ⟨Text.byteCount b', line'⟩),
          ⟨⟨b', l.text ++ rest'⟩, line', left, true⟩)) ∨
    ∃ (x : Option FileRecord) (left : Languages),
      step e rules ⟨⟨b, l.text ++ rest⟩, line, languages, false⟩ =
        (x.map .record,
          ⟨⟨l.text.reverse ++ b, rest⟩, line + countLineEnds l.text, left, false⟩) ∧
      step e' rules ⟨⟨b', l.text ++ rest'⟩, line', languages, false⟩ =
        (x.map .record,
          ⟨⟨l.text.reverse ++ b', rest'⟩, line' + countLineEnds l.text, left, false⟩) := by
  have hne (t : Text) : (l.text ++ t).isEmpty = false := by
    simp [h.text_ne_nil]
  obtain ⟨x, hx, hx'⟩ := sameLine_applyRules he.columns he.today h h' hb hb' he.onLine languages
  simp only [step, hne, hx, hx', he.whole, he.whole', he.columns, he.today]
  cases x with
  | matched _ row left =>
      refine .inr ⟨recordOf? e row, left, ?_⟩
      cases hname : (row.text? e.columns.nameIndex).isSome <;>
        simp [Match.stoppingAt, recordOf?, textUpTo, hname]
  | skipsRest left =>
      have hincomplete := incomplete_of_applyRules hx
      simp [he.whole] at hincomplete
  | fails left => exact .inl ⟨left, rfl, rfl⟩

theorem step_behind (he : ReadAlike e e' rules) (ha : Stops (! isLineEnd ·) a.reverse)
    (hr : Stands text r) :
    step e' rules (r.behind a) =
      ((step e rules r).1.map (Result.behind a), (step e rules r).2.behind a) := by
  obtain ⟨⟨b, t⟩, line, languages, finished⟩ := r
  by_cases hend : finished = true ∨ t = []
  · rcases hend with rfl | rfl <;> simp [step, behind, finish, Result.behind]
  · obtain ⟨hfinished, ht⟩ := not_or.1 hend
    obtain rfl : finished = false := by simpa using hfinished
    obtain ⟨l, rest, rfl, hl⟩ := Line.exists_precedes ht
    have hb : Stops (! isLineEnd ·) b := fun x hx => by simp [hr.2.resolve_left ht x hx]
    have hstep := sameLine_step he hl hl hb (hb.append ha) line
      (line + countLineEnds a) languages
    rcases hstep with ⟨left, hx, hx'⟩ | ⟨x, left, hx, hx'⟩
    · rw [hx]
      refine hx'.trans ?_
      simp [behind, Result.behind]
    · rw [hx]
      refine hx'.trans ?_
      cases x <;> simp [behind, Result.behind, Nat.add_right_comm]

theorem nextFrom_behind (he : ReadAlike e e' rules) (ha : Stops (! isLineEnd ·) a.reverse) (n : Nat)
    (hr : Stands text r) :
    nextFrom e' rules n (r.behind a) =
      ((nextFrom e rules n r).1.behind a, (nextFrom e rules n r).2.behind a) := by
  induction n generalizing r with
  | zero => rfl
  | succ n ih =>
      simp only [nextFrom, step_behind he ha hr]
      rcases hs : step e rules r with ⟨x, r'⟩
      cases x with
      | some x => rfl
      | none => exact ih ((matches_of_step_none hs).stands hr)

theorem nextMany_behind (he : ReadAlike e e' rules) (ha : Stops (! isLineEnd ·) a.reverse) (n : Nat)
    (hr : Stands text r) :
    nextMany e' rules n (r.behind a) =
      ((nextMany e rules n r).1.map (Result.behind a), (nextMany e rules n r).2.behind a) := by
  induction n generalizing r with
  | zero => rfl
  | succ n ih =>
      have hnext : next e' rules (r.behind a) =
          ((next e rules r).1.behind a, (next e rules r).2.behind a) :=
        nextFrom_behind he ha _ hr
      simp only [nextMany, hnext, ih (stands_next hr), List.map_cons]

structure LeadsInto (b : Text) (r : Reading) : Prop where
  unfinished : r.finished = false
  ends : Parted r.place.ahead b
  begins : Parted r.place.behind.reverse (r.place.ahead ++ b)
  line : r.line = 1 + countLineEnds r.place.behind.reverse

theorem LeadsInto.stops (hr : r.LeadsInto b) : Stops (! isLineEnd ·) r.place.behind := by
  intro x hx
  have hend := (hr.begins x (by simpa using hx)).1
  simp [hend]

theorem LeadsInto.stands (hr : r.LeadsInto b) :
    Stands (r.followedBy b).place.text (r.followedBy b) :=
  ⟨rfl, .inr fun x hx => by simpa using hr.stops x hx⟩

theorem leadsInto_start {context : Context} (h : Parted a b) : (start a context).LeadsInto b :=
  ⟨rfl, h, by simp [start, Cursor.ofText, Parted], rfl⟩

theorem LeadsInto.followedBy_eq (hr : r.LeadsInto b) (hend : r.place.ahead = [])
    (htext : r.place.text = a) (context : Context) :
    r.followedBy b = (start b { context with languages := r.languages }).behind a := by
  obtain ⟨⟨c, t⟩, line, languages, finished⟩ := r
  obtain rfl : t = [] := hend
  obtain rfl : finished = false := hr.unfinished
  obtain rfl : line = 1 + countLineEnds c.reverse := hr.line
  obtain rfl : c.reverse = a := by simpa [Cursor.text] using htext
  simp [followedBy, behind, start, Cursor.ofText]

theorem step_followedBy (he : ReadAlike e e' rules) (hr : r.LeadsInto b)
    (hne : r.place.ahead ≠ []) :
    (∃ u, (step e rules r).1 = some (.unread u)) ∨
      ∃ x r', step e rules r = (Option.map .record x, r') ∧
        step e' rules (r.followedBy b) = (x.map .record, r'.followedBy b) ∧ r'.LeadsInto b := by
  obtain ⟨⟨c, t⟩, line, languages, finished⟩ := r
  obtain rfl : finished = false := hr.unfinished
  obtain ⟨l, rest, rfl, hl⟩ := Line.exists_precedes hne
  have hl' : l.Precedes (rest ++ b) := hl.append hr.ends
  have hstep := sameLine_step he hl hl' hr.stops hr.stops line line
    languages
  rcases hstep with ⟨left, hx, -⟩ | ⟨x, left, hx, hx'⟩
  · exact .inl ⟨_, congrArg Prod.fst hx⟩
  · refine .inr ⟨x, _, hx, ?_, ?_⟩
    · simpa [followedBy] using hx'
    · have hparted : Parted l.text (rest ++ b) := hl'.parted (hl.ending_ne_nil hr.ends)
      have hbegins : Parted c.reverse (l.text ++ rest ++ b) := hr.begins
      have hline : line = 1 + countLineEnds c.reverse := hr.line
      rw [List.append_assoc] at hbegins
      constructor
      · rfl
      · exact Parted.of_append hr.ends
      · simpa using hparted.append (a := c.reverse) hl.text_ne_nil
      · simp only [List.reverse_append, List.reverse_reverse, hline,
          countLineEnds_append (hbegins.of_append_right hl.text_ne_nil), Nat.add_assoc]

theorem next_followedBy (he : ReadAlike e e' rules) {ps : List Pass} {x : Result}
    (h : Reads e rules r ps x r') (hr : r.LeadsInto b) :
    (∃ u, x = .unread u) ∨
      (∃ f, x = .record f ∧ next e' rules (r.followedBy b) = (.record f, r'.followedBy b) ∧
        r'.LeadsInto b) ∨
      ∃ last : Reading, x = .done ∧ r' = last.finish ∧ last.LeadsInto b ∧ last.place.ahead = [] ∧
        next e' rules (r.followedBy b) = next e' rules (last.followedBy b) := by
  induction h with
  | @ends r r' x hs hx =>
      by_cases hend : r.place.ahead = []
      · have hdone : step e rules r = (some .done, r.finish) := by simp [step, hend]
        obtain ⟨hx', rfl⟩ := Prod.mk.inj (hs.symm.trans hdone)
        exact .inr (.inr ⟨r, Option.some.inj hx', rfl, hr, hend, rfl⟩)
      · rcases step_followedBy he hr hend with ⟨u, hu⟩ | ⟨y, r₁, hy, -⟩
        · rw [hs] at hu
          exact .inl ⟨u, Option.some.inj hu⟩
        · obtain ⟨hxy, -⟩ := Prod.mk.inj (hs.symm.trans hy)
          cases y with
          | none => simp at hxy
          | some f =>
              obtain rfl : x = .record f := by simpa using hxy
              simp [Result.record?] at hx
  | @record r r' f hs =>
      have hne : r.place.ahead ≠ [] := (matches_of_step_record hs).1
      rcases step_followedBy he hr hne with
        ⟨u, hu⟩ | ⟨y, r₁, hy, hy', hr₁⟩
      · simp [hs] at hu
      · obtain ⟨hfy, rfl⟩ := Prod.mk.inj (hs.symm.trans hy)
        rw [← hfy] at hy'
        exact .inr (.inl ⟨f, rfl, next_of_step_some hy', hr₁⟩)
  | @pass r r₁ r' ps x hs _ ih =>
      have hne : r.place.ahead ≠ [] := (matches_of_step_none hs).1
      rcases step_followedBy he hr hne with
        ⟨u, hu⟩ | ⟨y, r₂, hy, hy', hr₂⟩
      · simp [hs] at hu
      · obtain ⟨hny, rfl⟩ := Prod.mk.inj (hs.symm.trans hy)
        rw [← hny] at hy'
        rw [next_of_step_none hr.stands hy']
        exact ih hr₂

theorem nextMany_followedBy (he : ReadAlike e e' rules) {records : List FileRecord}
    (hstands : Stands text r) (hr : r.LeadsInto b)
    (h : (nextMany e rules records.length r).1 = records.map .record) :
    nextMany e' rules records.length (r.followedBy b) =
      (records.map .record, (nextMany e rules records.length r).2.followedBy b) ∧
    (nextMany e rules records.length r).2.LeadsInto b := by
  induction records generalizing r with
  | nil => exact ⟨rfl, hr⟩
  | cons f records ih =>
      simp only [List.length_cons, nextMany, List.map_cons, List.cons.injEq] at h ⊢
      obtain ⟨hf, hrest⟩ := h
      obtain ⟨ps, hreads⟩ : ∃ ps, Reads e rules r ps _ _ := reads_next hstands
      rcases next_followedBy he hreads hr with ⟨u, hu⟩ | ⟨g, hg, hnext, hr₁⟩ | ⟨last, hlast, -⟩
      · simp [hf] at hu
      · obtain ⟨hmany, hr₂⟩ := ih (stands_next hstands) hr₁ hrest
        obtain rfl : f = g := by simpa [hf] using hg
        simp only [hnext, hmany]
        exact ⟨trivial, hr₂⟩
      · simp [hf] at hlast

theorem done_of_nextMany {n : Nat} {xs : List Result} {last : Reading} (hn : xs.length = n)
    (h : nextMany e rules (n + 1) r = (xs ++ [.done], last)) :
    (nextMany e rules n r).1 = xs ∧ next e rules (nextMany e rules n r).2 = (.done, last) := by
  simp only [nextMany_add, Prod.mk.injEq] at h
  obtain ⟨hresults, hlast⟩ := h
  obtain ⟨hxs, hdone⟩ := List.append_inj hresults (by simp [hn])
  exact ⟨hxs, Prod.ext (List.singleton_inj.1 hdone) hlast⟩

theorem oneLine_of_runs {passes : List Pass} {results : List Result} (hr : Stands text r)
    (hrules : ∀ r ∈ rules, r.readsOnLine = true) (h : Runs e rules r passes results r') :
    ∀ p ∈ passes, ∃ l, lines p.start.ahead = l :: lines p.stop.ahead ∧ p.text = l.text := by
  intro p hp
  obtain ⟨-, -, last, ⟨hlinked, hpasses⟩, -⟩ := chain_of_runs h hr
  obtain ⟨⟨before, row, after, hmatch, -⟩, hlines⟩ := hpasses p hp
  have hstarts : p.start.StartsLine :=
    startsLine_linked hlinked hr.2 (fun q hq => (hpasses q hq).2) p hp
  obtain ⟨l, hl, hspans⟩ := oneLine_of_applyRules hstarts hlines.ahead_ne_nil hrules hmatch
  exact ⟨l, hl, by simp [Pass.text, textUpTo, hspans.1]⟩

theorem nextMany_append {first : Surroundings} (hfirst : ReadAlike first e' rules)
    (hsecond : ReadAlike e e' rules) {context : Context} {records : List FileRecord}
    {last : Reading} (hparted : Parted a b)
    (hrun : nextMany first rules (records.length + 1) (start a context) =
      (records.map .record ++ [.done], last)) (n : Nat) :
    nextMany e' rules (records.length + (n + 1)) (start (a ++ b) context) =
      let rest := nextMany e rules (n + 1) (start b { context with languages := last.languages })
      (records.map .record ++ rest.1.map (Result.behind a), rest.2.behind a) := by
  obtain ⟨hrecords, hdone⟩ := done_of_nextMany (by simp) hrun
  obtain ⟨hmany, hleads⟩ := nextMany_followedBy hfirst (stands_start a context)
    (leadsInto_start hparted) hrecords
  have hstands : Stands a (nextMany first rules records.length (start a context)).2 :=
    stands_nextMany _ (stands_start a context)
  generalize (nextMany first rules records.length (start a context)).2 = r
    at hdone hmany hleads hstands
  have hlast : Stands a (next first rules r).2 := stands_next hstands
  obtain ⟨ps, hreads⟩ : ∃ ps, Reads first rules r ps (next first rules r).1
      (next first rules r).2 := reads_next hstands
  rw [hdone] at hreads hlast
  rcases next_followedBy hfirst hreads hleads with
    ⟨u, hu⟩ | ⟨f, hf, -⟩ | ⟨stop, -, rfl, hstop, hend, hnext⟩
  · cases hu
  · cases hf
  · have hbehind : stop.followedBy b = behind a _ := hstop.followedBy_eq hend hlast.1 context
    have ha : a.reverse = stop.place.behind := by
      rw [← hlast.1]
      simp [Cursor.text, finish, hend]
    have hrest : nextMany e' rules (n + 1) (r.followedBy b) =
        nextMany e' rules (n + 1) (stop.followedBy b) := by
      simp only [nextMany, hnext]
    have hwhole : start (a ++ b) context = (start a context).followedBy b := rfl
    rw [nextMany_add, hwhole, hmany, hrest, hbehind,
      nextMany_behind hsecond (ha ▸ hstop.stops) _ (stands_start b _)]
    rfl

end Steps

/-- Each match of rules that read on one line takes one line with its end. When such rules have
read a listing to its end, they read a listing that goes on from there just as they read the
continuation alone, in the languages that the listing has left: the offsets are larger by the
bytes of the listing, and the line numbers by its line ends. -/
theorem nextMany_lineByLine (rules : RuleSet) (hrules : rules.readsOnLine = true) :
    (∀ (text : Text) (context : Context) (passes : List Pass) (results : List Result)
        (r : Reading),
      Runs (surroundings rules.columns context text) rules.rules (start text context) passes
        results r →
      ∀ p ∈ passes, ∃ l, lines p.start.ahead = l :: lines p.stop.ahead ∧ p.text = l.text) ∧
    ∀ (a b : Text) (context : Context) (records : List FileRecord) (last : Reading),
      Parted a b →
      let whole := { context with incomplete := false }
      let next := { whole with languages := last.languages }
      let run (context : Context) (text : Text) (n : Nat) :=
        nextMany (surroundings rules.columns context text) rules.rules n (start text context)
      run whole a (records.length + 1) = (records.map .record ++ [.done], last) →
      ∀ n, run whole (a ++ b) (records.length + (n + 1)) =
        (records.map .record ++ (run next b (n + 1)).1.map (Result.behind a),
          (run next b (n + 1)).2.behind a) := by
  have honLine : ∀ r ∈ rules.rules, r.readsOnLine = true := List.all_eq_true.1 hrules
  constructor
  · intro text context passes results r hruns
    exact oneLine_of_runs (stands_start text context) honLine hruns
  · intro a b context records last hparted whole next run hrun n
    have hfirst : ReadAlike (surroundings rules.columns whole a)
        (surroundings rules.columns whole (a ++ b)) rules.rules := ⟨rfl, rfl, rfl, rfl, honLine⟩
    have hsecond : ReadAlike (surroundings rules.columns next b)
        (surroundings rules.columns whole (a ++ b)) rules.rules := ⟨rfl, rfl, rfl, rfl, honLine⟩
    exact nextMany_append hfirst hsecond hparted hrun n

end Reading

namespace Continued

def columns : ColumnSet :=
  ⟨[⟨['n', 'a', 'm', 'e'], .name, .empty⟩, ⟨['d'], .generalDate, .empty⟩], 0⟩

def source : Text :=
  "* month_3(<d>), white_spaces(), rest_of_line(<name>);".toList

def rules : RuleSet :=
  ⟨[⟨[⟨.month3, [.operand (.column (.declared 1))]⟩, ⟨.whiteSpaces, []⟩,
    ⟨.restOfLine, [.operand (.column (.declared 0))]⟩]⟩], columns⟩

theorem compile_source : RuleSet.compile source columns = .ok rules := by rfl

def context : Context :=
  { today := ⟨2024, 2, 10, by decide⟩ }

def german : Text :=
  "Mai x
".toList

def english : Text :=
  "may y
".toList

def surroundings (t : Text) : Surroundings :=
  Reading.surroundings columns context t

def x : FileRecord :=
  { name := ['x'], isDir := false, isHidden := false, isLink := false, size := 0
    modified := none, extension := none, values := [.text ['x'], .empty] }

def last : Reading :=
  ⟨⟨german.reverse, []⟩, 2, [.german, .norwegian], true⟩

theorem nextMany_german_english :
    RuleSet.compile source columns = .ok rules ∧ rules.readsOnLine = true ∧
      Parted german english ∧
      Reading.nextMany (surroundings german) rules.rules 2 (Reading.start german context) =
        ([.record x, .done], last) ∧
      (Reading.nextMany (surroundings (german ++ english)) rules.rules 2
        (Reading.start (german ++ english) context)).1 = [.record x, .unread ⟨6, 2⟩] := by
  have hparted : Parted german english := by simp [Parted, german, Text.isLineEnd]
  have hfirst : Reading.nextMany (surroundings german) rules.rules 2
      (Reading.start german context) = ([.record x, .done], last) := by rfl
  have hboth := (Reading.nextMany_lineByLine rules rfl).2 german english context [x] last hparted
    hfirst 0
  exact ⟨compile_source, rfl, hparted, hfirst, congrArg Prod.fst hboth⟩

end Continued

end Listing

end ListingRules
