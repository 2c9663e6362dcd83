import ListingRules.Proofs.Passes
import ListingRules.Rule.Compile

namespace ListingRules.Listing

theorem Cursor.parted_iff {c : Cursor} (hne : c.behind ≠ []) :
    Parted c.behind.reverse c.ahead ↔ c.PastLineEnd := by
  obtain ⟨x, b, hb⟩ := List.exists_cons_of_ne_nil hne
  simp [Parted, Cursor.PastLineEnd, hb]

namespace Reading

variable {e : Surroundings} {rules : List Rule} {text : Text} {r r' : Reading}

structure Numbered (r : Reading) : Prop where
  parted : r.place.ahead ≠ [] → Parted r.place.behind.reverse r.place.ahead
  line : r.line = countLineEnds r.place.behind.reverse + 1

theorem numbered_start (text : Text) (context : Context) : (start text context).Numbered :=
  ⟨fun _ => by simp [start, Cursor.ofText, Parted], rfl⟩

theorem line_of_step (e : Surroundings) (rules : List Rule) (r : Reading) :
    (step e rules r).2.finished = true ∧ (step e rules r).2.line = r.line ∨
      (step e rules r).2.line =
        r.line + countLineEnds (textUpTo r.place (step e rules r).2.place) := by
  simp only [step]
  split
  · exact .inl ⟨rfl, rfl⟩
  · split
    · exact .inl ⟨rfl, rfl⟩
    · split
      · exact .inl ⟨rfl, rfl⟩
      · exact .inl ⟨rfl, rfl⟩
    · split
      · exact .inr rfl
      · exact .inr rfl

theorem numbered_of_matches {x : Option FileRecord} (hn : r.Numbered) (hr : Stands text r)
    (hm : Matches e rules r x r')
    (hline : r'.line = r.line + countLineEnds (textUpTo r.place r'.place)) : r'.Numbered := by
  have hlines := hm.takesLines hr
  have hspans : Cursor.Spans r.place r'.place (textUpTo r.place r'.place) := hlines.spans
  have hbefore : Parted r.place.behind.reverse (textUpTo r.place r'.place) :=
    Parted.of_append_right (hspans.1 ▸ hn.parted hm.1) hlines.text_ne_nil
  have hbehind : r'.place.behind.reverse =
      r.place.behind.reverse ++ textUpTo r.place r'.place := by
    rw [hspans.2]
    simp
  constructor
  · intro hne
    rw [hbehind]
    exact (hlines.parted hne).append hlines.text_ne_nil
  · rw [hline, hn.line, hbehind, countLineEnds_append hbefore]
    omega

def At (r : Reading) (u : Unread) : Prop :=
  u = ⟨r.place.offset, r.line⟩ ∧ r.place.ahead ≠ []

theorem at_of_step {u : Unread} (hs : step e rules r = (some (.unread u), r')) :
    r'.At u ∧ r'.place = r.place ∧ r'.line = r.line := by
  simp only [step] at hs
  split at hs
  · simp at hs
  · rename_i hgo
    simp only [Bool.or_eq_true, List.isEmpty_iff, not_or] at hgo
    split at hs
    · simp at hs
    · split at hs
      · simp at hs
      · simp only [Prod.mk.injEq, Option.some.injEq, Result.unread.injEq] at hs
        obtain ⟨rfl, rfl⟩ := hs
        exact ⟨⟨rfl, hgo.2⟩, rfl, rfl⟩
    · split at hs <;> simp at hs

theorem numbered_of_reads {ps : List Pass} {x : Result} (h : Reads e rules r ps x r')
    (hn : r.Numbered) (hr : Stands text r) (hx : x ≠ .done) :
    r'.Numbered ∧ ∀ u, x = .unread u → r'.At u := by
  induction h with
  | @ends r r' x hs hnone =>
      cases x with
      | record f => simp [Result.record?] at hnone
      | done => exact absurd rfl hx
      | unread u =>
          obtain ⟨hat, hplace, hline⟩ := at_of_step hs
          refine ⟨⟨hplace ▸ hn.parted, hplace ▸ hline ▸ hn.line⟩, fun v hv => ?_⟩
          obtain rfl := Result.unread.inj hv
          exact hat
  | @record r r' f hs =>
      have hm := matches_of_step_record hs
      have hline := line_of_step e rules r
      rw [hs] at hline
      exact ⟨numbered_of_matches hn hr hm (hline.resolve_left fun hf => by simp [hm.2.1] at hf),
        by simp⟩
  | @pass r r' r'' ps x hs _ ih =>
      have hm := matches_of_step_none hs
      have hline := line_of_step e rules r
      rw [hs] at hline
      have hn' := numbered_of_matches hn hr hm
        (hline.resolve_left fun hf => by simp [hm.2.1] at hf)
      exact ih hn' (hm.stands hr) hx

theorem numbered_nextMany {n : Nat} {u : Unread} (hn : r.Numbered) (hr : Stands text r)
    (hu : .unread u ∈ (nextMany e rules n r).1) :
    (nextMany e rules n r).2.Numbered ∧ (nextMany e rules n r).2.At u := by
  induction n generalizing r with
  | zero => simp [nextMany] at hu
  | succ n ih =>
      obtain ⟨ps, hreads⟩ : ∃ ps, Reads e rules r ps (next e rules r).1 (next e rules r).2 :=
        reads_next hr
      have hr' : Stands text (next e rules r).2 := stands_next hr
      simp only [nextMany, List.mem_cons] at hu ⊢
      cases hx : (next e rules r).1 with
      | record f =>
          have hn' := (numbered_of_reads hreads hn hr (by simp [hx])).1
          exact ih hn' hr' (hu.resolve_left (by simp [hx]))
      | done =>
          rw [nextMany_finished n (finished_of_reads hreads (by rw [hx]; rfl))] at hu
          simp [hx] at hu
      | unread v =>
          obtain ⟨hn', hat⟩ := numbered_of_reads hreads hn hr (by simp [hx])
          rw [nextMany_finished n (finished_of_reads hreads (by rw [hx]; rfl))] at hu ⊢
          obtain rfl : u = v := by simpa [hx] using hu
          exact ⟨hn', hat u hx⟩

/-- A line that no rule reads is reported with the offset at which the reading stands from then
on. It is the start of the text, or stands just behind a line end, never inside one. The number
of the line is one more than the line ends before it. -/
theorem unread_position (rules : RuleSet) (text : Text) (context : Context) {n : Nat}
    {u : Unread}
    (h : .unread u ∈ (nextMany (surroundings rules.columns context text) rules.rules n
      (start text context)).1) :
    ∃ before after, text = before ++ after ∧ after ≠ [] ∧
      (nextMany (surroundings rules.columns context text) rules.rules n
        (start text context)).2.place = ⟨before.reverse, after⟩ ∧
      u.offset = Text.byteCount before ∧
      (before = [] ∨ Cursor.PastLineEnd ⟨before.reverse, after⟩) ∧
      u.line = countLineEnds before + 1 := by
  have hr := stands_start text context
  have hstands : Stands text (nextMany (surroundings rules.columns context text) rules.rules n
    (start text context)).2 := stands_nextMany n hr
  obtain ⟨hn, hat, hne⟩ := numbered_nextMany (numbered_start text context) hr h
  generalize (nextMany (surroundings rules.columns context text) rules.rules n
    (start text context)).2 = last at hstands hn hat hne ⊢
  obtain ⟨⟨behind, after⟩, line, languages, finished⟩ := last
  refine ⟨behind.reverse, after, hstands.1.symm, hne, by simp, by simp [hat, Cursor.offset], ?_,
    by rw [hat]; exact hn.line⟩
  by_cases hbehind : behind = []
  · exact .inl (by simp [hbehind])
  · have hpast := (Cursor.parted_iff hbehind).1 (hn.parted hne)
    exact .inr (by simpa using hpast)

end Reading

namespace Spanning

def columns : ColumnSet :=
  ⟨[⟨['n', 'a', 'm', 'e'], .name, .empty⟩, ⟨['s', 'i', 'z', 'e'], .size, .number 0⟩], 0⟩

def source : Text :=
  "* word(<name>), white_spaces_and_line_ends(), positive_number(<size>);\n".toList ++
    "* if(next_char == \"#\"), rest_of_line();".toList

def rules : RuleSet :=
  ⟨[⟨[⟨.word, [.operand (.column (.declared 0))]⟩, ⟨.whiteSpacesAndLineEnds, []⟩,
      ⟨.positiveNumber, [.operand (.column (.declared 1))]⟩]⟩,
    ⟨[⟨.require, [.comparison (.state .nextChar) .equal (.text ['#'])]⟩, ⟨.restOfLine, []⟩]⟩],
    columns⟩

def context : Context :=
  { today := ⟨2024, 1, 1, by decide⟩ }

def listing : Text :=
  "# ü\r\na\r\n\r 1\nbad line\n".toList

theorem unread_position_listing :
    let run := Reading.nextMany (Reading.surroundings rules.columns context listing) rules.rules 3
      (Reading.start listing context)
    RuleSet.compile source columns = .ok rules ∧
      run.1[1]? = some (.unread ⟨13, 5⟩) ∧ run.1[2]? = some .done ∧
      ∃ before after, listing = before ++ after ∧ after ≠ [] ∧
        run.2.place = ⟨before.reverse, after⟩ ∧ 13 = Text.byteCount before ∧
        (before = [] ∨ Cursor.PastLineEnd ⟨before.reverse, after⟩) ∧
        5 = countLineEnds before + 1 := by
  intro run
  have hunread : run.1[1]? = some (.unread ⟨13, 5⟩) := by rfl
  exact ⟨by rfl, hunread, by rfl,
    Reading.unread_position rules listing context (List.mem_of_getElem? hunread)⟩

end Spanning

end ListingRules.Listing
