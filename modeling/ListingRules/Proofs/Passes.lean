import ListingRules.Proofs.Movement
import ListingRules.Proofs.WholeLines

namespace ListingRules.Listing

open Cursor (Walk Spans)

theorem walk_of_applyRule {e : Surroundings} {place stop : Cursor} {rule : Rule} {row : Row}
    {before after : Languages} (h : applyRule e place before rule = .matched stop row after) :
    ∃ c, Walk place c ∧ c.atLineEnd = true ∧ stop = c.skipLineEnd := by
  have hleads := leads_applyAll e rule.calls ⟨place, Row.empty e.columns, before⟩
  simp only [applyRule] at h
  split at h
  · rename_i a ha
    rw [ha] at hleads
    split at h
    · simp at h
    · rename_i hend
      simp only [Bool.or_eq_true, Bool.not_eq_true', not_or, Bool.not_eq_false] at hend
      injection h with hstop
      exact ⟨a.place, hleads.1, hend.2, hstop.symm⟩
  · split at h <;> simp at h
  · simp at h
  · simp at h

theorem incomplete_of_applyRule {e : Surroundings} {place : Cursor} {rule : Rule}
    {before after : Languages} (h : applyRule e place before rule = .skipsRest after) :
    e.incomplete = true := by
  have hleads := leads_applyAll e rule.calls ⟨place, Row.empty e.columns, before⟩
  simp only [applyRule] at h
  split at h
  · split at h <;> simp at h
  · rename_i a ha
    rw [ha] at hleads
    exact hleads.2.2
  · simp at h
  · simp at h

theorem applyRule_of_applyRules {e : Surroundings} {place : Cursor} {rules : List Rule}
    {before : Languages} {m : Match} (h : applyRules e place before rules = m)
    (hm : ∀ after, m ≠ .fails after) :
    ∃ rule ∈ rules, ∃ left, applyRule e place left rule = m := by
  induction rules generalizing before with
  | nil => exact absurd h.symm (hm before)
  | cons rule more ih =>
      simp only [applyRules] at h
      split at h
      · obtain ⟨r, hr, l, hl⟩ := ih h
        exact ⟨r, List.mem_cons_of_mem rule hr, l, hl⟩
      · exact ⟨rule, List.mem_cons_self, before, h⟩

theorem spans_of_applyRules {e : Surroundings} {place stop : Cursor} {rules : List Rule} {row : Row}
    {before after : Languages} (hline : place.StartsLine) (hne : place.ahead ≠ [])
    (h : applyRules e place before rules = .matched stop row after) :
    ∃ t, t ≠ [] ∧ Spans place stop t ∧ (stop.ahead = [] ∨ stop.PastLineEnd) := by
  obtain ⟨rule, -, left, hrule⟩ := applyRule_of_applyRules h (by simp)
  obtain ⟨c, hwalk, hend, rfl⟩ := walk_of_applyRule hrule
  obtain ⟨t, ht⟩ := Cursor.spans_walk hline (hwalk.trans (Cursor.walk_skipLineEnd c))
  by_cases hc : c.ahead = []
  · rw [Cursor.skipLineEnd_of_ahead_nil hc] at ht ⊢
    refine ⟨t, ?_, ht, .inl hc⟩
    rintro rfl
    exact hne (by simpa [hc] using ht.1)
  · refine ⟨t, ?_, ht, .inr (Cursor.pastLineEnd_skipLineEnd hend hc)⟩
    rintro rfl
    have hlt := Cursor.length_behind_skipLineEnd hend hc
    have hle := (Cursor.behind_walk hline hwalk).length_le
    simp only [ht.2, List.reverse_nil, List.nil_append] at hlt
    omega

theorem incomplete_of_applyRules {e : Surroundings} {place : Cursor} {rules : List Rule}
    {before after : Languages} (h : applyRules e place before rules = .skipsRest after) :
    e.incomplete = true := by
  obtain ⟨rule, -, left, hrule⟩ := applyRule_of_applyRules h (by simp)
  exact incomplete_of_applyRule hrule

def Result.record? : Result → Option FileRecord
  | .record f => some f
  | _ => none

def recordOf? (e : Surroundings) (row : Row) : Option FileRecord :=
  if (row.text? e.columns.nameIndex).isSome then some (row.toRecord e.columns e.today) else none

namespace Reading

def Ends (e : Surroundings) (r : Reading) (x : Result) (r' : Reading) : Prop :=
  x.record? = none ∧ r'.finished = true ∧
    (r'.place = r.place ∨ e.incomplete = true ∧ r'.place = r.place.toEnd)

def Matches (e : Surroundings) (rules : List Rule) (r : Reading) (x : Option FileRecord)
    (r' : Reading) : Prop :=
  r.place.ahead ≠ [] ∧ r'.finished = false ∧ ∃ row,
    applyRules e r.place r.languages rules = .matched r'.place row r'.languages ∧
      x = recordOf? e row

theorem step_cases (e : Surroundings) (rules : List Rule) (r : Reading) :
    (∃ x, (step e rules r).1 = some x ∧ Ends e r x (step e rules r).2) ∨
      ∃ x, (step e rules r).1 = x.map .record ∧ Matches e rules r x (step e rules r).2 := by
  simp only [step]
  split
  · exact .inl ⟨.done, rfl, rfl, rfl, .inl rfl⟩
  · rename_i hgo
    simp only [Bool.or_eq_true, List.isEmpty_iff, not_or, Bool.not_eq_true] at hgo
    split
    · rename_i h
      exact .inl ⟨.done, rfl, rfl, rfl, .inr ⟨incomplete_of_applyRules h, rfl⟩⟩
    · split
      · rename_i hi
        simp only [Bool.and_eq_true] at hi
        exact .inl ⟨.done, rfl, rfl, rfl, .inr ⟨hi.1, rfl⟩⟩
      · exact .inl ⟨_, rfl, rfl, rfl, .inl rfl⟩
    · rename_i stop row left h
      split
      · rename_i hn
        exact .inr ⟨some (row.toRecord e.columns e.today), rfl, hgo.2, rfl, row, h,
          by simp [recordOf?, hn]⟩
      · rename_i hn
        exact .inr ⟨none, rfl, hgo.2, rfl, row, h, by simp [recordOf?, hn]⟩

theorem step_of_matched {e : Surroundings} {rules : List Rule} {r : Reading} {stop : Cursor}
    {row : Row} {left : Languages} (hr : r.finished = false) (hne : r.place.ahead ≠ [])
    (h : applyRules e r.place r.languages rules = .matched stop row left) :
    ∃ line, step e rules r = ((recordOf? e row).map .record, ⟨stop, line, left, false⟩) := by
  have hgo : (r.finished || r.place.ahead.isEmpty) = false := by simp [hr, hne]
  refine ⟨r.line + countLineEnds (textUpTo r.place stop), ?_⟩
  simp only [step, hgo, h, recordOf?, Bool.false_eq_true, ↓reduceIte]
  split <;> rfl

theorem step_finished {e : Surroundings} {rules : List Rule} {r : Reading}
    (h : r.finished = true) : step e rules r = (some .done, r) := by
  simp [step, finish, h]
  rw [← h]

end Reading

structure Pass where
  start : Cursor
  stop : Cursor
  record : Option FileRecord

namespace Pass

def text (p : Pass) : Text :=
  Reading.textUpTo p.start p.stop

def IsMatch (e : Surroundings) (rules : List Rule) (p : Pass) : Prop :=
  ∃ before row after, applyRules e p.start before rules = .matched p.stop row after ∧
    p.record = recordOf? e row

def TakesLines (p : Pass) : Prop :=
  ∃ t, t ≠ [] ∧ Spans p.start p.stop t ∧ (p.stop.ahead = [] ∨ p.stop.PastLineEnd)

theorem TakesLines.spans {p : Pass} (h : p.TakesLines) : Spans p.start p.stop p.text := by
  obtain ⟨t, -, ht, -⟩ := h
  have htext : p.text = t := by
    simp [text, Reading.textUpTo, ht.1]
  rwa [htext]

theorem TakesLines.text_ne_nil {p : Pass} (h : p.TakesLines) : p.text ≠ [] := by
  obtain ⟨t, hne, ht, -⟩ := h
  have htext : p.text = t := by
    simp [text, Reading.textUpTo, ht.1]
  rwa [htext]

theorem TakesLines.parted {p : Pass} (h : p.TakesLines) (hne : p.stop.ahead ≠ []) :
    Parted p.text p.stop.ahead := by
  obtain ⟨y, b, hb, hy, hcr⟩ : p.stop.PastLineEnd := by
    obtain ⟨-, -, -, hstop⟩ := h
    exact hstop.resolve_left hne
  intro x hx
  obtain ⟨u, hu⟩ := List.getLast?_eq_some_iff.1 hx
  have hbehind := h.spans.2
  rw [hb, hu, List.reverse_append, List.append_assoc] at hbehind
  obtain ⟨rfl, -⟩ := List.cons.inj hbehind
  exact ⟨hy, hcr⟩

theorem TakesLines.lines_append {p : Pass} (h : p.TakesLines) :
    lines p.start.ahead = lines p.text ++ lines p.stop.ahead := by
  rw [h.spans.1]
  by_cases hne : p.stop.ahead = []
  · simp [hne, lines]
  · exact Listing.lines_append (h.parted hne)

theorem TakesLines.countLineEnds_text {p : Pass} (h : p.TakesLines) (hne : p.stop.ahead ≠ []) :
    countLineEnds p.text + (lines p.stop.ahead).length = (lines p.start.ahead).length := by
  rw [h.lines_append, List.length_append, countLineEnds_eq_length (h.parted hne)]

end Pass

def Linked : Cursor → List Pass → Cursor → Prop
  | c, [], d => c = d
  | c, p :: ps, d => p.start = c ∧ Linked p.stop ps d

theorem linked_append {c d f : Cursor} {ps qs : List Pass} (hp : Linked c ps d)
    (hq : Linked d qs f) : Linked c (ps ++ qs) f := by
  induction ps generalizing c with
  | nil => exact hp ▸ hq
  | cons p ps ih => exact ⟨hp.1, ih hp.2⟩

theorem spans_linked {c d : Cursor} {ps : List Pass} (h : Linked c ps d)
    (hp : ∀ p ∈ ps, p.TakesLines) : Spans c d (ps.flatMap Pass.text) := by
  induction ps generalizing c with
  | nil => exact h ▸ ⟨rfl, rfl⟩
  | cons p ps ih =>
      obtain ⟨rfl, hl⟩ := h
      have hfirst := (hp p List.mem_cons_self).spans
      have hrest := ih hl fun q hq => hp q (List.mem_cons_of_mem p hq)
      refine ⟨?_, ?_⟩
      · rw [hfirst.1, hrest.1, List.flatMap_cons, List.append_assoc]
      · rw [hrest.2, hfirst.2, List.flatMap_cons, List.reverse_append, List.append_assoc]

theorem Pass.TakesLines.ahead_ne_nil {p : Pass} (h : p.TakesLines) : p.start.ahead ≠ [] := by
  obtain ⟨t, ht, hspans, -⟩ := h
  intro hnil
  rw [hspans.1] at hnil
  exact ht (List.append_eq_nil_iff.1 hnil).1

theorem startsLine_linked {c d : Cursor} {ps : List Pass} (h : Linked c ps d)
    (hc : c.ahead = [] ∨ c.StartsLine) (hp : ∀ p ∈ ps, p.TakesLines) :
    ∀ p ∈ ps, p.start.StartsLine := by
  induction ps generalizing c with
  | nil => simp
  | cons p ps ih =>
      obtain ⟨rfl, hl⟩ := h
      have hlines := hp p List.mem_cons_self
      have hstop : p.stop.ahead = [] ∨ p.stop.StartsLine := by
        obtain ⟨-, -, -, hstop⟩ := hlines
        exact hstop.imp_right Cursor.PastLineEnd.startsLine
      intro q hq
      rcases List.mem_cons.1 hq with rfl | hq
      · exact hc.resolve_left hlines.ahead_ne_nil
      · exact ih hl hstop (fun q hq => hp q (List.mem_cons_of_mem p hq)) q hq

theorem text_linked {c d : Cursor} {ps : List Pass} (h : Linked c ps d)
    (hp : ∀ p ∈ ps, p.TakesLines) : ∀ p ∈ ps, p.stop.text = c.text := by
  induction ps generalizing c with
  | nil => simp
  | cons p ps ih =>
      obtain ⟨rfl, hl⟩ := h
      have hfirst := (hp p List.mem_cons_self).spans.text_eq
      intro q hq
      rcases List.mem_cons.1 hq with rfl | hq
      · exact hfirst
      · exact (ih hl (fun q hq => hp q (List.mem_cons_of_mem p hq)) q hq).trans hfirst

theorem lines_linked {c d : Cursor} {ps : List Pass} (h : Linked c ps d)
    (hp : ∀ p ∈ ps, p.TakesLines) :
    lines c.ahead = ps.flatMap (lines ·.text) ++ lines d.ahead := by
  induction ps generalizing c with
  | nil => exact h ▸ rfl
  | cons p ps ih =>
      obtain ⟨rfl, hl⟩ := h
      rw [(hp p List.mem_cons_self).lines_append,
        ih hl fun q hq => hp q (List.mem_cons_of_mem p hq), List.flatMap_cons, List.append_assoc]

namespace Reading

inductive Reads (e : Surroundings) (rules : List Rule) :
    Reading → List Pass → Result → Reading → Prop
  | ends {r r' : Reading} {x : Result} :
      step e rules r = (some x, r') → x.record? = none → Reads e rules r [] x r'
  | record {r r' : Reading} {f : FileRecord} :
      step e rules r = (some (.record f), r') →
      Reads e rules r [⟨r.place, r'.place, some f⟩] (.record f) r'
  | pass {r r' r'' : Reading} {ps : List Pass} {x : Result} :
      step e rules r = (none, r') → Reads e rules r' ps x r'' →
      Reads e rules r (⟨r.place, r'.place, none⟩ :: ps) x r''

inductive Runs (e : Surroundings) (rules : List Rule) :
    Reading → List Pass → List Result → Reading → Prop
  | nil (r : Reading) : Runs e rules r [] [] r
  | cons {r r' r'' : Reading} {ps qs : List Pass} {x : Result} {xs : List Result} :
      Reads e rules r ps x r' → Runs e rules r' qs xs r'' →
      Runs e rules r (ps ++ qs) (x :: xs) r''

def nextMany (e : Surroundings) (rules : List Rule) : Nat → Reading → List Result × Reading
  | 0, r => ([], r)
  | n + 1, r =>
      let first := next e rules r
      let rest := nextMany e rules n first.2
      (first.1 :: rest.1, rest.2)

def Stands (text : Text) (r : Reading) : Prop :=
  r.place.text = text ∧ (r.place.ahead = [] ∨ r.place.StartsLine)

theorem stands_start (text : Text) (context : Context) : Stands text (start text context) :=
  ⟨rfl, .inr fun x hx => by simp [start, Cursor.ofText] at hx⟩

variable {e : Surroundings} {rules : List Rule} {text : Text} {r r' : Reading}

theorem Matches.takesLines {x : Option FileRecord} (h : Matches e rules r x r')
    (hr : Stands text r) : Pass.TakesLines ⟨r.place, r'.place, x⟩ := by
  obtain ⟨hne, -, row, hm, -⟩ := h
  exact spans_of_applyRules (hr.2.resolve_left hne) hne hm

theorem Matches.isMatch {x : Option FileRecord} (h : Matches e rules r x r') :
    Pass.IsMatch e rules ⟨r.place, r'.place, x⟩ := by
  obtain ⟨-, -, row, hm, hx⟩ := h
  exact ⟨r.languages, row, r'.languages, hm, hx⟩

theorem Matches.stands {x : Option FileRecord} (h : Matches e rules r x r') (hr : Stands text r) :
    Stands text r' := by
  obtain ⟨t, -, hspans, hstop⟩ := h.takesLines hr
  exact ⟨hspans.text_eq.trans hr.1, hstop.imp_right Cursor.PastLineEnd.startsLine⟩

theorem Matches.length_lt {x : Option FileRecord} (h : Matches e rules r x r')
    (hr : Stands text r) : r'.place.ahead.length < r.place.ahead.length := by
  obtain ⟨t, ht, hspans, -⟩ := h.takesLines hr
  have hahead : r.place.ahead = t ++ r'.place.ahead := hspans.1
  have hpos := List.length_pos_iff.2 ht
  rw [hahead, List.length_append]
  omega

theorem reads_nextFrom {n : Nat} (hr : Stands text r) (hn : r.place.ahead.length < n) :
    ∃ ps, Reads e rules r ps (nextFrom e rules n r).1 (nextFrom e rules n r).2 := by
  induction n generalizing r with
  | zero => omega
  | succ n ih =>
      simp only [nextFrom]
      rcases hs : step e rules r with ⟨x, r'⟩
      have hcases := step_cases e rules r
      rw [hs] at hcases
      rcases hcases with ⟨x, rfl, hend⟩ | ⟨x, rfl, hmatch⟩
      · exact ⟨[], .ends hs hend.1⟩
      · cases x with
        | some f => exact ⟨_, .record hs⟩
        | none =>
            -- a match leaves less ahead, which bounds the number of steps
            have hlt := hmatch.length_lt hr
            obtain ⟨ps, hps⟩ := ih (hmatch.stands hr) (by omega)
            exact ⟨_, .pass hs hps⟩

theorem ends_of_step {x : Result} (hs : step e rules r = (some x, r')) (hx : x.record? = none) :
    Ends e r x r' := by
  have hcases := step_cases e rules r
  rw [hs] at hcases
  rcases hcases with ⟨y, hy, hend⟩ | ⟨y, hy, -⟩
  · obtain rfl := Option.some.inj hy
    exact hend
  · cases y with
    | none => simp at hy
    | some f =>
        obtain rfl := Option.some.inj hy
        simp [Result.record?] at hx

theorem matches_of_step_record {f : FileRecord} (hs : step e rules r = (some (.record f), r')) :
    Matches e rules r (some f) r' := by
  have hcases := step_cases e rules r
  rw [hs] at hcases
  rcases hcases with ⟨y, hy, hend⟩ | ⟨y, hy, hmatch⟩
  · obtain rfl := Option.some.inj hy
    simp [Ends, Result.record?] at hend
  · cases y with
    | none => simp at hy
    | some g =>
        obtain rfl : f = g := by simpa using hy
        exact hmatch

theorem matches_of_step_none (hs : step e rules r = (none, r')) : Matches e rules r none r' := by
  have hcases := step_cases e rules r
  rw [hs] at hcases
  rcases hcases with ⟨y, hy, -⟩ | ⟨y, hy, hmatch⟩
  · simp at hy
  · cases y with
    | none => exact hmatch
    | some g => simp at hy

theorem Ends.stands {x : Result} (h : Ends e r x r') (hr : Stands text r) : Stands text r' := by
  obtain ⟨-, -, hplace | ⟨-, hplace⟩⟩ := h
  · rwa [Stands, hplace]
  · rw [Stands, hplace, Cursor.text_toEnd]
    exact ⟨hr.1, .inl rfl⟩

def Chain (e : Surroundings) (rules : List Rule) (c : Cursor) (ps : List Pass) (d : Cursor) :
    Prop :=
  Linked c ps d ∧ ∀ p ∈ ps, p.IsMatch e rules ∧ p.TakesLines

theorem Chain.append {c d f : Cursor} {ps qs : List Pass} (hp : Chain e rules c ps d)
    (hq : Chain e rules d qs f) : Chain e rules c (ps ++ qs) f := by
  refine ⟨linked_append hp.1 hq.1, fun p h => ?_⟩
  rcases List.mem_append.1 h with h | h
  · exact hp.2 p h
  · exact hq.2 p h

theorem Matches.chain {x : Option FileRecord} (h : Matches e rules r x r') (hr : Stands text r) :
    Chain e rules r.place [⟨r.place, r'.place, x⟩] r'.place := by
  refine ⟨⟨rfl, rfl⟩, fun p hp => ?_⟩
  obtain rfl := List.mem_singleton.1 hp
  exact ⟨h.isMatch, h.takesLines hr⟩

def Arrives (e : Surroundings) (last : Cursor) (r : Reading) : Prop :=
  r.place = last ∨ e.incomplete = true ∧ r.finished = true ∧ r.place = last.toEnd

theorem chain_of_reads {ps : List Pass} {x : Result} (h : Reads e rules r ps x r')
    (hr : Stands text r) :
    Stands text r' ∧ ps.filterMap Pass.record = x.record?.toList ∧
      ∃ last, Chain e rules r.place ps last ∧ Arrives e last r' := by
  induction h with
  | @ends r r' x hs hx =>
      have hend := ends_of_step hs hx
      refine ⟨hend.stands hr, by simp [hx], r.place, ⟨rfl, by simp⟩, ?_⟩
      obtain ⟨-, hf, hplace | ⟨hi, hplace⟩⟩ := hend
      · exact .inl hplace
      · exact .inr ⟨hi, hf, hplace⟩
  | @record r r' f hs =>
      have hmatch := matches_of_step_record hs
      exact ⟨hmatch.stands hr, rfl, r'.place, hmatch.chain hr, .inl rfl⟩
  | pass hs _ ih =>
      have hmatch := matches_of_step_none hs
      obtain ⟨hr', hrecords, last, hchain, harrives⟩ := ih (hmatch.stands hr)
      exact ⟨hr', by simpa using hrecords, last, (hmatch.chain hr).append hchain, harrives⟩

theorem finished_of_reads {ps : List Pass} {x : Result} (h : Reads e rules r ps x r')
    (hx : x.record? = none) : r'.finished = true := by
  induction h with
  | ends hs hx => exact (ends_of_step hs hx).2.1
  | record hs => simp [Result.record?] at hx
  | pass _ _ ih => exact ih hx

theorem reads_of_finished {ps : List Pass} {x : Result} (h : Reads e rules r ps x r')
    (hr : r.finished = true) : ps = [] ∧ x = .done ∧ r' = r := by
  cases h with
  | ends hs _ =>
      obtain ⟨hx, rfl⟩ := Prod.mk.inj ((step_finished hr).symm.trans hs)
      exact ⟨rfl, (Option.some.inj hx).symm, rfl⟩
  | record hs => simp [step_finished hr] at hs
  | pass hs _ => simp [step_finished hr] at hs

theorem runs_of_finished {ps : List Pass} {xs : List Result} (h : Runs e rules r ps xs r')
    (hr : r.finished = true) : ps = [] ∧ xs.filterMap Result.record? = [] ∧ r' = r := by
  induction h with
  | nil r => exact ⟨rfl, rfl, rfl⟩
  | cons hreads _ ih =>
      obtain ⟨rfl, rfl, rfl⟩ := reads_of_finished hreads hr
      exact ih hr

theorem chain_of_runs {ps : List Pass} {xs : List Result} (h : Runs e rules r ps xs r')
    (hr : Stands text r) :
    Stands text r' ∧ ps.filterMap Pass.record = xs.filterMap Result.record? ∧
      ∃ last, Chain e rules r.place ps last ∧ Arrives e last r' := by
  induction h with
  | nil r => exact ⟨hr, rfl, r.place, ⟨rfl, by simp⟩, .inl rfl⟩
  | @cons r r₁ r' ps qs x xs hreads hruns ih =>
      obtain ⟨hr₁, hfirst, last, hchain, harrives⟩ := chain_of_reads hreads hr
      obtain ⟨hr', hrest, last', hchain', harrives'⟩ := ih hr₁
      have hrecords : (ps ++ qs).filterMap Pass.record = (x :: xs).filterMap Result.record? := by
        rw [List.filterMap_append, hfirst, hrest, List.filterMap_cons]
        cases x.record? <;> rfl
      refine ⟨hr', hrecords, ?_⟩
      rcases harrives with rfl | hdropped
      · exact ⟨last', hchain.append hchain', harrives'⟩
      · obtain ⟨rfl, -, rfl⟩ := runs_of_finished hruns hdropped.2.1
        exact ⟨last, by simpa using hchain, .inr hdropped⟩

theorem reads_next (hr : Stands text r) :
    ∃ ps, Reads e rules r ps (next e rules r).1 (next e rules r).2 :=
  reads_nextFrom hr (Nat.lt_succ_self _)

theorem runs_nextMany (n : Nat) (hr : Stands text r) :
    ∃ ps, Runs e rules r ps (nextMany e rules n r).1 (nextMany e rules n r).2 := by
  induction n generalizing r with
  | zero => exact ⟨[], .nil r⟩
  | succ n ih =>
      obtain ⟨ps, hps⟩ := reads_next (e := e) hr
      obtain ⟨qs, hqs⟩ := ih (chain_of_reads hps hr).1
      exact ⟨ps ++ qs, .cons hps hqs⟩

theorem match_of_record {context : Context} {n : Nat} {f : FileRecord}
    (h : .record f ∈ (nextMany e rules n (start text context)).1) :
    ∃ rule ∈ rules, ∃ place stop row before after,
      applyRule e place before rule = .matched stop row after ∧
        (row.text? e.columns.nameIndex).isSome = true ∧ f = row.toRecord e.columns e.today := by
  have hstands := stands_start text context
  obtain ⟨passes, hruns⟩ : ∃ passes, Runs e rules (start text context) passes _ _ :=
    runs_nextMany n hstands
  obtain ⟨-, hrecords, -, ⟨-, hpasses⟩, -⟩ := chain_of_runs hruns hstands
  have hf : f ∈ passes.filterMap Pass.record := by
    rw [hrecords]
    exact List.mem_filterMap.2 ⟨_, h, rfl⟩
  obtain ⟨p, hp, hrecord⟩ := List.mem_filterMap.1 hf
  obtain ⟨left, row, after, hrules, hshown⟩ := (hpasses p hp).1
  obtain ⟨rule, hrule, before, hmatch⟩ := applyRule_of_applyRules hrules (by simp)
  rw [hshown, recordOf?, Option.ite_none_right_eq_some] at hrecord
  exact ⟨rule, hrule, p.start, p.stop, row, before, after, hmatch, hrecord.1,
    (Option.some.inj hrecord.2).symm⟩

theorem nextFrom_congr {n m : Nat} (hr : Stands text r) (hn : r.place.ahead.length < n)
    (hm : r.place.ahead.length < m) : nextFrom e rules n r = nextFrom e rules m r := by
  induction n generalizing m r with
  | zero => omega
  | succ n ih =>
      obtain _ | m := m
      · omega
      · simp only [nextFrom]
        rcases hs : step e rules r with ⟨x, r'⟩
        cases x with
        | some x => rfl
        | none =>
            have hmatch := matches_of_step_none hs
            have hlt := hmatch.length_lt hr
            exact ih (hmatch.stands hr) (by omega) (by omega)

theorem next_of_step_some {x : Result} (hs : step e rules r = (some x, r')) :
    next e rules r = (x, r') := by
  simp only [next, nextFrom, hs]

theorem next_of_step_none (hr : Stands text r) (hs : step e rules r = (none, r')) :
    next e rules r = next e rules r' := by
  have hmatch := matches_of_step_none hs
  have hlt := hmatch.length_lt hr
  simp only [next, nextFrom, hs]
  exact nextFrom_congr (hmatch.stands hr) hlt (Nat.lt_succ_self _)

theorem stands_next (hr : Stands text r) : Stands text (next e rules r).2 := by
  obtain ⟨ps, hreads⟩ : ∃ ps, Reads e rules r ps _ _ := reads_next hr
  exact (chain_of_reads hreads hr).1

theorem length_lt_of_reads {ps : List Pass} {x : Result} (h : Reads e rules r ps x r')
    (hr : Stands text r) (hx : x.record? ≠ none) :
    r'.place.ahead.length < r.place.ahead.length := by
  induction h with
  | ends _ hnone => exact absurd hnone hx
  | record hs => exact (matches_of_step_record hs).length_lt hr
  | pass hs _ ih =>
      have hmatch := matches_of_step_none hs
      exact Nat.lt_trans (ih (hmatch.stands hr) hx) (hmatch.length_lt hr)

theorem recordsFrom_congr {n m : Nat} (hr : Stands text r) (hn : r.place.ahead.length < n)
    (hm : r.place.ahead.length < m) : recordsFrom e rules n r = recordsFrom e rules m r := by
  induction n generalizing m r with
  | zero => omega
  | succ n ih =>
      obtain _ | m := m
      · omega
      · obtain ⟨ps, hreads⟩ : ∃ ps, Reads e rules r ps (next e rules r).1 (next e rules r).2 :=
          reads_next hr
        have hr' : Stands text (next e rules r).2 := stands_next hr
        simp only [recordsFrom]
        rcases hnext : next e rules r with ⟨x, r'⟩
        rw [hnext] at hreads hr'
        cases x with
        | done => rfl
        | unread u => rfl
        | record f =>
            have hlt := length_lt_of_reads hreads hr (by simp [Result.record?])
            have hrest := ih (m := m) hr' (by omega) (by omega)
            simp only [hrest]

theorem nextMany_finished (n : Nat) (hr : r.finished = true) :
    nextMany e rules n r = (List.replicate n .done, r) := by
  have hnext : next e rules r = (.done, r) := by
    simp only [next, nextFrom, step_finished hr]
  induction n with
  | zero => rfl
  | succ n ih => simp only [nextMany, hnext, ih, List.replicate_succ]

theorem nextMany_add (m n : Nat) (r : Reading) :
    nextMany e rules (m + n) r =
      ((nextMany e rules m r).1 ++ (nextMany e rules n (nextMany e rules m r).2).1,
        (nextMany e rules n (nextMany e rules m r).2).2) := by
  induction m generalizing r with
  | zero => simp [nextMany]
  | succ m ih => simp [Nat.succ_add, nextMany, ih]

@[simp] theorem length_nextMany (n : Nat) (r : Reading) :
    (nextMany e rules n r).1.length = n := by
  induction n generalizing r with
  | zero => rfl
  | succ n ih => simp [nextMany, ih]

theorem take_nextMany {m n : Nat} (h : m ≤ n) (r : Reading) :
    (nextMany e rules n r).1.take m = (nextMany e rules m r).1 := by
  obtain ⟨k, rfl⟩ := Nat.exists_eq_add_of_le h
  rw [nextMany_add]
  simp

theorem stands_nextMany (n : Nat) (hr : Stands text r) :
    Stands text (nextMany e rules n r).2 := by
  obtain ⟨ps, hruns⟩ : ∃ ps, Runs e rules r ps _ _ := runs_nextMany n hr
  exact (chain_of_runs hruns hr).1

theorem finished_next (hr : Stands text r) (h : (next e rules r).1.record? = none) :
    (next e rules r).2.finished = true := by
  obtain ⟨ps, hreads⟩ : ∃ ps, Reads e rules r ps _ _ := reads_next hr
  exact finished_of_reads hreads h

theorem unread_unique {n k : Nat} {u v : Unread} (hr : Stands text r)
    (hu : .unread u ∈ (nextMany e rules n r).1) (hv : .unread v ∈ (nextMany e rules k r).1) :
    u = v := by
  induction n generalizing r k with
  | zero => simp [nextMany] at hu
  | succ n ih =>
      obtain _ | k := k
      · simp [nextMany] at hv
      · simp only [nextMany, List.mem_cons] at hu hv
        cases hx : (next e rules r).1 with
        | record f =>
            simp only [hx, reduceCtorEq, false_or] at hu hv
            exact ih (stands_next hr) hu hv
        | done =>
            rw [nextMany_finished n (finished_next hr (by rw [hx]; rfl))] at hu
            simp [hx] at hu
        | unread w =>
            have hfinished := finished_next hr (by rw [hx]; rfl)
            rw [nextMany_finished n hfinished] at hu
            rw [nextMany_finished k hfinished] at hv
            simp [hx] at hu hv
            rw [hu, hv]

structure Account (e : Surroundings) (rules : List Rule) (text : Text) (passes : List Pass)
    (last : Cursor) (results : List Result) (r : Reading) : Prop where
  linked : Linked (Cursor.ofText text) passes last
  isMatch : ∀ p ∈ passes, p.IsMatch e rules
  inText : ∀ p ∈ passes, p.stop.text = text
  forward : ∀ p ∈ passes, p.start.offset < p.stop.offset ∧ p.stop.offset ≤ Text.byteCount text
  border : ∀ p ∈ passes, p.stop.ahead = [] ∨ p.stop.PastLineEnd
  covered : passes.flatMap Pass.text ++ last.ahead = text
  offset : Text.byteCount (passes.flatMap Pass.text) = last.offset
  arrived : Arrives e last r
  records : results.filterMap Result.record? = passes.filterMap Pass.record
  wholeLines : ∀ p ∈ passes, lines p.text ≠ []
  lines_eq : lines text = passes.flatMap (lines ·.text) ++ lines last.ahead
  recordCount : (results.filterMap Result.record?).length ≤ (lines text).length

theorem length_le_lines {ps : List Pass} (h : ∀ p ∈ ps, lines p.text ≠ []) :
    ps.length ≤ (ps.flatMap (lines ·.text)).length := by
  induction ps with
  | nil => exact Nat.zero_le _
  | cons p ps ih =>
      have hfirst := List.length_pos_iff.2 (h p List.mem_cons_self)
      have hrest := ih fun q hq => h q (List.mem_cons_of_mem p hq)
      rw [List.flatMap_cons, List.length_append, List.length_cons]
      omega

theorem account_of_runs {passes : List Pass} {results : List Result} {context : Context}
    (h : Runs e rules (start text context) passes results r) :
    ∃ last, Account e rules text passes last results r := by
  obtain ⟨-, hrecords, last, ⟨hlinked, hpasses⟩, harrives⟩ :=
    chain_of_runs h (stands_start text context)
  have hlines : ∀ p ∈ passes, p.TakesLines := fun p hp => (hpasses p hp).2
  have hspans := spans_linked hlinked hlines
  have htext := text_linked hlinked hlines
  have hwhole : ∀ p ∈ passes, lines p.text ≠ [] :=
    fun p hp => lines_ne_nil (hlines p hp).text_ne_nil
  have hcover : lines text = passes.flatMap (lines ·.text) ++ lines last.ahead :=
    lines_linked hlinked hlines
  refine ⟨last, ?_⟩
  constructor
  · exact hlinked
  · exact fun p hp => (hpasses p hp).1
  · exact htext
  · intro p hp
    have hlt := (hlines p hp).spans.offset_lt (hlines p hp).text_ne_nil
    have hle := p.stop.offset_le
    rw [htext p hp] at hle
    exact ⟨hlt, hle⟩
  · intro p hp
    obtain ⟨-, -, -, hstop⟩ := hlines p hp
    exact hstop
  · exact hspans.1.symm
  · rw [Cursor.offset, hspans.2]
    simp [start, Cursor.ofText]
  · exact harrives
  · exact hrecords.symm
  · exact hwhole
  · exact hcover
  · have hpasses := List.length_filterMap_le Pass.record passes
    have hcount := length_le_lines hwhole
    rw [← hrecords, hcover, List.length_append]
    omega

/-- However often a listing is read on, its results come from matches that take whole lines one
after the other, at most one record from each. Behind the end nothing moves any more. -/
theorem nextMany_account (rules : RuleSet) (text : Text) (context : Context) (n : Nat) :
    let e := surroundings rules.columns context text
    let run := nextMany e rules.rules n (start text context)
    (∃ passes last, Runs e rules.rules (start text context) passes run.1 run.2 ∧
      Account e rules.rules text passes last run.1 run.2) ∧
    ((next e rules.rules run.2).1.record? = none → ∀ m,
      nextMany e rules.rules m (next e rules.rules run.2).2 =
        (List.replicate m .done, (next e rules.rules run.2).2)) := by
  intro e run
  obtain ⟨passes, hruns⟩ : ∃ passes, Runs e rules.rules (start text context) passes run.1 run.2 :=
    runs_nextMany n (stands_start text context)
  obtain ⟨last, haccount⟩ := account_of_runs hruns
  refine ⟨⟨passes, last, hruns, haccount⟩, fun hnone m => ?_⟩
  have hstands : Stands text run.2 := (chain_of_runs hruns (stands_start text context)).1
  obtain ⟨_, hreads⟩ := reads_next (e := e) hstands
  exact nextMany_finished m (finished_of_reads hreads hnone)

end Reading

end ListingRules.Listing
