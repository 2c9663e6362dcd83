import ListingRules.Proofs.Passes
import ListingRules.Rule.Compile

namespace ListingRules.Listing

theorem applyRules_append_of_ne_fails {e : Surroundings} {place : Cursor} {rules : List Rule}
    {languages : Languages} {m : Match} (h : applyRules e place languages rules = m)
    (hm : ∀ left, m ≠ .fails left) (more : List Rule) :
    applyRules e place languages (rules ++ more) = m := by
  induction rules generalizing languages with
  | nil => exact absurd h.symm (hm languages)
  | cons rule rules ih =>
      simp only [List.cons_append, applyRules] at h ⊢
      cases hrule : applyRule e place languages rule with
      | fails left =>
          rw [hrule] at h
          exact ih h
      | matched stop row left =>
          rw [hrule] at h
          exact h
      | skipsRest left =>
          rw [hrule] at h
          exact h

namespace Reading

variable {e : Surroundings} {rules : List Rule} {text : Text} {r : Reading}

theorem step_addedRules (he : e.incomplete = false)
    (hread : ∀ u, (step e rules r).1 ≠ some (.unread u)) (more : List Rule) :
    step e (rules ++ more) r = step e rules r := by
  simp only [step] at hread ⊢
  split
  · rfl
  · rename_i hgo
    rw [if_neg hgo] at hread
    cases hrules : applyRules e r.place r.languages rules with
    | skipsRest left => rw [applyRules_append_of_ne_fails hrules (by simp) more]
    | matched stop row left => rw [applyRules_append_of_ne_fails hrules (by simp) more]
    | fails left => simp [hrules, he] at hread

theorem nextFrom_addedRules (he : e.incomplete = false) {n : Nat}
    (hread : ∀ u, (nextFrom e rules n r).1 ≠ .unread u) (more : List Rule) :
    nextFrom e (rules ++ more) n r = nextFrom e rules n r := by
  induction n generalizing r with
  | zero => rfl
  | succ n ih =>
      simp only [nextFrom] at hread ⊢
      cases hs : step e rules r with
      | mk x r' =>
          rw [hs] at hread
          have hstep : step e (rules ++ more) r = (x, r') := by
            rw [← hs]
            refine step_addedRules he (fun u hu => ?_) more
            rw [hs] at hu
            obtain rfl : x = some (.unread u) := hu
            exact hread u rfl
          rw [hstep]
          cases x with
          | some x => rfl
          | none => exact ih hread

theorem next_addedRules (he : e.incomplete = false)
    (hread : ∀ u, (next e rules r).1 ≠ .unread u) (more : List Rule) :
    next e (rules ++ more) r = next e rules r :=
  nextFrom_addedRules he hread more

theorem nextMany_append_of_read (he : e.incomplete = false) {n : Nat}
    (hread : ∀ u, .unread u ∉ (nextMany e rules n r).1) (more : List Rule) :
    nextMany e (rules ++ more) n r = nextMany e rules n r := by
  induction n generalizing r with
  | zero => rfl
  | succ n ih =>
      simp only [nextMany, List.mem_cons, not_or] at hread ⊢
      have hfirst : next e (rules ++ more) r = next e rules r :=
        next_addedRules he (fun u hu => (hread u).1 hu.symm) more
      rw [hfirst, ih fun u => (hread u).2]

theorem records_append (he : e.incomplete = false) (hr : Stands text r) (n : Nat)
    (more : List Rule) :
    (nextMany e rules n r).1.filterMap Result.record? <+:
      (nextMany e (rules ++ more) n r).1.filterMap Result.record? := by
  induction n generalizing r with
  | zero => exact List.prefix_rfl
  | succ n ih =>
      by_cases hread : ∃ u, (next e rules r).1 = .unread u
      · obtain ⟨u, hu⟩ := hread
        -- behind a line that is not read no record comes any more
        have hnone : (next e rules r).1.record? = none := by rw [hu]; rfl
        have hfinished : (next e rules r).2.finished = true := finished_next hr hnone
        have hrest : (nextMany e rules n (next e rules r).2).1 = List.replicate n .done := by
          rw [nextMany_finished n hfinished]
        have hempty : (nextMany e rules (n + 1) r).1.filterMap Result.record? = [] := by
          have hdone : Result.done.record? = none := rfl
          simp [nextMany, hrest, hnone, hdone]
        exact hempty ▸ List.nil_prefix
      · have hfirst : next e (rules ++ more) r = next e rules r :=
          next_addedRules he (not_exists.1 hread) more
        have hstands : Stands text (next e rules r).2 := stands_next hr
        have hrest := ih hstands
        simp only [nextMany, hfirst, List.filterMap_cons]
        cases (next e rules r).1.record? with
        | none => exact hrest
        | some f => exact List.cons_prefix_cons.2 ⟨rfl, hrest⟩

theorem recordsFrom_append (he : e.incomplete = false) {n : Nat} {records : List FileRecord}
    (h : recordsFrom e rules n r = .ok records) (more : List Rule) :
    recordsFrom e (rules ++ more) n r = .ok records := by
  induction n generalizing r records with
  | zero => exact h
  | succ n ih =>
      simp only [recordsFrom] at h ⊢
      cases hnext : next e rules r with
      | mk x r' =>
          rw [hnext] at h
          have hfirst : next e (rules ++ more) r = (x, r') := by
            rw [← hnext]
            refine next_addedRules he (fun u hu => ?_) more
            rw [hnext] at hu
            obtain rfl : x = .unread u := hu
            simp at h
          rw [hfirst]
          cases x with
          | done => exact h
          | unread u => simp at h
          | record f =>
              cases hrest : recordsFrom e rules n r' with
              | error u => simp [hrest, bind, Except.bind] at h
              | ok rest =>
                  simp only [hrest] at h
                  simp only [ih hrest]
                  exact h

theorem read_of_recordsFrom {k : Nat} {records : List FileRecord} (hr : Stands text r)
    (hk : r.place.ahead.length < k) (h : recordsFrom e rules k r = .ok records) (n : Nat)
    (u : Unread) : .unread u ∉ (nextMany e rules n r).1 := by
  induction k generalizing r records n with
  | zero => omega
  | succ k ih =>
      obtain _ | n := n
      · simp [nextMany]
      · obtain ⟨ps, hreads⟩ : ∃ ps, Reads e rules r ps (next e rules r).1 (next e rules r).2 :=
          reads_next hr
        have hr' : Stands text (next e rules r).2 := stands_next hr
        simp only [recordsFrom, nextMany] at h ⊢
        cases hnext : next e rules r with
        | mk x r' =>
            rw [hnext] at h hreads hr'
            cases x with
            | done =>
                have hfinished := finished_of_reads hreads rfl
                simp [nextMany_finished n hfinished]
            | unread v => simp at h
            | record f =>
                have hlt := length_lt_of_reads hreads hr (by simp [Result.record?])
                cases hrest : recordsFrom e rules k r' with
                | error v => simp [hrest, bind, Except.bind] at h
                | ok rest => simpa using ih hr' (by omega) hrest n

/-- Where the rules of a rule set read a listing that was not cut short, more rules behind them
change no record, nor how far the listing is read and in which languages; where they come to a
line that none of them reads, the records before it stay the first ones. -/
theorem nextMany_addedRules {rules extended : RuleSet} {more : List Rule}
    (hcolumns : extended.columns = rules.columns) (hrules : extended.rules = rules.rules ++ more)
    {context : Context} (hwhole : context.incomplete = false) (text : Text) :
    let run (s : RuleSet) (n : Nat) :=
      nextMany (surroundings s.columns context text) s.rules n (start text context)
    (∀ records, parse rules text context = .ok records →
      parse extended text context = .ok records ∧ ∀ n, run extended n = run rules n) ∧
    (∀ n, (∀ u, .unread u ∉ (run rules n).1) → run extended n = run rules n) ∧
    ∀ n, (run rules n).1.filterMap Result.record? <+:
      (run extended n).1.filterMap Result.record? := by
  intro run
  obtain ⟨extendedRules, columns⟩ := extended
  obtain rfl : columns = rules.columns := hcolumns
  obtain rfl : extendedRules = rules.rules ++ more := hrules
  have he : (surroundings rules.columns context text).incomplete = false := hwhole
  have hstands := stands_start text context
  refine ⟨fun records h => ?_, fun n hread => nextMany_append_of_read he hread more,
    fun n => records_append he hstands n more⟩
  simp only [parse] at h ⊢
  cases hfrom : recordsFrom (surroundings rules.columns context text) rules.rules
      (text.length + 1) (start text context) with
  | error u => simp [hfrom, bind, Except.bind] at h
  | ok all =>
      have hread := read_of_recordsFrom hstands (Nat.lt_succ_self _) hfrom
      rw [hfrom] at h
      refine ⟨?_, fun n => nextMany_append_of_read he (hread n) more⟩
      simp only [recordsFrom_append he hfrom more]
      exact h

end Reading

namespace Extended

def columns : ColumnSet :=
  ⟨[⟨['n', 'a', 'm', 'e'], .name, .empty⟩, ⟨['d'], .generalDate, .empty⟩], 0⟩

def source : Text :=
  "* month_3(<d>), white_spaces(), word(<name>);".toList

def extendedSource : Text :=
  "* month_3(<d>), white_spaces(), word(<name>);\n* rest_of_line(<name>);".toList

def dated : Rule :=
  ⟨[⟨.month3, [.operand (.column (.declared 1))]⟩, ⟨.whiteSpaces, []⟩,
    ⟨.word, [.operand (.column (.declared 0))]⟩]⟩

def plain : Rule :=
  ⟨[⟨.restOfLine, [.operand (.column (.declared 0))]⟩]⟩

def rules : RuleSet :=
  ⟨[dated], columns⟩

def extended : RuleSet :=
  ⟨[dated, plain], columns⟩

def context : Context :=
  { today := ⟨2024, 5, 10, by decide⟩ }

def german : Text :=
  "Mai x\nMär y\n".toList

def mixed : Text :=
  "Mai x\nmay y\n".toList

def record (name : Text) : FileRecord :=
  { name, isDir := false, isHidden := false, isLink := false, size := 0
    modified := none, extension := none, values := [.text name, .empty] }

theorem nextMany_addedRules_mixed :
    let run (s : RuleSet) (text : Text) (n : Nat) := Reading.nextMany
      (Reading.surroundings s.columns context text) s.rules n (Reading.start text context)
    (RuleSet.compile source columns = .ok rules ∧
      RuleSet.compile extendedSource columns = .ok extended) ∧
    (parse rules german context = .ok [record ['x'], record ['y']] ∧
      parse extended german context = .ok [record ['x'], record ['y']] ∧
      run extended german 3 = run rules german 3) ∧
    ((run rules mixed 2).1 = [.record (record ['x']), .unread ⟨6, 2⟩] ∧
      run extended mixed 1 = run rules mixed 1 ∧
      (run extended mixed 2).1 = [.record (record ['x']), .record (record "may y".toList)]) := by
  intro run
  have hgerman : parse rules german context = .ok [record ['x'], record ['y']] := by rfl
  have hcolumns : extended.columns = rules.columns := rfl
  have hrules : extended.rules = rules.rules ++ [plain] := rfl
  have hwhole : context.incomplete = false := rfl
  have hsame := (Reading.nextMany_addedRules hcolumns hrules hwhole german).1 _ hgerman
  have hfirst : (run rules mixed 1).1 = [.record (record ['x'])] := by rfl
  have hread : ∀ u, .unread u ∉ (run rules mixed 1).1 := by
    rw [hfirst]
    simp
  have hmixed := (Reading.nextMany_addedRules hcolumns hrules hwhole mixed).2.1 1 hread
  exact ⟨⟨by rfl, by rfl⟩, ⟨hgerman, hsame.1, hsame.2 3⟩, by rfl, hmixed, by rfl⟩

end Extended

end ListingRules.Listing
