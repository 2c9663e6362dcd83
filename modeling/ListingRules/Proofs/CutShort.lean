import Mathlib.Tactic.ByContra
import ListingRules.Proofs.Passes

namespace ListingRules.Listing

namespace Surroundings

def whole (e : Surroundings) : Surroundings :=
  { e with incomplete := false }

def cutShort (e : Surroundings) : Surroundings :=
  { e with incomplete := true }

@[simp] theorem columns_whole (e : Surroundings) : e.whole.columns = e.columns := rfl

@[simp] theorem columns_cutShort (e : Surroundings) : e.cutShort.columns = e.columns := rfl

end Surroundings

open Surroundings (columns_whole columns_cutShort)

section Attempts

variable {e : Surroundings} {a : Attempt} {place : Cursor} {languages : Languages}

theorem eval?_cutShort (a : Attempt) (p : Param) :
    Param.eval? e.cutShort a p = Param.eval? e.whole a p := by
  cases p <;> rfl

theorem assign_cutShort (a : Attempt) (target : ColumnRef) (value : Param) :
    a.assign e.cutShort target value = a.assign e.whole target value := by
  simp only [Attempt.assign, eval?_cutShort]
  rfl

theorem skipSpaces_cutShort (a : Attempt) :
    a.skipSpaces e.cutShort = a.skipSpaces e.whole ∨
      ∃ b, a.skipSpaces e.cutShort = .skipsRest b ∧
        a.skipSpaces e.whole = .fails b.languages := by
  simp only [Attempt.skipSpaces]
  split
  · exact .inl rfl
  · split
    · exact .inr ⟨_, rfl, rfl⟩
    · exact .inl rfl

theorem apply_cutShort (call : Call) (a : Attempt) :
    a.apply e.cutShort call = a.apply e.whole call ∨
      ∃ b, a.apply e.cutShort call = .skipsRest b ∧ a.apply e.whole call = .fails b.languages := by
  by_cases hcall : call = ⟨.whiteSpacesAndLineEnds, []⟩
  · subst hcall
    exact skipSpaces_cutShort a
  · refine .inl ?_
    obtain ⟨f, ps⟩ := call
    simp only [Attempt.apply, eval?_cutShort, assign_cutShort]
    split
    case h_5 => exact absurd rfl hcall
    all_goals rfl

theorem applyAll_cutShort (calls : List Call) (a : Attempt) :
    applyAll e.cutShort calls a = applyAll e.whole calls a ∨
      ∃ b, applyAll e.cutShort calls a = .skipsRest b ∧
        applyAll e.whole calls a = .fails b.languages := by
  induction calls generalizing a with
  | nil => exact .inl rfl
  | cons call more ih =>
      simp only [applyAll]
      rcases apply_cutShort (e := e) call a with h | ⟨b, hcut, hwhole⟩
      · rw [h]
        cases a.apply e.whole call with
        | continues b => exact ih b
        | skipsRest b => exact .inl rfl
        | fails left => exact .inl rfl
        | stuck => exact .inl rfl
      · rw [hcut, hwhole]
        exact .inr ⟨b, rfl, rfl⟩

theorem applyRule_cutShort (place : Cursor) (languages : Languages) (rule : Rule) :
    applyRule e.cutShort place languages rule = applyRule e.whole place languages rule ∨
      ∃ left, applyRule e.cutShort place languages rule = .skipsRest left := by
  have hcalls := applyAll_cutShort (e := e) rule.calls ⟨place, Row.empty e.columns, languages⟩
  simp only [applyRule, columns_cutShort, columns_whole]
  rcases hcalls with h | ⟨b, hcut, hwhole⟩
  · rw [h]
    exact .inl rfl
  · rw [hcut, hwhole]
    -- an empty name makes the rule fail in both, with the same languages
    cases hname : b.row.hasEmptyName e.columns with
    | true => exact .inl (by simp [hname])
    | false => exact .inr ⟨b.languages, by simp [hname]⟩

theorem applyRules_cutShort (place : Cursor) (languages : Languages) (rules : List Rule) :
    applyRules e.cutShort place languages rules = applyRules e.whole place languages rules ∨
      ∃ left, applyRules e.cutShort place languages rules = .skipsRest left := by
  induction rules generalizing languages with
  | nil => exact .inl rfl
  | cons rule more ih =>
      simp only [applyRules]
      rcases applyRule_cutShort (e := e) place languages rule with h | ⟨left, hcut⟩
      · rw [h]
        cases applyRule e.whole place languages rule with
        | fails left => exact ih left
        | matched stop row left => exact .inl rfl
        | skipsRest left => exact .inl rfl
      · rw [hcut]
        exact .inr ⟨left, rfl⟩

end Attempts

def hasLineEndFrom (text : Text) (offset : Nat) : Bool :=
  (Cursor.at? text offset).any (·.ahead.any Text.isLineEnd)

theorem hasLineEndFrom_offset (c : Cursor) :
    hasLineEndFrom c.text c.offset = c.ahead.any Text.isLineEnd := by
  simp [hasLineEndFrom, Cursor.at?_offset]

namespace Reading

variable {e : Surroundings} {rules : List Rule} {text : Text} {r r' : Reading}

def Follows (text : Text) (cut whole : Result × Reading) : Prop :=
  (cut = whole ∧ ∀ u, whole.1 = .unread u → hasLineEndFrom text u.offset = true) ∨
    (cut.1 = .done ∧ cut.2.finished = true)

theorem step_cutShort (e : Surroundings) (rules : List Rule) (r : Reading) :
    (step e.cutShort rules r = step e.whole rules r ∧
        ∀ u, (step e.whole rules r).1 = some (.unread u) →
          hasLineEndFrom r.place.text u.offset = true) ∨
      ((step e.cutShort rules r).1 = some .done ∧
        (step e.cutShort rules r).2.finished = true) := by
  simp only [step, columns_cutShort, columns_whole]
  split
  · exact .inl ⟨rfl, by simp⟩
  · rcases applyRules_cutShort (e := e) r.place r.languages rules with h | ⟨left, hcut⟩
    · rw [h]
      cases applyRules e.whole r.place r.languages rules with
      | skipsRest left => exact .inl ⟨rfl, by simp⟩
      | fails left =>
          cases hend : r.place.ahead.any Text.isLineEnd with
          | true =>
              have hoffset : hasLineEndFrom r.place.text r.place.offset = true := by
                rw [hasLineEndFrom_offset, hend]
              exact .inl ⟨rfl, by simpa [Surroundings.whole] using hoffset⟩
          | false => exact .inr ⟨rfl, rfl⟩
      | matched stop row left =>
          refine .inl ⟨rfl, fun u hu => ?_⟩
          cases hname : (row.text? e.columns.nameIndex).isSome <;> simp [hname] at hu
    · rw [hcut]
      exact .inr ⟨rfl, rfl⟩

theorem follows_nextFrom (n : Nat) (hr : Stands text r) :
    Follows text (nextFrom e.cutShort rules n r) (nextFrom e.whole rules n r) := by
  induction n generalizing r with
  | zero => exact .inr ⟨rfl, rfl⟩
  | succ n ih =>
      simp only [nextFrom]
      rcases step_cutShort e rules r with ⟨h, hunread⟩ | ⟨hdone, hfinished⟩
      · rw [h]
        rcases hs : step e.whole rules r with ⟨x, r'⟩
        cases x with
        | some x =>
            rw [hs, hr.1] at hunread
            exact .inl ⟨rfl, fun u hu => hunread u (congrArg some hu)⟩
        | none => exact ih ((matches_of_step_none hs).stands hr)
      · rcases hs : step e.cutShort rules r with ⟨x, r'⟩
        rw [hs] at hdone hfinished
        obtain rfl : x = some .done := hdone
        exact .inr ⟨rfl, hfinished⟩

theorem follows_next (hr : Stands text r) :
    Follows text (next e.cutShort rules r) (next e.whole rules r) :=
  follows_nextFrom _ hr

theorem unread_cutShort {n : Nat} {u : Unread} (hr : Stands text r)
    (h : .unread u ∈ (nextMany e.cutShort rules n r).1) :
    .unread u ∈ (nextMany e.whole rules n r).1 ∧ hasLineEndFrom text u.offset = true := by
  induction n generalizing r with
  | zero => simp [nextMany] at h
  | succ n ih =>
      simp only [nextMany, List.mem_cons] at h ⊢
      have hnext : Follows text (next e.cutShort rules r) (next e.whole rules r) := follows_next hr
      rcases hnext with ⟨hsame, hunread⟩ | ⟨hdone, hfinished⟩
      · rw [hsame] at h
        rcases h with h | h
        · exact ⟨.inl h, hunread u h.symm⟩
        · obtain ⟨hmem, hend⟩ := ih (stands_next hr) h
          exact ⟨.inr hmem, hend⟩
      · rw [hdone, nextMany_finished n hfinished] at h
        simp at h

theorem agrees_or_stops (hr : Stands text r) :
    (∀ n, nextMany e.cutShort rules n r = nextMany e.whole rules n r) ∨
      ∃ m, ∀ n, (nextMany e.cutShort rules n r).1 =
        (nextMany e.whole rules n r).1.take m ++ List.replicate (n - m) .done := by
  by_cases hall : ∀ n, nextMany e.cutShort rules n r = nextMany e.whole rules n r
  · exact .inl hall
  · refine .inr ?_
    -- the last number of calls for which the two still agree
    obtain ⟨m, hm, hnext⟩ : ∃ m, nextMany e.cutShort rules m r = nextMany e.whole rules m r ∧
        nextMany e.cutShort rules (m + 1) r ≠ nextMany e.whole rules (m + 1) r := by
      by_contra hno
      refine hall fun n => ?_
      induction n with
      | zero => rfl
      | succ n ih => exact not_not.1 fun hne => hno ⟨n, ih, hne⟩
    have hstop : Follows text (next e.cutShort rules (nextMany e.whole rules m r).2)
        (next e.whole rules (nextMany e.whole rules m r).2) :=
      follows_next (stands_nextMany m hr)
    refine ⟨m, fun n => ?_⟩
    rcases hstop with ⟨hsame, -⟩ | ⟨hdone, hfinished⟩
    · refine absurd ?_ hnext
      rw [nextMany_add, nextMany_add, hm]
      simp only [nextMany, hsame]
    · rcases Nat.lt_or_ge m n with hn | hn
      · obtain ⟨k, rfl⟩ := Nat.exists_eq_add_of_lt hn
        rw [take_nextMany (Nat.le_of_lt hn), Nat.add_assoc, nextMany_add, hm]
        simp [nextMany, hdone, nextMany_finished k hfinished, List.replicate_succ]
      · rw [← take_nextMany hn, hm, take_nextMany hn, List.take_of_length_le (by simpa using hn),
          Nat.sub_eq_zero_of_le hn, List.replicate_zero, List.append_nil]

/-- The results of a listing that was cut short are those of the whole listing up to some call,
and from there on the end. A line that it reports as unread has an end, and is reported in the
whole listing as well. -/
theorem nextMany_cutShort (rules : RuleSet) (text : Text) (context : Context) :
    let cut := nextMany
      (surroundings rules.columns { context with incomplete := true } text) rules.rules
    let whole := nextMany
      (surroundings rules.columns { context with incomplete := false } text) rules.rules
    let r := start text context
    ((∀ n, cut n r = whole n r) ∨
      ∃ m, ∀ n, (cut n r).1 = (whole n r).1.take m ++ List.replicate (n - m) .done) ∧
    (∀ n, (cut n r).1.filterMap Result.record? <+: (whole n r).1.filterMap Result.record?) ∧
    (∀ n u, .unread u ∈ (cut n r).1 →
      .unread u ∈ (whole n r).1 ∧ hasLineEndFrom text u.offset = true) ∧
    ∀ n u, .unread u ∈ (whole n r).1 → hasLineEndFrom text u.offset = false →
      .done ∈ (cut n r).1 ∧ ∀ k v, .unread v ∉ (cut k r).1 := by
  intro cut whole r
  let e := surroundings rules.columns context text
  have hr : Stands text r := stands_start text context
  have hstops : (∀ n, cut n r = whole n r) ∨
      ∃ m, ∀ n, (cut n r).1 = (whole n r).1.take m ++ List.replicate (n - m) .done :=
    agrees_or_stops (e := e) hr
  have hunread (n : Nat) (u : Unread) (h : .unread u ∈ (cut n r).1) :
      .unread u ∈ (whole n r).1 ∧ hasLineEndFrom text u.offset = true :=
    unread_cutShort (e := e) hr h
  refine ⟨hstops, fun n => ?_, hunread, fun n u hu hend => ⟨?_, fun k v hv => ?_⟩⟩
  · rcases hstops with h | ⟨m, h⟩
    · exact h n ▸ List.prefix_rfl
    · have hdone : (List.replicate (n - m) Result.done).filterMap Result.record? = [] := by
        simp [List.filterMap_replicate, Result.record?]
      rw [h, List.filterMap_append, hdone, List.append_nil]
      exact (List.take_prefix m _).filterMap _
  · have hmissing : .unread u ∉ (cut n r).1 := fun h => by simp [(hunread n u h).2] at hend
    rcases hstops with h | ⟨m, h⟩
    · exact absurd (h n ▸ hu) hmissing
    · rw [h n] at hmissing ⊢
      rcases Nat.lt_or_ge m n with hn | hn
      · exact List.mem_append_right _ (List.mem_replicate.2 ⟨Nat.sub_ne_zero_of_lt hn, rfl⟩)
      · rw [List.take_of_length_le (by simpa [whole] using hn)] at hmissing
        exact absurd (List.mem_append_left _ hu) hmissing
  · obtain ⟨hmem, hv⟩ := hunread k v hv
    obtain rfl := unread_unique hr hu hmem
    simp [hv] at hend

end Reading

end ListingRules.Listing
