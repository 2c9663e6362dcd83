import ListingRules.Proofs.ReadDates

namespace ListingRules.Listing

def GuessesYear (writes : List Write) : Prop :=
  (∃ w ∈ writes, w.guesses = true) ∧ ∀ w ∈ writes, w.year?.isSome = true → w.guesses = true

theorem lastOf_eq_some {α : Type} {f : Write → Option α} {x : α} {writes : List Write}
    (hsome : ∃ w ∈ writes, (f w).isSome = true) (hall : ∀ w ∈ writes, ∀ y, f w = some y → y = x) :
    lastOf f writes = some x := by
  obtain ⟨w, hw, hf⟩ := hsome
  obtain ⟨y, hy⟩ := Option.isSome_iff_exists.1 hf
  have hne : writes.filterMap f ≠ [] := List.ne_nil_of_mem (List.mem_filterMap.2 ⟨w, hw, hy⟩)
  obtain ⟨v, hv, hlast⟩ := List.mem_filterMap.1 (List.getLast_mem hne)
  rw [lastOf, List.getLast?_eq_some_getLast hne, hall v hv _ hlast]

section Writes

variable {e : Surroundings} {w : Write} {i : Nat} {calls : List Made}

theorem year_of_guesses {m : Made} (h : dateWrite? e m = some w) (hw : w.guesses = true) :
    w.year? = some e.today.year := by
  have hmap {α : Type} {x : Option α} {f : α → Write} (h : x.map f = some w)
      (hf : ∀ y, (f y).guesses = true → (f y).year? = some e.today.year) :
      w.year? = some e.today.year := by
    obtain ⟨y, -, rfl⟩ := Option.map_eq_some_iff.1 h
    exact hf y hw
  simp only [dateWrite?] at h
  split at h
  · exact hmap h (by simp [Write.guesses])
  · exact hmap h (by simp [Write.guesses])
  · exact hmap h (by simp [Write.guesses])
  · exact hmap h (by simp [Write.guesses])
  · exact hmap h (by simp [Write.guesses])
  · exact hmap h (by simp [Write.guesses])
  · exact hmap h (by simp [Write.guesses])
  -- only where a year or a time may stand is a year guessed
  · refine hmap h fun read hread => ?_
    split at hread
    · cases hread
    · rfl
  · exact hmap h (by simp [Write.guesses])
  · cases h

theorem year_of_guessesYear (h : GuessesYear (dateWrites e i calls)) :
    lastOf Write.year? (dateWrites e i calls) = some e.today.year := by
  have hyear : ∀ w ∈ dateWrites e i calls, w.guesses = true → w.year? = some e.today.year := by
    intro w hw hguess
    obtain ⟨m, -, hm⟩ := List.mem_filterMap.1 hw
    exact year_of_guesses hm hguess
  obtain ⟨⟨w, hw, hguess⟩, hall⟩ := h
  refine lastOf_eq_some ⟨w, hw, by simp [hyear w hw hguess]⟩ fun v hv y hy => ?_
  have hv := hyear v hv (hall v hv (by simp [hy]))
  exact Option.some.inj (hy.symm.trans hv)

end Writes

def lastYear (today : Date) (month day : Nat) : Int :=
  if today.IsBefore today.year month day then today.year - 1 else today.year

theorem not_isBefore_lastYear (today : Date) (month day : Nat) :
    ¬ today.IsBefore (lastYear today month day) month day := by
  simp only [lastYear]
  split
  · simp only [Date.IsBefore]
    omega
  · assumption

theorem isBefore_after_lastYear (today : Date) (month day : Nat) :
    today.IsBefore (lastYear today month day + 1) month day := by
  simp only [lastYear]
  split
  · simpa using ‹_›
  · simp only [Date.IsBefore]
    omega

theorem shownDate_guessed (today : Date) (month day : Nat) :
    shownDate today true today.year month day =
      Date.orEarliest (lastYear today month day) month day := by
  simp [shownDate, lastYear]

/-- A date whose day and month are listed and whose year is guessed is the last one with this day
and month that is not in the future. -/
theorem guessedDate_of_applyRule {source : Text} {columns : ColumnSet} {rules : RuleSet}
    (h : RuleSet.compile source columns = .ok rules) {e : Surroundings}
    (he : e.columns = rules.columns) {rule : Rule} (hr : rule ∈ rules.rules)
    {place stop : Cursor} {row : Row} {before after : Languages}
    (hmatch : applyRule e place before rule = .matched stop row after) {i : Nat}
    (hi : e.columns.operandType? (.declared i) = some .date) {day month : Nat}
    (hday : lastOf Write.day? (dateWrites e i (madeByRule e place before rule)) = some day)
    (hmonth : lastOf Write.month? (dateWrites e i (madeByRule e place before rule)) = some month)
    (hyear : GuessesYear (dateWrites e i (madeByRule e place before rule))) :
    ∃ year d, (row.toRecord e.columns e.today).values[i]? = some (.date d) ∧
      (¬ IsDay year month day ∧ d = Date.earliest ∨
        d.year = year ∧ d.month = month ∧ d.day = day) ∧
      ¬ e.today.IsBefore year month day ∧ e.today.IsBefore (year + 1) month day := by
  have hrule := Rule.isChecked_of_compile h he hr
  have hguesses : (dateWrites e i (madeByRule e place before rule)).any Write.guesses = true :=
    List.any_eq_true.2 hyear.1
  have hvalue := value_of_applyRule hrule hi hmatch ⟨hday, hmonth, year_of_guessesYear hyear⟩
  rw [hguesses, shownDate_guessed] at hvalue
  refine ⟨lastYear e.today month day, _, hvalue, ?_, not_isBefore_lastYear e.today month day,
    isBefore_after_lastYear e.today month day⟩
  by_cases hexists : IsDay (lastYear e.today month day) month day
  · rw [Date.orEarliest_of_isDay hexists]
    exact .inr ⟨rfl, rfl, rfl⟩
  · exact .inl ⟨hexists, Date.orEarliest_of_not_isDay hexists⟩

namespace Inferred

def columns : ColumnSet :=
  ⟨[⟨"name".toList, .name, .empty⟩, ⟨['d'], .generalDate, .empty⟩, ⟨['t'], .generalTime, .empty⟩],
    0⟩

def source : Text :=
  "* month_3(<d>), all(1), day(<d>), all(1), year_or_time(<d>, <t>), all(1), word(<name>);".toList

def blank : Call :=
  ⟨.all, [.operand (.number 1)]⟩

def rule : Rule :=
  ⟨[⟨.month3, [.operand (.column (.declared 1))]⟩, blank,
    ⟨.day, [.operand (.column (.declared 1))]⟩, blank,
    ⟨.yearOrTime, [.operand (.column (.declared 1)), .operand (.column (.declared 2))]⟩, blank,
    ⟨.word, [.operand (.column (.declared 0))]⟩]⟩

def rules : RuleSet :=
  ⟨[rule], columns⟩

theorem isDay_today : IsDay 2024 1 10 := by decide

def context : Context :=
  { today := ⟨2024, 1, 10, isDay_today⟩ }

def listing : Text :=
  "Aug 31 9:15 x\n".toList

def surroundings : Surroundings :=
  Reading.surroundings columns context listing

def row : Row :=
  { cells := [.text ['x'], .date ⟨some 31, some 8, some 2024, true⟩,
      .time ⟨9, 15, 0, 0, by decide⟩] }

theorem guessesYear :
    GuessesYear (dateWrites surroundings 1
      (madeByRule surroundings (Cursor.ofText listing) Languages.all rule)) := by
  have hwrites : dateWrites surroundings 1
      (madeByRule surroundings (Cursor.ofText listing) Languages.all rule) =
        [.monthPart 8, .dayPart 31, .yearPart 2024 true] := by rfl
  rw [hwrites]
  exact ⟨⟨.yearPart 2024 true, by simp, rfl⟩, by simp [Write.year?, Write.guesses]⟩

theorem guessedDate_august :
    ∃ year d, (row.toRecord columns context.today).values[1]? = some (.date d) ∧
      (¬ IsDay year 8 31 ∧ d = Date.earliest ∨ d.year = year ∧ d.month = 8 ∧ d.day = 31) ∧
      ¬ context.today.IsBefore year 8 31 ∧ context.today.IsBefore (year + 1) 8 31 := by
  have hcompile : RuleSet.compile source columns = .ok rules := by rfl
  have hmatch : applyRule surroundings (Cursor.ofText listing) Languages.all rule =
      .matched ⟨listing.reverse, []⟩ row Languages.all := by rfl
  exact guessedDate_of_applyRule (e := surroundings) hcompile rfl (by simp [rules]) hmatch
    (i := 1) rfl (by rfl) (by rfl) guessesYear

end Inferred

end ListingRules.Listing
