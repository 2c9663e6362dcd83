import ListingRules.Proofs.Filling
import ListingRules.Proofs.Movement

namespace ListingRules.Listing

def Rule.namesRead (e : Surroundings) (place : Cursor) (languages : Languages) (rule : Rule) :
    List MonthName :=
  Listing.namesRead e rule.calls ⟨place, Row.empty e.columns, languages⟩

section Rules

variable {e : Surroundings} {place : Cursor} {rule : Rule} {before more : List Rule}
  {languages left : Languages} {w : Written}

theorem languages_of_fails
    (hc : Checked e.columns rule.calls (Written.nothing e.columns) w)
    (h : applyRule e place languages rule = .fails left) :
    left = languages.sharing (Rule.namesRead e place languages rule) := by
  have hstuck := applyAll_ne_stuck (a := ⟨place, Row.empty e.columns, languages⟩) hc
    Row.keeps_empty
  have hleads := leads_applyAll e rule.calls ⟨place, Row.empty e.columns, languages⟩
  simp only [applyRule] at h
  cases ho : applyAll e rule.calls ⟨place, Row.empty e.columns, languages⟩ with
  | continues a =>
      simp only [ho] at h hleads
      split at h
      · exact Match.fails.inj h ▸ hleads.2
      · simp at h
  | skipsRest a =>
      simp only [ho] at h hleads
      split at h
      · exact Match.fails.inj h ▸ hleads.2.1
      · simp at h
  | fails other =>
      simp only [ho] at h hleads
      exact Match.fails.inj h ▸ hleads
  | stuck => exact absurd ho hstuck

theorem applyRules_append (h : applyRules e place languages before = .fails left) :
    applyRules e place languages (before ++ more) = applyRules e place left more := by
  induction before generalizing languages with
  | nil =>
      obtain rfl := Match.fails.inj h
      rfl
  | cons first before ih =>
      simp only [applyRules] at h
      simp only [List.cons_append, applyRules]
      cases hfirst : applyRule e place languages first with
      | fails other =>
          simp only [hfirst] at h
          exact ih h
      | matched stop row other => simp [hfirst] at h
      | skipsRest other => simp [hfirst] at h

theorem applyRules_cons_of_fails (h : applyRule e place languages rule = .fails left) :
    applyRules e place languages (rule :: more) = applyRules e place left more := by
  simp only [applyRules, h]

end Rules

namespace Reading

variable {e : Surroundings} {r : Reading} {languages : Languages}

theorem step_congr {rules others : List Rule} (hgo : r.finished = false)
    (hne : r.place.ahead ≠ [])
    (h : applyRules e r.place r.languages rules = applyRules e r.place languages others) :
    step e rules r = step e others { r with languages } := by
  simp only [step, hgo, List.isEmpty_iff, hne, Bool.false_or, ↓reduceIte, h]

theorem languages_of_step_nil (hgo : r.finished = false) (hne : r.place.ahead ≠ []) :
    (step e [] { r with languages }).2.languages = languages := by
  simp only [step, applyRules, hgo, List.isEmpty_iff, hne, Bool.false_or, ↓reduceIte]
  split <;> rfl

/-- An attempt that fails narrows the languages to those that share the month names it has read.
Leaving its rule out changes nothing, whatever rules follow, just when that keeps them all. -/
theorem step_without_iff {source : Text} {columns : ColumnSet} {rules : RuleSet}
    (h : RuleSet.compile source columns = .ok rules) (he : e.columns = rules.columns)
    {before more : List Rule} {rule : Rule} (hrules : rules.rules = before ++ rule :: more)
    (hgo : r.finished = false) (hne : r.place.ahead ≠ []) {left other : Languages}
    (hbefore : applyRules e r.place r.languages before = .fails left)
    (hfails : applyRule e r.place left rule = .fails other) :
    step e rules.rules r =
        step e more { r with languages := left.sharing (Rule.namesRead e r.place left rule) } ∧
      step e (before ++ more) r = step e more { r with languages := left } ∧
      ((∀ rest, step e (before ++ rule :: rest) r = step e (before ++ rest) r) ↔
        ∀ m ∈ Rule.namesRead e r.place left rule, ∀ l ∈ left, l ∈ m.languages) := by
  obtain ⟨w, hchecked⟩ := RuleSet.checked_of_compile h (r := rule) (by simp [hrules])
  rw [RuleSet.columns_of_compile h] at he
  rw [← he] at hchecked
  obtain rfl := languages_of_fails hchecked hfails
  have hwith (rest : List Rule) : step e (before ++ rule :: rest) r =
      step e rest { r with languages := left.sharing (Rule.namesRead e r.place left rule) } :=
    step_congr hgo hne ((applyRules_append hbefore).trans (applyRules_cons_of_fails hfails))
  have hwithout (rest : List Rule) : step e (before ++ rest) r =
      step e rest { r with languages := left } :=
    step_congr hgo hne (applyRules_append hbefore)
  refine ⟨hrules ▸ hwith more, hwithout more, ?_⟩
  rw [← Languages.sharing_eq_self_iff]
  constructor
  · intro hsame
    -- with no rule behind, the languages show in the reading
    have hnil := congrArg (·.2.languages) (hsame [])
    simp only [hwith, hwithout] at hnil
    rwa [languages_of_step_nil hgo hne, languages_of_step_nil hgo hne] at hnil
  · intro hkept rest
    rw [hwith, hwithout, hkept]

end Reading

namespace Misled

def columns : ColumnSet :=
  ⟨[⟨['n', 'a', 'm', 'e'], .name, .empty⟩, ⟨['d'], .generalDate, .empty⟩], 0⟩

def source : Text :=
  "* month_3(<d>), if(false);\n* all(4), month_3(<d>), white_spaces(), rest_of_line(<name>);".toList

def failing : Rule :=
  ⟨[⟨.month3, [.operand (.column (.declared 1))]⟩, ⟨.require, [.operand (.bool false)]⟩]⟩

def reading : Rule :=
  ⟨[⟨.all, [.operand (.number 4)]⟩, ⟨.month3, [.operand (.column (.declared 1))]⟩,
    ⟨.whiteSpaces, []⟩, ⟨.restOfLine, [.operand (.column (.declared 0))]⟩]⟩

def rules : RuleSet :=
  ⟨[failing, reading], columns⟩

theorem compile_source : RuleSet.compile source columns = .ok rules := by rfl

def context : Context :=
  { today := ⟨2024, 1, 10, by decide⟩ }

def listing : Text :=
  "Mai may x\n".toList

def surroundings : Surroundings :=
  Reading.surroundings columns context listing

def start : Reading :=
  Reading.start listing context

/-- The first rule reads a German or Norwegian month and fails; now the second one, which reads
the line on its own, does not know the English month in it. -/
theorem step_ne_step_without :
    RuleSet.compile source columns = .ok rules ∧
      applyRule surroundings start.place start.languages failing = .fails [.german, .norwegian] ∧
      (Reading.step surroundings rules.rules start).1 = some (.unread ⟨0, 1⟩) ∧
      (Reading.step surroundings [reading] start).1 = some (.record
        { name := ['x'], isDir := false, isHidden := false, isLink := false, size := 0
          modified := none, extension := none, values := [.text ['x'], .empty] }) :=
  ⟨compile_source, rfl, rfl, rfl⟩

theorem step_without_iff_start :
    (Reading.step surroundings rules.rules start = Reading.step surroundings [reading]
        { start with languages := [.german, .norwegian] }) ∧
      Reading.step surroundings [reading] start = Reading.step surroundings [reading]
        { start with languages := Languages.all } ∧
      ((∀ rest, Reading.step surroundings (failing :: rest) start =
          Reading.step surroundings rest start) ↔
        ∀ m ∈ Rule.namesRead surroundings start.place Languages.all failing,
          ∀ l ∈ Languages.all, l ∈ m.languages) := by
  have hrules : rules.rules = [] ++ failing :: [reading] := rfl
  have hbefore : applyRules surroundings start.place start.languages [] =
      .fails Languages.all := rfl
  have hfails : applyRule surroundings start.place Languages.all failing =
      .fails [.german, .norwegian] := by rfl
  have hne : start.place.ahead ≠ [] := by decide
  exact Reading.step_without_iff compile_source rfl hrules rfl hne hbefore hfails

end Misled

end ListingRules.Listing
