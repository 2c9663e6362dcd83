import ListingRules.Proofs.FailedAttempts
import ListingRules.Proofs.Filling
import ListingRules.Proofs.Passes

namespace ListingRules.Listing

structure Made where
  call : Call
  attempt : Attempt

def made (e : Surroundings) : List Call → Attempt → List Made
  | [], _ => []
  | call :: more, a =>
      ⟨call, a⟩ ::
        match a.apply e call with
        | .continues b => made e more b
        | _ => []

def madeByRule (e : Surroundings) (place : Cursor) (languages : Languages) (rule : Rule) :
    List Made :=
  made e rule.calls ⟨place, Row.empty e.columns, languages⟩

def madeByRules (e : Surroundings) (place : Cursor) : Languages → List Rule → List Made
  | _, [] => []
  | languages, rule :: more =>
      madeByRule e place languages rule ++
        match applyRule e place languages rule with
        | .fails left => madeByRules e place left more
        | _ => []

namespace Reading

def madeByStep (e : Surroundings) (rules : List Rule) (r : Reading) : List Made :=
  if r.finished || r.place.ahead.isEmpty then [] else madeByRules e r.place r.languages rules

def madeByNextFrom (e : Surroundings) (rules : List Rule) : Nat → Reading → List Made
  | 0, _ => []
  | n + 1, r =>
      madeByStep e rules r ++
        match step e rules r with
        | (some _, _) => []
        | (none, r) => madeByNextFrom e rules n r

def madeByNext (e : Surroundings) (rules : List Rule) (r : Reading) : List Made :=
  madeByNextFrom e rules (r.place.ahead.length + 1) r

def madeByNextMany (e : Surroundings) (rules : List Rule) : Nat → Reading → List Made
  | 0, _ => []
  | n + 1, r => madeByNext e rules r ++ madeByNextMany e rules n (next e rules r).2

end Reading

inductive Narrows : Languages → List Made → Languages → Prop
  | nil {languages : Languages} : Narrows languages [] languages
  | cons {call : Call} {a : Attempt} {calls : List Made} {left : Languages} :
      Narrows (languagesAfter call a) calls left → Narrows a.languages (⟨call, a⟩ :: calls) left

namespace Narrows

variable {before between after : Languages} {done more : List Made}

theorem append (h : Narrows before done between) (hmore : Narrows between more after) :
    Narrows before (done ++ more) after := by
  induction h with
  | nil => exact hmore
  | cons _ ih => exact .cons (ih hmore)

theorem split (h : Narrows before (done ++ more) after) :
    ∃ between, Narrows before done between ∧ Narrows between more after := by
  induction done generalizing before with
  | nil => exact ⟨before, .nil, h⟩
  | cons m done ih =>
      cases h with
      | cons h =>
          obtain ⟨between, hdone, hmore⟩ := ih h
          exact ⟨between, .cons hdone, hmore⟩

theorem upTo {m : Made} (h : Narrows before (done ++ m :: more) after) :
    Narrows before done m.attempt.languages := by
  obtain ⟨between, hdone, hmore⟩ := h.split
  cases hmore with
  | cons _ => exact hdone

end Narrows

def Outcome.languages? : Outcome → Option Languages
  | continues a => some a.languages
  | skipsRest a => some a.languages
  | fails left => some left
  | stuck => none

def Match.languages : Match → Languages
  | matched _ _ left => left
  | skipsRest left => left
  | fails left => left

section Runs

variable {e : Surroundings} {left : Languages} {rule : Rule} {rules : List Rule}

theorem narrows_applyAll {calls : List Call} {a : Attempt}
    (h : (applyAll e calls a).languages? = some left) :
    Narrows a.languages (made e calls a) left := by
  induction calls generalizing a with
  | nil =>
      obtain rfl := Option.some.inj h
      exact .nil
  | cons call more ih =>
      have hleads := a.leads_apply e call
      simp only [applyAll] at h
      refine .cons ?_
      cases ho : a.apply e call with
      | continues b =>
          rw [ho] at h hleads
          exact hleads.2 ▸ ih h
      | skipsRest b =>
          rw [ho] at h hleads
          obtain rfl := Option.some.inj h
          exact hleads.2.1 ▸ .nil
      | fails other =>
          rw [ho] at h hleads
          obtain rfl := Option.some.inj h
          obtain rfl : other = languagesAfter call a := hleads
          exact .nil
      | stuck => simp [ho, Outcome.languages?] at h

theorem narrows_applyRule (hrule : Rule.IsChecked e.columns rule) (place : Cursor)
    (before : Languages) :
    Narrows before (madeByRule e place before rule)
      (applyRule e place before rule).languages := by
  obtain ⟨v, hchecked⟩ := hrule
  have hstuck := applyAll_ne_stuck (a := ⟨place, Row.empty e.columns, before⟩) hchecked
    Row.keeps_empty
  refine narrows_applyAll (a := ⟨place, Row.empty e.columns, before⟩) ?_
  simp only [applyRule]
  cases ho : applyAll e rule.calls ⟨place, Row.empty e.columns, before⟩ with
  | continues a => simp only; split <;> rfl
  | skipsRest a => simp only; split <;> rfl
  | fails left => rfl
  -- a call that is stuck would give back the languages that the rule began with
  | stuck => exact absurd ho hstuck

theorem narrows_applyRules (hrules : ∀ rule ∈ rules, Rule.IsChecked e.columns rule)
    (place : Cursor) (before : Languages) :
    Narrows before (madeByRules e place before rules)
      (applyRules e place before rules).languages := by
  induction rules generalizing before with
  | nil => exact .nil
  | cons rule more ih =>
      have hfirst := narrows_applyRule (hrules rule List.mem_cons_self) place before
      simp only [madeByRules, applyRules]
      cases hm : applyRule e place before rule with
      | fails left =>
          rw [hm] at hfirst
          exact hfirst.append (ih (fun r hr => hrules r (List.mem_cons_of_mem _ hr)) left)
      | matched stop row left => simpa [hm] using hfirst
      | skipsRest left => simpa [hm] using hfirst

end Runs

namespace Reading

variable {e : Surroundings} {rules : List Rule} {r : Reading}

theorem narrows_step (hrules : ∀ rule ∈ rules, Rule.IsChecked e.columns rule) :
    Narrows r.languages (madeByStep e rules r) (step e rules r).2.languages := by
  simp only [madeByStep, step]
  split
  · exact .nil
  · have hmade := narrows_applyRules hrules r.place r.languages
    cases hm : applyRules e r.place r.languages rules with
    | skipsRest left =>
        rw [hm] at hmade
        exact hmade
    | fails left =>
        rw [hm] at hmade
        simp only
        split <;> exact hmade
    | matched stop row left =>
        rw [hm] at hmade
        simp only
        split <;> exact hmade

theorem narrows_nextFrom (hrules : ∀ rule ∈ rules, Rule.IsChecked e.columns rule) (n : Nat)
    (r : Reading) :
    Narrows r.languages (madeByNextFrom e rules n r) (nextFrom e rules n r).2.languages := by
  induction n generalizing r with
  | zero => exact .nil
  | succ n ih =>
      have hstep := narrows_step (r := r) hrules
      simp only [madeByNextFrom, nextFrom]
      cases hs : step e rules r with
      | mk x r' =>
          rw [hs] at hstep
          cases x with
          | some x => simpa using hstep
          | none => exact hstep.append (ih r')

theorem narrows_nextMany (hrules : ∀ rule ∈ rules, Rule.IsChecked e.columns rule) (n : Nat)
    (r : Reading) :
    Narrows r.languages (madeByNextMany e rules n r) (nextMany e rules n r).2.languages := by
  induction n generalizing r with
  | zero => exact .nil
  | succ n ih => exact (narrows_nextFrom hrules _ r).append (ih (next e rules r).2)

end Reading

end ListingRules.Listing
