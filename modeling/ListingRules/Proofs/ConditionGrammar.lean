import ListingRules.Condition.Source
import ListingRules.Proofs.PrintedConditions
import ListingRules.Proofs.QuotedTexts

namespace ListingRules

namespace Formula

variable {α : Type} {P : α → Prop}

theorem all_closeRun {before : Option (Formula α)} {run : Formula α}
    (hbefore : ∀ p ∈ before, p.All P) (hrun : run.All P) : (closeRun before run).All P := by
  cases before with
  | none => exact hrun
  | some p => exact ⟨hbefore p rfl, hrun⟩

theorem all_chainFrom {before : Option (Formula α)} {run : Formula α}
    {rest : List (Connective × Formula α)} (hbefore : ∀ p ∈ before, p.All P) (hrun : run.All P)
    (hrest : ∀ l ∈ rest, l.2.All P) : (chainFrom before run rest).All P := by
  induction rest generalizing before run with
  | nil => exact all_closeRun hbefore hrun
  | cons l rest ih =>
      obtain ⟨op, p⟩ := l
      have hp : p.All P := hrest (op, p) List.mem_cons_self
      have hmore : ∀ l ∈ rest, l.2.All P := fun l h => hrest l (List.mem_cons_of_mem _ h)
      cases op with
      | and => exact ih hbefore ⟨hrun, hp⟩ hmore
      | or => exact ih (by simpa using all_closeRun hbefore hrun) hp hmore

end Formula

theorem SignedFormula.all_grouped {α : Type} {P : α → Prop} {first : SignedFormula α}
    {links : List (Connective × SignedFormula α)} (hfirst : first.formula.All P)
    (hlinks : ∀ l ∈ links, l.2.formula.All P) : (grouped first links).All P := by
  rw [grouped_eq_chain]
  refine Formula.all_chainFrom (by simp) hfirst fun l hl => ?_
  obtain ⟨m, hm, rfl⟩ := List.mem_map.1 hl
  exact hlinks m hm

namespace Quoted

open Cursor (Onward)

theorem onward_close? {quote d : Cursor} (h : close? quote = some d) : Onward quote d :=
  quote.onward_next.trans (past_closeFrom? h).onward

end Quoted

namespace Condition

open Cursor (Onward)
open SourceError (here)

inductive Wanted where
  | operand
  | parametersStart
  | text
  | parametersEnd
  | groupEnd
  | lessDepth
  deriving DecidableEq, Repr

structure Refusal where
  wanted : Wanted
  place : Cursor
  deriving DecidableEq, Repr

/-- A text that is not closed may have an escape that is unknown, which comes before its end. -/
def Refusal.error : Refusal → SourceError
  | ⟨.operand, c⟩ => misplaced .unexpectedSymbol c
  | ⟨.parametersStart, c⟩ => here .missingFunctionParams c
  | ⟨.text, c⟩ =>
      if c.ahead.head? ≠ some '"' then here .missingStringParam c
      else match Quoted.decodeInSource c with
        | .error e => e
        | .ok _ => here .missingStringEnd c
  | ⟨.parametersEnd, c⟩ => here .missingParenEnd c
  | ⟨.groupEnd, c⟩ => misplaced .missingRightParen c
  | ⟨.lessDepth, c⟩ => here .unexpectedSymbol c

namespace Grammar

def sign (x : Char) (wanted : Wanted) (c : Cursor) : Except Refusal Cursor :=
  if (skip c).ahead.head? = some x then .ok (skip c).next else .error ⟨wanted, skip c⟩

def call (f : ConditionFunction) (c : Cursor) : Except Refusal (Call × Cursor) := do
  let c ← sign '(' .parametersStart c
  let quote := skip c
  if quote.ahead.head? ≠ some '"' then .error ⟨.text, quote⟩
  match Quoted.close? quote with
  | some c => return (⟨f, quote⟩, ← sign ')' .parametersEnd c)
  | none => .error ⟨.text, quote⟩

mutual

def operand : Nat → Cursor → Except Refusal (SignedFormula Call × Cursor)
  | 0, c => .error ⟨.lessDepth, skip c⟩
  | depth + 1, c =>
      if isKeyword "not" (word (skip c)) then do
        let (p, c) ← term depth (skip (afterWord (skip c)))
        return (⟨true, p⟩, c)
      else do
        let (p, c) ← term depth (skip c)
        return (⟨false, p⟩, c)

def term : Nat → Cursor → Except Refusal (Formula Call × Cursor)
  | 0, c => .error ⟨.lessDepth, c⟩
  | depth + 1, c =>
      match ConditionFunction.ofName? (word c) with
      | some f => do
          let (p, c) ← call f (afterWord c)
          return (.test p, c)
      | none =>
          if c.ahead.head? = some '(' then do
            let (p, c) ← expression depth c.next
            return (p, ← sign ')' .groupEnd c)
          else .error ⟨.operand, c⟩

def expression : Nat → Cursor → Except Refusal (Formula Call × Cursor)
  | 0, c => .error ⟨.lessDepth, skip c⟩
  | depth + 1, c => do
      let (first, c) ← operand depth c
      let (rest, c) ← links depth c
      return (SignedFormula.grouped first rest, c)

def links : Nat → Cursor → Except Refusal (List (Connective × SignedFormula Call) × Cursor)
  | 0, c => .ok ([], c)
  | depth + 1, c =>
      match connective? (skip c) with
      | none => .ok ([], c)
      | some op => do
          let (p, c) ← operand depth (afterWord (skip c))
          let (rest, c) ← links depth c
          return ((op, p) :: rest, c)

end

def ofSource (source : Text) : Except Refusal (Option (Formula Call)) := do
  let start := skip (Cursor.ofText source)
  if start.ahead.isEmpty then return none
  let (p, c) ← expression (3 * source.length + 3) start
  if (skip c).ahead.isEmpty then return some p
  .error ⟨.operand, skip c⟩

section Errors

variable {α β : Type}

def Follows (x : Except SourceError α) (y : Except Refusal α) : Prop :=
  x = y.mapError Refusal.error

theorem Follows.bind {x : Except SourceError α} {y : Except Refusal α}
    {f : α → Except SourceError β} {g : α → Except Refusal β} (h : Follows x y)
    (hf : ∀ a, Follows (f a) (g a)) : Follows (x >>= f) (y >>= g) := by
  subst h
  cases y with
  | ok a => exact hf a
  | error r => rfl

theorem follows_sign {x : Char} (missing : Cursor → SourceError) {wanted : Wanted} (c : Cursor)
    (h : ∀ d, missing d = Refusal.error ⟨wanted, d⟩) :
    Follows (Condition.sign x missing c) (sign x wanted c) := by
  simp only [Condition.sign, sign]
  split
  · rfl
  · exact congrArg Except.error (h _)

theorem follows_call (f : ConditionFunction) (c : Cursor) :
    Follows (Condition.call f c) (call f c) := by
  refine (follows_sign (here .missingFunctionParams) c fun _ => rfl).bind fun d => ?_
  by_cases hq : (skip d).ahead.head? = some '"'
  · rw [if_neg (not_not_intro hq), if_neg (not_not_intro hq)]
    cases Quoted.close? (skip d) with
    | some e => exact (follows_sign (here .missingParenEnd) e fun _ => rfl).bind fun _ => rfl
    | none =>
        have herror : Refusal.error ⟨.text, skip d⟩ = match Quoted.decodeInSource (skip d) with
            | .error e => e
            | .ok _ => here .missingStringEnd (skip d) := if_neg (not_not_intro hq)
        refine Eq.trans ?_ (congrArg Except.error herror.symm)
        cases Quoted.decodeInSource (skip d) <;> rfl
  · rw [if_pos hq, if_pos hq]
    exact congrArg Except.error (if_pos hq).symm

def FollowAt (depth : Nat) : Prop :=
  (∀ c, Follows (Condition.operand depth c) (operand depth c)) ∧
    (∀ c, Follows (Condition.term depth c) (term depth c)) ∧
    (∀ c, Follows (Condition.expression depth c) (expression depth c)) ∧
    ∀ c, Follows (Condition.links depth c) (links depth c)

theorem followAt_succ {depth : Nat} (h : FollowAt depth) : FollowAt (depth + 1) := by
  obtain ⟨hoperand, hterm, hexpression, hlinks⟩ := h
  refine ⟨fun c => ?_, fun c => ?_, fun c => ?_, fun c => ?_⟩
  · simp only [Condition.operand, operand]
    split
    · exact (hterm _).bind fun _ => rfl
    · exact (hterm _).bind fun _ => rfl
  · simp only [Condition.term, term]
    cases ConditionFunction.ofName? (word c) with
    | some f => exact (follows_call f _).bind fun _ => rfl
    | none =>
        dsimp only
        split
        · exact (hexpression _).bind fun r =>
            (follows_sign (misplaced .missingRightParen) r.2 fun _ => rfl).bind fun _ => rfl
        · rfl
  · simp only [Condition.expression, expression]
    exact (hoperand c).bind fun _ => (hlinks _).bind fun _ => rfl
  · simp only [Condition.links, links]
    cases connective? (skip c) with
    | none => rfl
    | some op => exact (hoperand _).bind fun _ => (hlinks _).bind fun _ => rfl

theorem followAt (depth : Nat) : FollowAt depth := by
  induction depth with
  | zero =>
      refine ⟨fun c => ?_, fun c => ?_, fun c => ?_, fun c => ?_⟩
      · simp only [Condition.operand, operand]; rfl
      · simp only [Condition.term, term]; rfl
      · simp only [Condition.expression, expression]; rfl
      · simp only [Condition.links, links]; rfl
  | succ depth ih => exact followAt_succ ih

theorem ofSource_eq (source : Text) :
    Condition.ofSource source = (ofSource source).mapError Refusal.error := by
  have h := (followAt (3 * source.length + 3)).2.2.1 (skip (Cursor.ofText source))
  have hfollows : Follows (Condition.ofSource source) (ofSource source) := by
    simp only [Condition.ofSource, ofSource]
    split
    · rfl
    · refine h.bind fun r => ?_
      split <;> rfl
  exact hfollows

end Errors

end Grammar

def Call.IsIn (source : Text) (call : Call) : Prop :=
  call.quote.text = source ∧ call.quote.ahead.head? = some '"'

theorem onward_skip (c : Cursor) : Onward c (skip c) :=
  Cursor.onward_skipWhile _ c

theorem onward_afterWord (c : Cursor) : Onward c (afterWord c) :=
  Cursor.onward_skipWhile _ c

namespace Grammar

section Places

variable {source : Text} {c : Cursor}

theorem reports_sign {x : Char} {wanted : Wanted} (hc : c.text = source) :
    Reports (·.place.text = source) (fun d => Onward c d) (sign x wanted c) := by
  have hskip := onward_skip c
  simp only [sign]
  split
  · exact hskip.trans (Cursor.onward_next _)
  · exact hskip.text_eq.trans hc

theorem reports_call {f : ConditionFunction} (hc : c.text = source) :
    Reports (·.place.text = source) (fun r => r.1.IsIn source ∧ Onward c r.2) (call f c) := by
  refine (reports_sign hc).bind fun d hd => ?_
  have hquote := hd.trans (onward_skip d)
  have htext := hquote.text_eq.trans hc
  by_cases hq : (skip d).ahead.head? = some '"'
  · rw [if_neg (not_not_intro hq)]
    cases he : Quoted.close? (skip d) with
    | some e =>
        have he := hquote.trans (Quoted.onward_close? he)
        exact (reports_sign (he.text_eq.trans hc)).bind fun g hg => ⟨⟨htext, hq⟩, he.trans hg⟩
    | none => exact htext
  · rw [if_pos hq]
    exact htext

def ReportAt (source : Text) (depth : Nat) : Prop :=
  (∀ c : Cursor, c.text = source → Reports (·.place.text = source)
    (fun r => r.1.formula.All (Call.IsIn source) ∧ Onward c r.2) (operand depth c)) ∧
  (∀ c : Cursor, c.text = source → Reports (·.place.text = source)
    (fun r => r.1.All (Call.IsIn source) ∧ Onward c r.2) (term depth c)) ∧
  (∀ c : Cursor, c.text = source → Reports (·.place.text = source)
    (fun r => r.1.All (Call.IsIn source) ∧ Onward c r.2) (expression depth c)) ∧
  ∀ c : Cursor, c.text = source → Reports (·.place.text = source)
    (fun r => (∀ l ∈ r.1, l.2.formula.All (Call.IsIn source)) ∧ Onward c r.2) (links depth c)

theorem reportAt_succ {depth : Nat} (h : ReportAt source depth) : ReportAt source (depth + 1) := by
  obtain ⟨hoperand, hterm, hexpression, hlinks⟩ := h
  refine ⟨fun c hc => ?_, fun c hc => ?_, fun c hc => ?_, fun c hc => ?_⟩
  · have hskip := onward_skip c
    simp only [operand]
    split
    · have hword := hskip.trans ((onward_afterWord _).trans (onward_skip _))
      exact (hterm _ (hword.text_eq.trans hc)).bind fun r hr => ⟨hr.1, hword.trans hr.2⟩
    · exact (hterm _ (hskip.text_eq.trans hc)).bind fun r hr => ⟨hr.1, hskip.trans hr.2⟩
  · simp only [term]
    split
    · have hword := onward_afterWord c
      exact (reports_call (hword.text_eq.trans hc)).bind fun r hr => ⟨hr.1, hword.trans hr.2⟩
    · split
      · have hnext := Cursor.onward_next c
        refine (hexpression _ (hnext.text_eq.trans hc)).bind fun r hr => ?_
        have hr2 := hnext.trans hr.2
        exact (reports_sign (hr2.text_eq.trans hc)).bind fun d hd => ⟨hr.1, hr2.trans hd⟩
      · exact hc
  · simp only [expression]
    refine (hoperand c hc).bind fun r hr => ?_
    refine (hlinks r.2 (hr.2.text_eq.trans hc)).bind fun l hl => ?_
    exact ⟨SignedFormula.all_grouped hr.1 hl.1, hr.2.trans hl.2⟩
  · simp only [links]
    split
    · exact ⟨by simp, .refl c⟩
    · have hword := (onward_skip c).trans (onward_afterWord _)
      refine (hoperand _ (hword.text_eq.trans hc)).bind fun r hr => ?_
      have hr2 := hword.trans hr.2
      refine (hlinks r.2 (hr2.text_eq.trans hc)).bind fun l hl => ?_
      exact ⟨List.forall_mem_cons.2 ⟨hr.1, hl.1⟩, hr2.trans hl.2⟩

theorem reportAt (source : Text) (depth : Nat) : ReportAt source depth := by
  induction depth with
  | zero =>
      refine ⟨fun c hc => ?_, fun c hc => ?_, fun c hc => ?_, fun c hc => ?_⟩
      · simp only [operand]
        exact (onward_skip c).text_eq.trans hc
      · simp only [term]
        exact hc
      · simp only [expression]
        exact (onward_skip c).text_eq.trans hc
      · simp only [links]
        exact ⟨by simp, .refl c⟩
  | succ depth ih => exact reportAt_succ ih

theorem reports_ofSource (source : Text) :
    Reports (·.place.text = source) (fun r => ∀ p ∈ r, p.All (Call.IsIn source))
      (ofSource source) := by
  have hstart := onward_skip (Cursor.ofText source)
  simp only [ofSource]
  split
  · rintro p ⟨⟩
  · refine ((reportAt source _).2.2.1 _ hstart.text_eq).bind fun r hr => ?_
    have hend := hstart.trans (hr.2.trans (onward_skip _))
    split
    · rintro p ⟨⟩
      exact hr.1
    · exact hend.text_eq

end Places

end Grammar

end Condition

end ListingRules
