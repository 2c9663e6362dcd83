import ListingRules.Proofs.Bytewise.Source
import ListingRules.Proofs.ConditionErrors

namespace ListingRules

namespace Formula

variable {α β γ : Type}

def map (f : α → β) : Formula α → Formula β
  | test a => test (f a)
  | not p => not (p.map f)
  | and p q => and (p.map f) (q.map f)
  | or p q => or (p.map f) (q.map f)

theorem mapM_map {m : Type → Type} [Monad m] (f : α → β) (g : β → m γ) (p : Formula α) :
    (p.map f).mapM g = p.mapM fun a => g (f a) := by
  induction p with
  | test a => rfl
  | not p ih => simp only [map, mapM, ih]
  | and p q ihp ihq => simp only [map, mapM, ihp, ihq]
  | or p q ihp ihq => simp only [map, mapM, ihp, ihq]

end Formula

namespace Bytewise

open Condition (Wanted Refusal)
open Text (byteCount)

namespace ConditionSource

structure Call where
  function : ConditionFunction
  quote : Nat
  deriving DecidableEq, Repr

def Call.ofPlace (call : Condition.Call) : Call :=
  ⟨call.function, call.quote.offset⟩

def parse (src : Text) : Except (Wanted × Nat) (Option (Formula Call)) :=
  match Condition.Grammar.ofSource src with
  | .ok p => .ok (p.map (·.map Call.ofPlace))
  | .error r => .error (r.wanted, r.place.offset)

def failAt {α : Type} (fault : SourceFault) (rest : Text) (pos : Nat) : Compiling α :=
  fail ⟨fault, pos, (rest.head?.map Char.utf8Size).getD 0, none⟩

def misplaced {α : Type} (fault : SourceFault) (rest : Text) (pos : Nat) : Compiling α :=
  if rest.head?.any isIdentifierStart then do
    let length := (findByte? (! isIdentifierPart ·) rest).getD (byteCount rest)
    let word ← checked (sliceTo rest length)
    if ["or", "and", "not"].any (Condition.isKeyword · word) ||
        (ConditionFunction.ofName? word).isSome then
      failAt fault rest pos
    else fail ⟨.unknownFunction, pos, length, none⟩
  else failAt fault rest pos

def syntaxError {α : Type} (src : Text) (wanted : Wanted) (pos : Nat) : Compiling α :=
  let rest := (sliceFrom src pos).toOption.getD []
  match wanted with
  | .operand => misplaced .unexpectedSymbol rest pos
  | .parametersStart => failAt .missingFunctionParams rest pos
  | .text =>
      if rest.head? ≠ some '"' then failAt .missingStringParam rest pos
      else do
        let _ ← literal src pos
        failAt .missingStringEnd rest pos
  | .parametersEnd => failAt .missingParenEnd rest pos
  | .groupEnd => misplaced .missingRightParen rest pos
  | .lessDepth => failAt .unexpectedSymbol rest pos

def testOf [PatternEngine] (read : PatternReader) (src : Text) (call : Call) : Compiling Test := do
  let (t, stop) ← literal src call.quote
  if t.isEmpty then return .always
  else if call.function.takesPattern then
    match read t with
    | .ok p => return .search call.function (.pattern t p)
    | .error reason => do
        let length ← checked (minus stop call.quote)
        fail ⟨.invalidRegex, call.quote, length, reason⟩
  else return .search call.function (.substring t)

end ConditionSource

def compileCondition [PatternEngine] (read : PatternReader) (src : Text) : Compiling Condition :=
  match ConditionSource.parse src with
  | .error (wanted, pos) => ConditionSource.syntaxError src wanted pos
  | .ok none => return .test .always
  | .ok (some p) => p.mapM (ConditionSource.testOf read src)

variable {src : Text} {c : Cursor} {fault : SourceFault} {α : Type}

theorem mapM_told {β : Type} {P : α → Prop} {f : α → Compiling β} {g : α → Except SourceError β}
    (hf : ∀ a, P a → f a = told id (g a)) {p : Formula α} (hp : p.All P) :
    p.mapM f = told id (p.mapM g) := by
  have hbind {γ δ : Type} {x : Compiling γ} {y : Except SourceError γ} {k : γ → Compiling δ}
      {l : γ → Except SourceError δ} (hx : x = told id y) (hk : ∀ a, k a = told id (l a)) :
      (x >>= k) = told id (y >>= l) :=
    bind_told hx (Reports.of_true y) fun a _ => hk a
  induction p with
  | test a => exact hbind (hf a hp) fun _ => rfl
  | not p ih => exact hbind (ih hp) fun _ => rfl
  | and p q ihp ihq => exact hbind (ihp hp.1) fun _ => hbind (ihq hp.2) fun _ => rfl
  | or p q ihp ihq => exact hbind (ihp hp.1) fun _ => hbind (ihq hp.2) fun _ => rfl

namespace ConditionSource

open Cursor (Onward Past Spans)

theorem failAt_eq (c : Cursor) :
    (failAt fault c.ahead c.offset : Compiling α) = fail (.here fault c) := by
  simp [failAt, SourceError.here, SourceError.between, offset_next_eq]

theorem misplaced_eq (c : Cursor) :
    (misplaced fault c.ahead c.offset : Compiling α) = fail (Condition.misplaced fault c) := by
  have hword : sliceTo c.ahead ((findByte? (! isIdentifierPart ·) c.ahead).getD
      (byteCount c.ahead)) = .ok (Condition.word c) := by
    simpa [Condition.word] using sliceTo_findByte? (! isIdentifierPart ·) c.ahead
  have hlength : (findByte? (! isIdentifierPart ·) c.ahead).getD (byteCount c.ahead) =
      (Condition.afterWord c).offset - c.offset := by
    rw [findByte?_getD, Condition.afterWord,
      ← byteCount_of_spans (Cursor.spans_skipWhile isIdentifierPart c)]
    simp
  simp only [misplaced, Condition.misplaced, hword, checked_ok, compiling_ok_bind, failAt_eq]
  cases c.ahead.head?.any isIdentifierStart with
  | false => rfl
  | true =>
      cases hknown : ["or", "and", "not"].any (Condition.isKeyword · (Condition.word c)) ||
          (ConditionFunction.ofName? (Condition.word c)).isSome with
      | true => rfl
      | false =>
          rw [hlength]
          rfl

theorem syntaxError_eq {r : Refusal} (h : r.place.text = src) :
    (syntaxError src r.wanted r.place.offset : Compiling α) = fail r.error := by
  obtain ⟨wanted, c⟩ := r
  have hrest : (sliceFrom src c.offset).toOption.getD [] = c.ahead := by
    rw [sliceFrom_offset h]
    rfl
  simp only [syntaxError, hrest, failAt_eq, misplaced_eq]
  cases wanted with
  | text =>
      simp only [Refusal.error]
      by_cases hq : c.ahead.head? = some '"'
      · rw [if_neg (not_not_intro hq), if_neg (not_not_intro hq), literal_eq h hq]
        cases Quoted.decodeInSource c <;> rfl
      · rw [if_pos hq, if_pos hq]
  | _ => rfl

theorem testOf_eq [PatternEngine] {read : PatternReader} {f : ConditionFunction} {quote : Cursor}
    (h : (⟨f, quote⟩ : Condition.Call).IsIn src) :
    testOf read src ⟨f, quote.offset⟩ = told id (Condition.testOf read ⟨f, quote⟩) := by
  have hliteral : Reports (SourceError.Marks Condition.knows src) (fun r => Past quote r.2)
      (Quoted.decodeInSource quote) := Quoted.reports_decodeInSource h.1 h.2
  refine bind_told (literal_eq h.1 h.2) hliteral fun r hr => ?_
  obtain ⟨t, stop⟩ := r
  dsimp only [atOffset]
  by_cases hempty : t.isEmpty = true
  · rw [if_pos hempty, if_pos hempty]
    rfl
  · rw [if_neg hempty, if_neg hempty]
    by_cases hpattern : f.takesPattern = true
    · rw [if_pos hpattern, if_pos hpattern]
      cases read t with
      | ok p => rfl
      | error reason =>
          dsimp only
          rw [minus_eq_ok hr.onward.offset_le]
          rfl
    · rw [if_neg hpattern, if_neg hpattern]
      rfl

end ConditionSource

theorem compileCondition_eq [PatternEngine] (read : PatternReader) (src : Text) :
    compileCondition read src = told id (Condition.compileWith read src) := by
  have hplaces := Condition.Grammar.reports_ofSource src
  rw [compileCondition, ConditionSource.parse, Condition.compileWith,
    Condition.Grammar.ofSource_eq]
  cases hr : Condition.Grammar.ofSource src with
  | error r => exact ConditionSource.syntaxError_eq (hplaces.of_error hr)
  | ok p =>
      cases p with
      | none => rfl
      | some p =>
          have hp := hplaces.of_ok hr p rfl
          refine (Formula.mapM_map _ _ p).trans ?_
          exact mapM_told (fun _ => ConditionSource.testOf_eq) hp

end Bytewise

end ListingRules
