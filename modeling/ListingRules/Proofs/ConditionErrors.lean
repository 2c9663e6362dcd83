import ListingRules.Condition.Compile
import ListingRules.Proofs.ConditionGrammar

namespace ListingRules

namespace Formula

variable {ε α β : Type} {P : α → Prop} {R : ε → Prop}

theorem reports_mapM {f : α → Except ε β} (hf : ∀ a, P a → Reports R (fun _ => True) (f a))
    {p : Formula α} (hp : p.All P) : Reports R (fun _ => True) (p.mapM f) := by
  induction p with
  | test a => exact (hf a hp).bind fun _ _ => trivial
  | not p ih => exact (ih hp).bind fun _ _ => trivial
  | and p q ihp ihq => exact (ihp hp.1).bind fun _ _ => (ihq hp.2).bind fun _ _ => trivial
  | or p q ihp ihq => exact (ihp hp.1).bind fun _ _ => (ihq hp.2).bind fun _ _ => trivial

end Formula

namespace Condition

open SourceError (Marks marks_between marks_plain marks_here)

def knows : SourceFault → Text → Bool
  | .unknownFunction, name =>
      ["or", "and", "not"].any (isKeyword · name) || (ConditionFunction.ofName? name).isSome
  | _, _ => false

variable {source : Text} {c : Cursor} {fault : SourceFault}

theorem marks_misplaced (hf : fault.isPlain = true) (hc : c.text = source) :
    (misplaced fault c).Marks knows source := by
  simp only [misplaced]
  split
  · rename_i h
    simp only [Bool.and_eq_true, Bool.not_eq_true'] at h
    exact marks_between hc (Cursor.spans_skipWhile isIdentifierPart c)
      ⟨Cursor.isIdentifier_takeWhile h.1, stops_dropWhile _ _, h.2⟩
  · exact marks_here hf hc

theorem Refusal.marks_error {r : Refusal} (h : r.place.text = source) :
    r.error.Marks knows source := by
  obtain ⟨wanted, c⟩ := r
  cases wanted with
  | operand => exact marks_misplaced (by rfl) h
  | parametersStart => exact marks_here (by rfl) h
  | text =>
      simp only [error]
      split
      · exact marks_here (by rfl) h
      · rename_i hq
        have hq : c.ahead.head? = some '"' := by simpa using hq
        split
        · rename_i he
          exact (Quoted.reports_decodeInSource h hq).of_error he
        · obtain ⟨t, ht⟩ := List.head?_eq_some_iff.1 hq
          exact marks_between h (Cursor.spans_next ht) rfl
  | parametersEnd => exact marks_here (by rfl) h
  | groupEnd => exact marks_misplaced (by rfl) h
  | lessDepth => exact marks_here (by rfl) h

theorem reports_testOf [PatternEngine] {read : PatternReader} {call : Call} (h : call.IsIn source) :
    Reports (Marks knows source) (fun _ => True) (testOf read call) := by
  refine (Quoted.reports_decodeInSource h.1 h.2).bind fun r hr => ?_
  obtain ⟨t, stop⟩ := r
  dsimp only
  split
  · exact trivial
  · split
    · split
      · exact trivial
      · exact (marks_plain (by rfl) h.1 hr.onward).with_detail _
    · exact trivial

theorem marks_of_compileWith [PatternEngine] {read : PatternReader} {e : SourceError}
    (h : compileWith read source = .error e) : e.Marks knows source := by
  have hplaces := Grammar.reports_ofSource source
  have hsource : Reports (Marks knows source) (fun r => ∀ p ∈ r, p.All (Call.IsIn source))
      (ofSource source) := by
    rw [Grammar.ofSource_eq]
    cases hr : Grammar.ofSource source with
    | ok r => exact hplaces.of_ok hr
    | error r => exact Refusal.marks_error (hplaces.of_error hr)
  have hcompile : Reports (Marks knows source) (fun _ => True) (compileWith read source) := by
    refine hsource.bind fun r hr => ?_
    split
    · trivial
    · exact Formula.reports_mapM (fun _ => reports_testOf) (hr _ rfl)
  exact hcompile.of_error h

end Condition

end ListingRules
