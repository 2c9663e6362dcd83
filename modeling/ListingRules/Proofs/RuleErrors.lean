import ListingRules.Proofs.SourceErrors
import ListingRules.Rule.Compile

namespace ListingRules

namespace Cursor

theorem onward_skipTriviaFrom (inComment : Bool) (behind ahead : Text) :
    Onward ⟨behind, ahead⟩ (skipTriviaFrom inComment behind ahead) := by
  fun_induction skipTriviaFrom inComment behind ahead with
  | case1 inComment behind => exact .refl _
  | case2 behind c ahead ih => exact (onward_next ⟨behind, c :: ahead⟩).trans ih
  | case3 behind c ahead _ ih => exact (onward_next ⟨behind, c :: ahead⟩).trans ih
  | case4 behind c ahead _ _ ih => exact (onward_next ⟨behind, c :: ahead⟩).trans ih
  | case5 behind c ahead => exact .refl _

theorem onward_skipTrivia (c : Cursor) : Onward c c.skipTrivia :=
  onward_skipTriviaFrom false c.behind c.ahead

theorem spans_identifier? {c d : Cursor} {id : Text} (h : c.identifier? = some (id, d)) :
    isIdentifier id = true ∧ Spans c d id ∧ Stops isIdentifierPart d.ahead := by
  simp only [identifier?] at h
  split at h
  · rename_i x t ha
    split at h
    · rename_i hx
      obtain ⟨rfl, rfl⟩ := Prod.mk.inj (Option.some.inj h)
      exact ⟨isIdentifier_takeWhile (by simp [ha, hx]), spans_skipWhile _ c, stops_dropWhile _ _⟩
    · simp at h
  · simp at h

end Cursor

def RuleSet.knows (s : ColumnSet) : SourceFault → Text → Bool
  | .unknownFunction, name => (RuleFunction.ofName? name).isSome
  | .unknownColumn, name => (ColumnRef.flag? name).isSome || (s.find? name).isSome
  | .unknownStateVar, name => (Operand.ofKeyword? name).isSome
  | _, _ => false

theorem isPlain_of_checkComparison {s : ColumnSet} {l r : Operand} {op : Operator} {w : Written}
    {fault : SourceFault} (h : checkComparison s l op r w = .error fault) :
    fault.isPlain = true := by
  rw [checkComparison] at h
  split at h
  · split at h
    · exact Except.error.inj h ▸ rfl
    · rcases ite_eq_iff.1 h with ⟨-, h⟩ | ⟨-, h⟩
      · cases h
      · exact Except.error.inj h ▸ rfl
  · exact Except.error.inj h ▸ rfl

namespace Call

variable {s : ColumnSet} {call : Call} {w : Written} {fault : TypeFault}

theorem isPlain_of_monthList {check : Text → Bool} {names : SourceFault} {p : Param}
    (hnames : names.isPlain = true) (h : monthList check names p = .error fault) :
    fault.fault.isPlain = true := by
  simp only [monthList] at h
  split at h
  · split at h
    · simp at h
    · exact Except.error.inj h ▸ hnames
  · exact Except.error.inj h ▸ rfl

theorem isPlain_of_check (h : call.check s w = .error fault) : fault.fault.isPlain = true := by
  have hmonth : ∀ fault, call.checkMonthList = .error fault → fault.fault.isPlain = true := by
    intro fault h
    simp only [checkMonthList] at h
    split at h
    · exact isPlain_of_monthList (by rfl) h
    · exact isPlain_of_monthList (by rfl) h
    · simp at h
  simp only [check, bind, Except.bind] at h
  split at h
  · split at h
    · rename_i hlist
      exact Except.error.inj h ▸ hmonth _ hlist
    · split at h
      · exact Except.error.inj h ▸ rfl
      · split at h <;> simp at h
  · exact Except.error.inj h ▸ rfl

end Call

namespace RuleSet.Source

open Cursor (Onward Past Spans)
open SourceError (Marks marks_between marks_plain marks_point marks_here)

variable {s : ColumnSet} {source : Text} {c : Cursor} {missing : SourceFault}

theorem reports_token (hm : missing.isPlain = true) (hc : c.text = source) :
    Reports (Marks (knows s) source) (fun d => Onward c d) (token missing c) := by
  have hd := Cursor.onward_skipTrivia c
  simp only [token]
  split
  · exact marks_point hm (hd.text_eq.trans hc)
  · exact hd

theorem reports_identifier (hm : missing.isPlain = true) (hc : c.text = source) :
    Reports (Marks (knows s) source)
      (fun r => isIdentifier r.1 = true ∧ Spans c r.2 r.1 ∧ Stops isIdentifierPart r.2.ahead)
      (identifier missing c) := by
  simp only [identifier]
  split
  · rename_i r hr
    exact Cursor.spans_identifier? hr
  · exact marks_here hm hc

theorem reports_number (hc : c.text = source) :
    Reports (Marks (knows s) source) (fun r => Past c r.2) (number c) := by
  have hsign : Onward c
      (if c.ahead.head? = some '+' ∨ c.ahead.head? = some '-' then c.next else c) := by
    split
    · exact Cursor.onward_next c
    · exact .refl c
  simp only [number]
  generalize (if c.ahead.head? = some '+' ∨ c.ahead.head? = some '-' then c.next else c) = d
    at hsign ⊢
  generalize (if c.ahead.head? = some '-' then _ else _ : Int) = n
  split
  · exact marks_plain (by rfl) hc
      (hsign.trans (Cursor.onward_skipWhile Char.isDigit d))
  · rename_i hdigits
    simp only [not_or, List.isEmpty_iff] at hdigits
    exact hsign.past ⟨_, hdigits.1, Cursor.spans_skipWhile Char.isDigit d⟩

theorem reports_column (hc : c.text = source) (hbracket : c.ahead.head? = some '<') :
    Reports (Marks (knows s) source) (fun r => Past c r.2) (column s c) := by
  have hopen := Cursor.past_next hbracket
  refine (reports_token (by rfl) (hopen.text_eq.trans hc)).bind fun start hstart => ?_
  have hstart := hopen.trans hstart
  have htext := hstart.text_eq.trans hc
  refine (reports_identifier (by rfl) htext).bind fun r hr => ?_
  obtain ⟨id, stop⟩ := r
  obtain ⟨hid, hspans, hstops⟩ := hr
  have hstop : Past c stop := hstart.trans ⟨id, hspans⟩
  have hbehind := stop.onward_skipTrivia
  have hend (ref : ColumnRef) : Reports (Marks (knows s) source) (fun r => Past c r.2)
      (if stop.skipTrivia.ahead.head? = some '>' then .ok (ref, stop.skipTrivia.next)
        else .error (.point .missingColumnIdEnd stop.skipTrivia)) := by
    split
    · exact hstop.trans (hbehind.trans (Cursor.onward_next _))
    · exact marks_point (by rfl) (hbehind.text_eq.trans (hstop.text_eq.trans hc))
  dsimp only
  split
  · exact hend _
  · rename_i hflag
    split
    · rename_i hfind
      exact marks_between htext hspans ⟨hid, hstops, by simp [knows, hflag, hfind]⟩
    · split
      · exact hend _
      · exact marks_plain (by rfl) htext ⟨id, hspans⟩

theorem reports_keyword (hc : c.text = source) :
    Reports (Marks (knows s) source) (fun r => Past c r.2) (keyword c) := by
  refine (reports_identifier (by rfl) hc).bind fun r hr => ?_
  obtain ⟨name, stop⟩ := r
  obtain ⟨hname, hspans, hstops⟩ := hr
  dsimp only
  split
  · exact Cursor.past_of_isIdentifier hname hspans
  · rename_i hunknown
    exact marks_between hc hspans ⟨hname, hstops, by simp [knows, hunknown]⟩

theorem reports_operand (hc : c.text = source) :
    Reports (Marks (knows s) source) (fun r => Past c r.2) (operand s c) := by
  simp only [operand]
  split
  · rename_i hbracket
    exact (reports_column hc hbracket).map fun _ h => h
  · rename_i hquote
    exact (Quoted.reports_decodeInSource hc hquote).map fun _ h => h
  · split
    · exact (reports_number hc).map fun _ h => h
    · exact reports_keyword hc
  · exact reports_keyword hc

def Located.IsIn (source : Text) (p : Located) : Prop :=
  p.start.text = source ∧ Onward p.start p.stop

theorem reports_param {w : Written} (hc : c.text = source) :
    Reports (Marks (knows s) source) (fun r => r.1.IsIn source ∧ Past c r.2) (param s w c) := by
  refine (reports_operand hc).bind fun r hr => ?_
  obtain ⟨left, stop⟩ := r
  have hstop : Past c stop := hr
  refine (reports_token (by rfl) (hstop.text_eq.trans hc)).bind fun d hd => ?_
  have hd := hstop.trans hd
  dsimp only
  split
  · exact ⟨⟨hc, hstop.onward⟩, hd⟩
  · rename_i op _
    have hop := hd.trans (Cursor.onward_advance op.name.length d)
    refine (reports_token (by rfl) (hop.text_eq.trans hc)).bind fun f hf => ?_
    have hf := hop.trans hf
    have htext := hf.text_eq.trans hc
    split
    · exact marks_here (by rfl) htext
    · refine (reports_operand htext).bind fun r hr => ?_
      obtain ⟨right, stop⟩ := r
      have hright : Past c stop := hf.trans hr.onward
      dsimp only
      split
      · rename_i fault hfault
        exact marks_plain (isPlain_of_checkComparison hfault) hc hright.onward
      · refine (reports_token (by rfl) (hright.text_eq.trans hc)).bind fun g hg => ?_
        have hg := hright.trans hg
        split
        · exact marks_plain (by rfl) (hg.text_eq.trans hc) (Cursor.onward_advance _ g)
        · exact ⟨⟨hc, hright.onward⟩, hg⟩

theorem reports_params {w : Written} {n : Nat} {afterComma : Bool} (hc : c.text = source) :
    Reports (Marks (knows s) source) (fun r => (∀ p ∈ r.1, p.IsIn source) ∧ Past c r.2)
      (params s w n afterComma c) := by
  induction n generalizing afterComma c with
  | zero => exact marks_point (by rfl) hc
  | succ n ih =>
      refine (reports_token (by rfl) hc).bind fun d hd => ?_
      have htext := hd.text_eq.trans hc
      dsimp only
      split
      · exact marks_here (by rfl) htext
      · split
        · rename_i hparen
          split
          · exact marks_here (by rfl) htext
          · exact ⟨by simp, hd.past (Cursor.past_next hparen)⟩
        · refine (reports_param htext).bind fun r hr => ?_
          obtain ⟨p, e⟩ := r
          obtain ⟨hp, he⟩ := hr
          have he := hd.past he
          have hmore {b : Bool} {f : Cursor} (hf : Onward e f) :
              Reports (Marks (knows s) source) (fun r => (∀ p ∈ r.1, p.IsIn source) ∧ Past c r.2)
                ((params s w n b f).map fun r => (p :: r.1, r.2)) := by
            have hf := he.trans hf
            refine (ih (hf.text_eq.trans hc)).map fun r hr => ⟨?_, hf.trans hr.2.onward⟩
            simpa using ⟨hp, hr.1⟩
          dsimp only
          split
          · exact hmore (Cursor.onward_next e)
          · split
            · exact hmore (.refl e)
            · exact marks_here (by rfl) (he.text_eq.trans hc)

theorem reports_call {size : Nat} {w : Written} (hc : c.text = source) :
    Reports (Marks (knows s) source) (fun r => Past c r.2) (call s size w c) := by
  refine (reports_identifier (by rfl) hc).bind fun r hr => ?_
  obtain ⟨name, stop⟩ := r
  obtain ⟨hname, hspans, hstops⟩ := hr
  dsimp only
  split
  · rename_i function hfunction
    have hstop := Cursor.past_of_isIdentifier hname hspans
    have hparen := hstop.trans (stop.onward_skipTrivia.trans (Cursor.onward_next _))
    split
    · exact marks_plain (by rfl) hc hstop.onward
    · refine (reports_params (hparen.text_eq.trans hc)).bind fun r hr => ?_
      obtain ⟨located, d⟩ := r
      obtain ⟨hlocated, hd⟩ := hr
      have hd : Past c d := hparen.trans hd.onward
      dsimp only
      split
      · exact hd
      · rename_i fault hfault
        have hplain := Call.isPlain_of_check hfault
        split
        · rename_i p hp
          obtain ⟨i, -, hi⟩ := Option.bind_eq_some_iff.1 hp
          obtain ⟨hp, hon⟩ := hlocated p (List.mem_of_getElem? hi)
          exact marks_plain hplain hp hon
        · exact marks_plain hplain hc hd.onward
  · rename_i hunknown
    have hnone := Option.eq_none_iff_forall_ne_some.2 hunknown
    exact marks_between hc hspans ⟨hname, hstops, by simp [knows, hnone]⟩

theorem reports_calls {size n : Nat} {afterComma : Bool} {w : Written} (hc : c.text = source) :
    Reports (Marks (knows s) source) (fun r => Past c r.2) (calls s size n afterComma w c) := by
  induction n generalizing afterComma w c with
  | zero => exact marks_point (by rfl) hc
  | succ n ih =>
      refine (reports_token (by rfl) hc).bind fun d hd => ?_
      have htext := hd.text_eq.trans hc
      dsimp only
      split
      · rename_i hend
        split
        · exact marks_here (by rfl) htext
        · exact hd.past (Cursor.past_next hend)
      · refine (reports_call htext).bind fun r hr => ?_
        obtain ⟨⟨first, written⟩, e⟩ := r
        have he : Past c e := hd.past hr
        refine (reports_token (by rfl) (he.text_eq.trans hc)).bind fun f hf => ?_
        have hf := he.trans hf
        have hmore {b : Bool} {g : Cursor} (hg : Onward f g) :
            Reports (Marks (knows s) source) (fun r => Past c r.2)
              ((calls s size n b written g).map fun r => (first :: r.1, r.2)) := by
          have hg := hf.trans hg
          exact (ih (hg.text_eq.trans hc)).map fun r hr => hg.trans hr.onward
        dsimp only
        split
        · exact hmore (Cursor.onward_next f)
        · split
          · exact hmore (.refl f)
          · exact marks_here (by rfl) (hf.text_eq.trans hc)

theorem reports_rules {size n : Nat} (hc : c.text = source) :
    Reports (Marks (knows s) source) (fun _ => True) (rules s size n c) := by
  induction n generalizing c with
  | zero => exact marks_point (by rfl) hc
  | succ n ih =>
      have hd := c.onward_skipTrivia
      simp only [rules]
      split
      · exact trivial
      · split
        · have hnext := hd.trans c.skipTrivia.onward_next
          refine (reports_calls (hnext.text_eq.trans hc)).bind fun r hr => ?_
          have hr := hnext.past hr
          exact (ih (hr.text_eq.trans hc)).bind fun _ _ => trivial
        · exact marks_here (by rfl) (hd.text_eq.trans hc)

end RuleSet.Source

theorem RuleSet.marks_of_compile {s : ColumnSet} {source : Text} {e : SourceError}
    (h : RuleSet.compile source s = .error e) : e.Marks (RuleSet.knows s) source := by
  let size := source.length + 1
  have hrules : Reports (SourceError.Marks (RuleSet.knows s) source) (fun _ => True)
      (Source.rules s size size (.ofText source)) :=
    Source.reports_rules (Cursor.text_ofText source)
  have hcompile : Reports (SourceError.Marks (RuleSet.knows s) source) (fun _ => True)
      (RuleSet.compile source s) := by
    refine hrules.bind fun rs _ => ?_
    split
    · exact SourceError.marks_point (by rfl) (Cursor.text_toEnd _)
    · exact trivial
  exact hcompile.of_error h

end ListingRules
