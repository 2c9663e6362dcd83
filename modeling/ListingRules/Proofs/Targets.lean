import ListingRules.Proofs.CellWrites
import ListingRules.Proofs.Signature

namespace ListingRules

namespace RuleFunction

def textual : List RuleFunction :=
  [restOfLine, word, unixDevice, all, allTo, allUpTo, unixLink, cutWhiteSpacesEnd,
   cutWhiteSpacesStart, cutWhiteSpaces, addStringToColumn, cutEndOfString]

end RuleFunction

namespace Call

inductive Takes : OperandType → ColumnRef → Call → Prop
  | text {f : RuleFunction} {ps : List Param} {c : ColumnRef} :
      f ∈ RuleFunction.textual → Takes .text c ⟨f, ps⟩
  | number {f : RuleFunction} {c : ColumnRef} :
      f = .number ∨ f = .positiveNumber → Takes .number c ⟨f, [.operand (.column c)]⟩
  | separated {c : ColumnRef} (o : Operand) :
      Takes .number c ⟨.numberWithSeparators, [.operand (.column c), .operand o]⟩
  | month {f : RuleFunction} {c : ColumnRef} :
      f = .month3 ∨ f = .monthTxt ∨ f = .month → Takes .date c ⟨f, [.operand (.column c)]⟩
  | listedMonth {f : RuleFunction} {c : ColumnRef} (names : Text) :
      f = .month3 ∨ f = .monthTxt →
      Takes .date c ⟨f, [.operand (.column c), .operand (.text names)]⟩
  | day {c : ColumnRef} : Takes .date c ⟨.day, [.operand (.column c)]⟩
  | year {c : ColumnRef} : Takes .date c ⟨.year, [.operand (.column c)]⟩
  | yearOrTime {c d : ColumnRef} : c ≠ d →
      Takes .date c ⟨.yearOrTime, [.operand (.column c), .operand (.column d)]⟩
  | timeOrYear {c d : ColumnRef} :
      Takes .time d ⟨.yearOrTime, [.operand (.column c), .operand (.column d)]⟩
  | time {c : ColumnRef} : Takes .time c ⟨.time, [.operand (.column c)]⟩
  | assign {t : OperandType} {c : ColumnRef} (o : Operand) :
      Takes t c ⟨.assign, [.operand (.column c), .operand o]⟩
  | assignFlag {c : ColumnRef} (p : Param) : Takes .boolean c ⟨.assign, [.operand (.column c), p]⟩

variable {s : ColumnSet} {call : Call} {eff : Effect} {c : ColumnRef} {t : OperandType}

theorem takes_assign {p : Param} (hp : p.isValue t = true) :
    Takes t c ⟨.assign, [.operand (.column c), p]⟩ := by
  cases p with
  | operand o => exact .assign o
  | comparison l op r =>
      obtain rfl : t = .boolean := eq_of_beq hp
      exact .assignFlag _

theorem Accepted.takes (h : call.Accepted s eff) (hc : c ∈ call.targets)
    (ht : s.operandType? c = some t) : Takes t c call := by
  have htarget {d : ColumnRef} {u : OperandType} (hcd : c = d) (hd : s.operandType? d = some u)
      (htakes : Takes u d call) : Takes t c call := by
    subst hcd
    obtain rfl := Option.some.inj (hd.symm.trans ht)
    exact htakes
  cases h with
  | bare hf => rcases hf with rfl | rfl | rfl | rfl | rfl | rfl <;> cases hc
  | counted n hf => rcases hf with rfl | rfl | rfl <;> cases hc
  | token hf hd =>
      rcases hf with rfl | rfl | rfl <;>
        exact htarget (List.mem_singleton.1 hc) hd (.text (by decide))
  | number hf hd =>
      rcases hf with rfl | rfl
      · exact htarget (List.mem_singleton.1 hc) hd (.number (.inl rfl))
      · exact htarget (List.mem_singleton.1 hc) hd (.number (.inr rfl))
  | separated hd hv => exact htarget (List.mem_singleton.1 hc) hd (.separated _)
  | month hf hd =>
      rcases hf with rfl | rfl | rfl
      · exact htarget (List.mem_singleton.1 hc) hd (.month (.inl rfl))
      · exact htarget (List.mem_singleton.1 hc) hd (.month (.inr (.inl rfl)))
      · exact htarget (List.mem_singleton.1 hc) hd (.month (.inr (.inr rfl)))
  | listedMonth names hf hd =>
      rcases hf with rfl | rfl
      · exact htarget (List.mem_singleton.1 hc) hd (.listedMonth names (.inl rfl))
      · exact htarget (List.mem_singleton.1 hc) hd (.listedMonth names (.inr rfl))
  | day hd => exact htarget (List.mem_singleton.1 hc) hd .day
  | year hd => exact htarget (List.mem_singleton.1 hc) hd .year
  | time hd => exact htarget (List.mem_singleton.1 hc) hd .time
  | yearOrTime hd hf =>
      rcases List.mem_cons.1 hc with hc | hc
      · refine htarget hc hd (.yearOrTime ?_)
        rintro rfl
        cases hd.symm.trans hf
      · exact htarget (List.mem_singleton.1 hc) hf .timeOrYear
  | chars n hd => exact htarget (List.mem_singleton.1 hc) hd (.text (by decide))
  | passTo hv => cases hc
  | takeTo hf hd hv =>
      rcases hf with rfl | rfl <;>
        exact htarget (List.mem_singleton.1 hc) hd (.text (by decide))
  | link hn hl =>
      rcases List.mem_cons.1 hc with hc | hc
      · exact htarget hc hn (.text (by decide))
      · exact htarget (List.mem_singleton.1 hc) hl (.text (by decide))
  | require hp => cases hc
  | requireFlag hd => cases hc
  | assignColumn hd hf => exact htarget (List.mem_singleton.1 hc) hd (.assign _)
  | assignValue hd hp => exact htarget (List.mem_singleton.1 hc) hd (takes_assign hp)
  | cut hf hd =>
      rcases hf with rfl | rfl | rfl <;>
        exact htarget (List.mem_singleton.1 hc) hd (.text (by decide))
  | addColumn hd hf => exact htarget (List.mem_singleton.1 hc) hd (.text (by decide))
  | addValue hd hv => exact htarget (List.mem_singleton.1 hc) hd (.text (by decide))
  | cutEnd n hd => exact htarget (List.mem_singleton.1 hc) hd (.text (by decide))

end Call

end ListingRules
