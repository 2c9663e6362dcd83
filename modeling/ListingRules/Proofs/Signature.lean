import ListingRules.Rule.Typing

namespace ListingRules

namespace Param

variable {s : ColumnSet} {t : OperandType} {p : Param}

theorem column?_eq_some {c : ColumnRef} (h : p.column? s t = some c) :
    p = .operand (.column c) ∧ s.operandType? c = some t := by
  simp only [column?] at h
  split at h
  · split at h
    · rename_i hc
      obtain rfl := Option.some.inj h
      exact ⟨rfl, hc⟩
    · simp at h
  · simp at h

theorem isValue_number (h : p.isValue .number = true) : ∃ n, p = .operand (.number n) := by
  rcases p with (_ | _ | _ | n | v) | _
  case operand.number => exact ⟨n, rfl⟩
  case operand.state => cases v <;> simp [isValue, StateVar.operandType] at h
  all_goals simp [isValue] at h

theorem isValue_text (h : p.isValue .text = true) : ∃ o, p = .operand o := by
  cases p with
  | operand o => exact ⟨o, rfl⟩
  | comparison l op r => simp [isValue] at h

theorem isValue_operand {o : Operand} (h : (operand o).isValue t = true) :
    o.type? s = some t ∧ ∀ c, o ≠ .column c := by
  cases o with
  | column c => simp [isValue] at h
  | bool b =>
      have ht : t = _ := eq_of_beq h
      exact ⟨congrArg some ht.symm, by simp⟩
  | text x =>
      have ht : t = _ := eq_of_beq h
      exact ⟨congrArg some ht.symm, by simp⟩
  | number n =>
      have ht : t = _ := eq_of_beq h
      exact ⟨congrArg some ht.symm, by simp⟩
  | state v =>
      have ht : t = _ := eq_of_beq h
      exact ⟨congrArg some ht.symm, by simp⟩

end Param

theorem checkComparison_ok {s : ColumnSet} {l r : Operand} {op : Operator} {w : Written}
    (h : checkComparison s l op r w = .ok ()) :
    ∃ t, l.type? s = some t ∧ r.type? s = some t ∧ (op.isTextual = true → t = .text) ∧
      (∀ c, l = .column c → w.readable s c = true) ∧
      ∀ c, r = .column c → w.readable s c = true := by
  simp only [checkComparison] at h
  split at h
  · rename_i t u hl hr
    split at h
    · simp at h
    · rename_i htype
      simp only [ne_eq, not_or, not_and, Decidable.not_not] at htype
      obtain ⟨rfl, htext⟩ := htype
      simp only [ite_eq_left_iff, reduceCtorEq, imp_false, Decidable.not_not,
        Bool.and_eq_true] at h
      refine ⟨t, hl, hr, htext, ?_, ?_⟩
      · rintro c rfl
        exact h.1
      · rintro c rfl
        exact h.2
  · simp at h

namespace Call

inductive Accepted (s : ColumnSet) : Call → Effect → Prop
  | bare {f : RuleFunction} :
      f = .skipWhiteSpaces ∨ f = .skipToNumber ∨ f = .whiteSpacesAndLineEnds ∨
        f = .whiteSpaces ∨ f = .restOfLine ∨ f = .word →
      Accepted s ⟨f, []⟩ {}
  | counted {f : RuleFunction} (n : Int) :
      f = .whiteSpaces ∨ f = .back ∨ f = .all →
      Accepted s ⟨f, [.operand (.number n)]⟩ {}
  | token {f : RuleFunction} {c : ColumnRef} :
      f = .restOfLine ∨ f = .word ∨ f = .unixDevice → s.operandType? c = some .text →
      Accepted s ⟨f, [.operand (.column c)]⟩ { writes := some (c, .whole .text) }
  | number {f : RuleFunction} {c : ColumnRef} :
      f = .number ∨ f = .positiveNumber → s.operandType? c = some .number →
      Accepted s ⟨f, [.operand (.column c)]⟩ { writes := some (c, .whole .number) }
  | separated {c : ColumnRef} {o : Operand} :
      s.operandType? c = some .number → (Param.operand o).isValue .text = true →
      Accepted s ⟨.numberWithSeparators, [.operand (.column c), .operand o]⟩
        { writes := some (c, .whole .number) }
  | month {f : RuleFunction} {c : ColumnRef} :
      f = .month3 ∨ f = .monthTxt ∨ f = .month → s.operandType? c = some .date →
      Accepted s ⟨f, [.operand (.column c)]⟩ { writes := some (c, { month := true }) }
  | listedMonth {f : RuleFunction} {c : ColumnRef} (names : Text) :
      f = .month3 ∨ f = .monthTxt → s.operandType? c = some .date →
      Accepted s ⟨f, [.operand (.column c), .operand (.text names)]⟩
        { writes := some (c, { month := true }) }
  | day {c : ColumnRef} : s.operandType? c = some .date →
      Accepted s ⟨.day, [.operand (.column c)]⟩ { writes := some (c, { day := true }) }
  | year {c : ColumnRef} : s.operandType? c = some .date →
      Accepted s ⟨.year, [.operand (.column c)]⟩ { writes := some (c, { year := true }) }
  | time {c : ColumnRef} : s.operandType? c = some .time →
      Accepted s ⟨.time, [.operand (.column c)]⟩ { writes := some (c, .whole .time) }
  | yearOrTime {c d : ColumnRef} :
      s.operandType? c = some .date → s.operandType? d = some .time →
      Accepted s ⟨.yearOrTime, [.operand (.column c), .operand (.column d)]⟩
        { writes := some (c, { year := true }) }
  | chars {c : ColumnRef} (n : Int) : s.operandType? c = some .text →
      Accepted s ⟨.all, [.operand (.column c), .operand (.number n)]⟩
        { writes := some (c, .whole .text) }
  | passTo {o : Operand} : (Param.operand o).isValue .text = true →
      Accepted s ⟨.allTo, [.operand o]⟩ {}
  | takeTo {f : RuleFunction} {c : ColumnRef} {o : Operand} :
      f = .allTo ∨ f = .allUpTo → s.operandType? c = some .text →
      (Param.operand o).isValue .text = true →
      Accepted s ⟨f, [.operand (.column c), .operand o]⟩ { writes := some (c, .whole .text) }
  | link {c : ColumnRef} :
      s.operandType? (.declared s.nameIndex) = some .text → s.operandType? c = some .text →
      Accepted s ⟨.unixLink, [.operand (.column .isDir),
        .operand (.column (.declared s.nameIndex)), .operand (.column c)]⟩
        { writes := some (.declared s.nameIndex, .whole .text) }
  | require {p : Param} : p.isValue .boolean = true → Accepted s ⟨.require, [p]⟩ {}
  | requireFlag {c : ColumnRef} : s.operandType? c = some .boolean →
      Accepted s ⟨.require, [.operand (.column c)]⟩ { reads := [(0, c)] }
  | assignColumn {t : OperandType} {c d : ColumnRef} :
      s.operandType? c = some t → s.operandType? d = some t →
      Accepted s ⟨.assign, [.operand (.column c), .operand (.column d)]⟩
        { reads := [(1, d)], writes := some (c, .whole t) }
  | assignValue {t : OperandType} {c : ColumnRef} {p : Param} :
      s.operandType? c = some t → p.isValue t = true →
      Accepted s ⟨.assign, [.operand (.column c), p]⟩ { writes := some (c, .whole t) }
  | cut {f : RuleFunction} {c : ColumnRef} :
      f = .cutWhiteSpacesEnd ∨ f = .cutWhiteSpacesStart ∨ f = .cutWhiteSpaces →
      s.operandType? c = some .text →
      Accepted s ⟨f, [.operand (.column c)]⟩ { reads := [(0, c)] }
  | addColumn {c d : ColumnRef} :
      s.operandType? c = some .text → s.operandType? d = some .text →
      Accepted s ⟨.addStringToColumn, [.operand (.column c), .operand (.column d)]⟩
        { reads := [(0, c), (1, d)] }
  | addValue {c : ColumnRef} {o : Operand} :
      s.operandType? c = some .text → (Param.operand o).isValue .text = true →
      Accepted s ⟨.addStringToColumn, [.operand (.column c), .operand o]⟩ { reads := [(0, c)] }
  | cutEnd {c : ColumnRef} (n : Int) : s.operandType? c = some .text →
      Accepted s ⟨.cutEndOfString, [.operand (.column c), .operand (.number n)]⟩
        { reads := [(0, c)] }

variable {s : ColumnSet} {call : Call} {eff : Effect}

theorem accepted_writing {f : RuleFunction} {t : OperandType} {parts : Parts} {p : Param}
    {rest : List Param} (h : writing s t parts p = some eff)
    (hf : ∀ c, s.operandType? c = some t →
      Accepted s ⟨f, .operand (.column c) :: rest⟩ { writes := some (c, parts) }) :
    Accepted s ⟨f, p :: rest⟩ eff := by
  simp only [writing, Option.map_eq_some_iff] at h
  obtain ⟨c, hc, rfl⟩ := h
  obtain ⟨rfl, ht⟩ := Param.column?_eq_some hc
  exact hf c ht

theorem accepted_reading {f : RuleFunction} {t : OperandType} {p : Param} {rest : List Param}
    (h : reading s t p = some eff)
    (hf : ∀ c, s.operandType? c = some t →
      Accepted s ⟨f, .operand (.column c) :: rest⟩ { reads := [(0, c)] }) :
    Accepted s ⟨f, p :: rest⟩ eff := by
  simp only [reading, Option.map_eq_some_iff] at h
  obtain ⟨c, hc, rfl⟩ := h
  obtain ⟨rfl, ht⟩ := Param.column?_eq_some hc
  exact hf c ht

theorem harmless_eq_some {b : Bool} (h : harmless b = some eff) : b = true ∧ eff = {} := by
  simp only [harmless] at h
  split at h
  · rename_i hb
    exact ⟨hb, (Option.some.inj h).symm⟩
  · simp at h

theorem accepted_counted {f : RuleFunction} {p : Param}
    (h : harmless (p.isValue .number) = some eff) (hf : f = .whiteSpaces ∨ f = .back ∨ f = .all) :
    Accepted s ⟨f, [p]⟩ eff := by
  obtain ⟨hp, rfl⟩ := harmless_eq_some h
  obtain ⟨n, rfl⟩ := Param.isValue_number hp
  exact .counted n hf

theorem accepted_listedMonth {f : RuleFunction} {p names : Param}
    {check : Text → Bool} {fault : SourceFault}
    (h : (if names.isValue .text = true then writing s .date { month := true } p else none) =
      some eff)
    (hm : monthList check fault names = .ok ()) (hf : f = .month3 ∨ f = .monthTxt) :
    Accepted s ⟨f, [p, names]⟩ eff := by
  -- the check of the list lets no other value than a literal through
  simp only [monthList] at hm
  split at hm
  · split at h
    · exact accepted_writing h fun c hc => .listedMonth _ hf hc
    · simp at h
  · simp at hm

theorem accepted_takeTo {f : RuleFunction} {p t : Param}
    (h : (if t.isValue .text = true then writing s .text (.whole .text) p else none) = some eff)
    (hf : f = .allTo ∨ f = .allUpTo) : Accepted s ⟨f, [p, t]⟩ eff := by
  split at h
  · rename_i ht
    obtain ⟨o, rfl⟩ := Param.isValue_text ht
    exact accepted_writing h fun c hc => .takeTo hf hc ht
  · simp at h

theorem accepted_assigning {target value : Param} (h : assigning s target value = some eff) :
    Accepted s ⟨.assign, [target, value]⟩ eff := by
  obtain ⟨t, -, ht⟩ := List.exists_of_findSome?_eq_some h
  simp only [Option.bind_eq_bind, Option.bind_eq_some_iff] at ht
  obtain ⟨c, hc, ht⟩ := ht
  obtain ⟨rfl, hct⟩ := Param.column?_eq_some hc
  split at ht
  · rename_i d hd
    obtain ⟨rfl, hdt⟩ := Param.column?_eq_some hd
    obtain rfl := Option.some.inj ht
    exact .assignColumn hct hdt
  · split at ht
    · rename_i hv
      obtain rfl := Option.some.inj ht
      exact .assignValue hct hv
    · simp at ht

theorem accepted_adding {c t : Param}
    (h : effect? s ⟨.addStringToColumn, [c, t]⟩ = some eff) :
    Accepted s ⟨.addStringToColumn, [c, t]⟩ eff := by
  simp only [effect?, Option.bind_eq_bind, Option.bind_eq_some_iff] at h
  obtain ⟨c, hc, h⟩ := h
  obtain ⟨rfl, hct⟩ := Param.column?_eq_some hc
  split at h
  · rename_i d hd
    obtain ⟨rfl, hdt⟩ := Param.column?_eq_some hd
    obtain rfl := Option.some.inj h
    exact .addColumn hct hdt
  · split at h
    · rename_i hv
      obtain ⟨o, rfl⟩ := Param.isValue_text hv
      obtain rfl := Option.some.inj h
      exact .addValue hct hv
    · simp at h

theorem accepted_of_effect? (h : call.effect? s = some eff)
    (hm : call.checkMonthList = .ok ()) : call.Accepted s eff := by
  obtain ⟨f, ps⟩ := call
  -- one case for each row of the table of effects, in its order
  simp only [effect?] at h
  split at h
  · exact Option.some.inj h ▸ .bare (by simp)
  · exact Option.some.inj h ▸ .bare (by simp)
  · exact Option.some.inj h ▸ .bare (by simp)
  · exact Option.some.inj h ▸ .bare (by simp)
  · exact accepted_counted h (by simp)
  · exact accepted_counted h (by simp)
  · exact Option.some.inj h ▸ .bare (by simp)
  · exact Option.some.inj h ▸ .bare (by simp)
  · exact accepted_writing h fun c => .token (by simp)
  · exact accepted_writing h fun c => .token (by simp)
  · exact accepted_writing h fun c => .token (by simp)
  · exact accepted_writing h fun c => .number (by simp)
  · exact accepted_writing h fun c => .number (by simp)
  · split at h
    · rename_i ht
      obtain ⟨o, rfl⟩ := Param.isValue_text ht
      exact accepted_writing h fun c hc => .separated hc ht
    · simp at h
  · exact accepted_writing h fun c => .month (by simp)
  · exact accepted_writing h fun c => .month (by simp)
  · exact accepted_writing h fun c => .month (by simp)
  · exact accepted_listedMonth h hm (by simp)
  · exact accepted_listedMonth h hm (by simp)
  · exact accepted_writing h fun c => .day
  · exact accepted_writing h fun c => .year
  · exact accepted_writing h fun c => .time
  · split at h
    · rename_i ht
      obtain ⟨d, hd⟩ := Option.isSome_iff_exists.1 ht
      obtain ⟨rfl, hdt⟩ := Param.column?_eq_some hd
      exact accepted_writing h fun c hc => .yearOrTime hc hdt
    · simp at h
  · exact accepted_counted h (by simp)
  · split at h
    · rename_i hn
      obtain ⟨n, rfl⟩ := Param.isValue_number hn
      exact accepted_writing h fun c => .chars n
    · simp at h
  · obtain ⟨ht, rfl⟩ := harmless_eq_some h
    obtain ⟨o, rfl⟩ := Param.isValue_text ht
    exact .passTo ht
  · exact accepted_takeTo h (by simp)
  · exact accepted_takeTo h (by simp)
  · split at h
    · rename_i hp
      obtain ⟨rfl, rfl, hl⟩ := hp
      obtain ⟨c, hc⟩ := Option.isSome_iff_exists.1 hl
      obtain ⟨rfl, hct⟩ := Param.column?_eq_some hc
      simp only [writing, Option.map_eq_some_iff] at h
      obtain ⟨d, hd, rfl⟩ := h
      obtain ⟨hd, hdt⟩ := Param.column?_eq_some hd
      obtain rfl : .declared s.nameIndex = d := by simpa using hd
      exact .link hdt hct
    · simp at h
  · split at h
    · rename_i hp
      exact Option.some.inj h ▸ .require hp
    · exact accepted_reading h fun c => .requireFlag
  · exact accepted_assigning h
  · exact accepted_reading h fun c => .cut (by simp)
  · exact accepted_reading h fun c => .cut (by simp)
  · exact accepted_reading h fun c => .cut (by simp)
  · exact accepted_adding h
  · split at h
    · rename_i hn
      obtain ⟨n, rfl⟩ := Param.isValue_number hn
      exact accepted_reading h fun c => .cutEnd n
    · simp at h
  · simp at h

end Call

namespace Effect

def addTo (eff : Effect) (w : Written) : Written :=
  match eff.writes with
  | some (c, parts) => w.add parts c
  | none => w

end Effect

namespace Call

variable {s : ColumnSet} {call : Call} {w v : Written}

theorem accepted_of_check (h : call.check s w = .ok v) :
    ∃ eff, call.Accepted s eff ∧ (∀ r ∈ eff.reads, w.readable s r.2 = true) ∧ v = eff.addTo w := by
  simp only [check, bind, Except.bind] at h
  split at h
  · rename_i eff heff
    split at h
    · simp at h
    · rename_i hm
      refine ⟨eff, accepted_of_effect? heff hm, ?_⟩
      split at h
      · simp at h
      · rename_i hreads
        refine ⟨fun r hr => ?_, ?_⟩
        · simpa using List.find?_eq_none.1 hreads r hr
        · cases hw : eff.writes with
          | none => simpa [Effect.addTo, hw] using h.symm
          | some write => simpa [Effect.addTo, hw] using h.symm
  · simp at h

end Call

end ListingRules
