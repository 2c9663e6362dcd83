import ListingRules.Proofs.RowTyping

namespace ListingRules

namespace Listing

def Outcome.Ensures (P : Attempt → Prop) : Outcome → Prop
  | continues a => P a
  | skipsRest a => P a
  | fails _ => True
  | stuck => False

theorem Outcome.Ensures.mono {P Q : Attempt → Prop} {o : Outcome} (h : o.Ensures P)
    (hpq : ∀ a, P a → Q a) : o.Ensures Q := by
  cases o with
  | continues a => exact hpq a h
  | skipsRest a => exact hpq a h
  | fails left => exact trivial
  | stuck => exact h

theorem Outcome.Ensures.andThen {P Q : Attempt → Prop} {o : Outcome} {f : Attempt → Outcome}
    (h : o.Ensures P) (hf : ∀ a, P a → (f a).Ensures Q) (hs : ∀ a, o ≠ .skipsRest a) :
    (o.andThen f).Ensures Q := by
  cases o with
  | continues a => exact hf a h
  | skipsRest a => exact absurd rfl (hs a)
  | fails left => exact trivial
  | stuck => exact h

namespace Attempt

variable {e : Surroundings} {s : ColumnSet} {w : Written} {a : Attempt} {c : ColumnRef}
  {t : OperandType}

theorem ensures_modify {f : ColumnKind → Cell → Option Cell} {parts : Parts}
    (hk : a.row.Keeps s w) (hc : s.operandType? c = some t) (ht : t ≠ .boolean)
    (hf : ∀ k cell new, f k cell = some new → new.type? = some t ∧
      ∀ part, parts.has part = true ∨ (cell.Fits (some t) ∧ cell.filled.has part = true) →
        new.filled.has part = true) :
    (a.modify s f c).Ensures fun b => b.row.Keeps s (w.add parts c) := by
  cases c with
  | declared i =>
      obtain ⟨column, hcolumn, hkind⟩ := Row.exists_column hc
      obtain ⟨cell, hcell, hfits⟩ := hk.typed.exists_cell hcolumn
      obtain ⟨hlt, -⟩ := List.getElem?_eq_some_iff.1 hcell
      simp only [modify, hcolumn, hcell]
      cases hnew : f column.kind cell with
      | none => exact trivial
      | some new =>
          obtain ⟨htype, hparts⟩ := hf column.kind cell new hnew
          refine ⟨hk.typed.set hcolumn ?_, fun j part hw => ?_⟩
          · intro u hu
            rw [hkind, ← htype, hu]
          · by_cases hij : i = j
            · subst hij
              rw [Row.filled_set hlt]
              refine hparts part ?_
              rcases Written.has_add hw with hw | ⟨-, hp⟩
              · have hold := hk.holds i part hw
                simp only [Row.filled, hcell, Option.getD_some] at hold
                exact .inr ⟨hkind ▸ hfits, hold⟩
              · exact .inl hp
            · rw [Row.filled_set_of_ne hij]
              rcases Written.has_add hw with hw | ⟨hji, -⟩
              · exact hk.holds j part hw
              · exact absurd hji.symm hij
  | isDir => exact absurd (Option.some.inj hc).symm ht
  | isHidden => exact absurd (Option.some.inj hc).symm ht
  | isLink => exact absurd (Option.some.inj hc).symm ht

theorem ensures_setValue {f : ColumnKind → Cell → Option Cell} (hk : a.row.Keeps s w)
    (hc : s.operandType? c = some t) (ht : t ≠ .boolean) (hd : t ≠ .date)
    (hf : ∀ k cell new, f k cell = some new → new.type? = some t) :
    (a.modify s f c).Ensures fun b => b.row.Keeps s (w.add (.whole t) c) := by
  refine ensures_modify hk hc ht fun k cell new hnew => ?_
  have htype := hf k cell new hnew
  have hwhole : Parts.whole t = { value := true } := by
    cases t <;> first | rfl | exact absurd rfl hd
  refine ⟨htype, fun part hpart => ?_⟩
  rw [Cell.filled_eq_value htype hd]
  rcases hpart with hpart | ⟨hfits, hpart⟩
  · rwa [hwhole] at hpart
  · rwa [Cell.filled_eq_value (Cell.type?_of_has hfits hpart) hd] at hpart

theorem ensures_setText {x : Text} (hk : a.row.Keeps s w) (hc : s.operandType? c = some .text) :
    (a.setText s x c).Ensures fun b => b.row.Keeps s (w.add (.whole .text) c) := by
  refine ensures_setValue hk hc (by simp) (by simp) fun k cell new hnew => ?_
  obtain rfl := Option.some.inj hnew
  rfl

theorem ensures_setNumber {positiveOnly : Bool} {n : Int} (hk : a.row.Keeps s w)
    (hc : s.operandType? c = some .number) :
    (a.setNumber s positiveOnly n c).Ensures fun b =>
      b.row.Keeps s (w.add (.whole .number) c) := by
  refine ensures_setValue hk hc (by simp) (by simp) fun k cell new hnew => ?_
  obtain ⟨m, -, rfl⟩ := Option.map_eq_some_iff.1 hnew
  rfl

theorem ensures_setTime {x : Time} (hk : a.row.Keeps s w) (hc : s.operandType? c = some .time) :
    (a.setTime s x c).Ensures fun b => b.row.Keeps s (w.add (.whole .time) c) := by
  refine ensures_setValue hk hc (by simp) (by simp) fun k cell new hnew => ?_
  obtain rfl := Option.some.inj hnew
  rfl

theorem ensures_setDate {f : DateParts → DateParts} {parts : Parts} (hk : a.row.Keeps s w)
    (hc : s.operandType? c = some .date)
    (hf : ∀ d, (Cell.date (f d)).filled = (Cell.date d).filled.union parts) :
    (a.setDate s f c).Ensures fun b => b.row.Keeps s (w.add parts c) := by
  refine ensures_modify hk hc (by simp) fun k cell new hnew => ?_
  obtain rfl := Option.some.inj hnew
  refine ⟨rfl, fun part hpart => ?_⟩
  rw [hf, Parts.has_union, Bool.or_eq_true]
  rcases hpart with hpart | ⟨hfits, hpart⟩
  · exact .inr hpart
  · exact .inl (Cell.has_dateParts hfits hpart)

theorem ensures_moveTo {place : Option Cursor} (hk : a.row.Keeps s w) :
    (a.moveTo place).Ensures fun b => b.row.Keeps s w := by
  cases place with
  | none => exact trivial
  | some d => exact hk

theorem ensures_store {x : Text} (hk : a.row.Keeps s w) (hc : s.operandType? c = some .text) :
    (a.store s x (some c)).Ensures fun b => b.row.Keeps s (w.add (.whole .text) c) :=
  ensures_setText hk hc

theorem ensures_takeToken {p : Char → Bool} {target : Option ColumnRef} {v : Written}
    (hv : ∀ (b : Attempt) (x : Text), b.row = a.row →
      (b.store s x target).Ensures fun b => b.row.Keeps s v) :
    (a.takeToken s p target).Ensures fun b => b.row.Keeps s v := by
  simp only [takeToken]
  split
  · exact trivial
  · exact hv _ _ rfl

theorem ensures_takeChars {n : Int} {target : Option ColumnRef} {v : Written}
    (hv : ∀ (b : Attempt) (x : Text), b.row = a.row →
      (b.store s x target).Ensures fun b => b.row.Keeps s v) :
    (a.takeChars s n target).Ensures fun b => b.row.Keeps s v := by
  simp only [takeChars]
  split
  · exact trivial
  · cases a.place.forward? (! Text.isLineEnd ·) n.toNat with
    | none => exact trivial
    | some d => exact hv _ _ rfl

theorem ensures_takeTo {inclusive : Bool} {wanted : Text} {target : Option ColumnRef} {v : Written}
    (hv : ∀ (b : Attempt) (x : Text), b.row = a.row →
      (b.store s x target).Ensures fun b => b.row.Keeps s v) :
    (a.takeTo s inclusive wanted target).Ensures fun b => b.row.Keeps s v := by
  simp only [takeTo]
  split
  · exact trivial
  · exact hv _ _ rfl

theorem ensures_takeNumber {positiveOnly : Bool} {read : Option (Int × Cursor)}
    (hk : a.row.Keeps s w) (hc : s.operandType? c = some .number) :
    (a.takeNumber s positiveOnly read c).Ensures fun b =>
      b.row.Keeps s (w.add (.whole .number) c) := by
  simp only [takeNumber]
  split
  · split
    · exact trivial
    · exact ensures_setNumber hk hc
  · exact trivial

theorem ensures_takeMonth3 {names : Option Text} (hk : a.row.Keeps s w)
    (hc : s.operandType? c = some .date) :
    (a.takeMonth3 s names c).Ensures fun b => b.row.Keeps s (w.add { month := true } c) := by
  simp only [takeMonth3]
  split
  · exact trivial
  · split
    · exact trivial
    · exact ensures_setDate hk hc fun d => Cell.filled_month d _

theorem ensures_takeMonthTxt {names : Option Text} (hk : a.row.Keeps s w)
    (hc : s.operandType? c = some .date) :
    (a.takeMonthTxt s names c).Ensures fun b => b.row.Keeps s (w.add { month := true } c) := by
  simp only [takeMonthTxt]
  split
  · exact trivial
  · split
    · exact trivial
    · exact ensures_setDate hk hc fun d => Cell.filled_month d _

theorem ensures_takeDatePart {f : Nat → Option (DateParts → DateParts)} {parts : Parts}
    (hk : a.row.Keeps s w) (hc : s.operandType? c = some .date)
    (hf : ∀ n change, f n = some change →
      ∀ d, (Cell.date (change d)).filled = (Cell.date d).filled.union parts) :
    (a.takeDatePart s f c).Ensures fun b => b.row.Keeps s (w.add parts c) := by
  simp only [takeDatePart]
  split
  · split
    · rename_i change hchange
      split at hchange
      · simp at hchange
      · exact ensures_setDate hk hc (hf _ change hchange)
    · exact trivial
  · exact trivial

theorem ensures_takeMonth (hk : a.row.Keeps s w) (hc : s.operandType? c = some .date) :
    (a.takeMonth s c).Ensures fun b => b.row.Keeps s (w.add { month := true } c) := by
  refine ensures_takeDatePart hk hc fun n change hchange d => ?_
  split at hchange
  · obtain rfl := Option.some.inj hchange
    exact Cell.filled_month d n
  · simp at hchange

theorem ensures_takeDay (hk : a.row.Keeps s w) (hc : s.operandType? c = some .date) :
    (a.takeDay s c).Ensures fun b => b.row.Keeps s (w.add { day := true } c) := by
  refine ensures_takeDatePart hk hc fun n change hchange d => ?_
  split at hchange
  · obtain rfl := Option.some.inj hchange
    exact Cell.filled_day d n
  · simp at hchange

theorem ensures_takeYear (hk : a.row.Keeps s w) (hc : s.operandType? c = some .date) :
    (a.takeYear s c).Ensures fun b => b.row.Keeps s (w.add { year := true } c) := by
  refine ensures_takeDatePart hk hc fun n change hchange d => ?_
  split at hchange
  · obtain rfl := Option.some.inj hchange
    exact Cell.filled_year d _ d.yearIsGuess
  · simp at hchange

theorem ensures_takeTime (hk : a.row.Keeps s w) (hc : s.operandType? c = some .time) :
    (a.takeTime s c).Ensures fun b => b.row.Keeps s (w.add (.whole .time) c) := by
  simp only [takeTime]
  split
  · exact ensures_setTime hk hc
  · exact trivial

theorem modify_ne_skipsRest {f : ColumnKind → Cell → Option Cell} (b : Attempt) :
    a.modify s f c ≠ .skipsRest b := by
  simp only [modify]
  split
  · split
    · split <;> simp
    · simp
  · simp

theorem ensures_takeYearOrTime {date time : ColumnRef} (hk : a.row.Keeps e.columns w)
    (hd : e.columns.operandType? date = some .date)
    (ht : e.columns.operandType? time = some .time) :
    (a.takeYearOrTime e date time).Ensures fun b =>
      b.row.Keeps e.columns (w.add { year := true } date) := by
  simp only [takeYearOrTime]
  split
  · exact ensures_setDate hk hd fun d => Cell.filled_year d _ d.yearIsGuess
  · rename_i x place _
    refine (ensures_setDate (a := { a with place }) hk hd
      fun d => Cell.filled_year d e.today.year true).andThen (fun b hb => ?_) modify_ne_skipsRest
    exact (ensures_setTime hb ht).mono fun b hb => hb.of_add
  · exact trivial

theorem ensures_takeLink {name link : ColumnRef} (hk : a.row.Keeps s w)
    (hn : s.operandType? name = some .text) (hl : s.operandType? link = some .text) :
    (a.takeLink s name link).Ensures fun b => b.row.Keeps s (w.add (.whole .text) name) := by
  simp only [takeLink]
  split
  · exact trivial
  · rename_i l _
    have hk : { a.row with isDir := l.isDir }.Keeps s w := ⟨⟨hk.typed.1, hk.typed.2⟩, hk.holds⟩
    refine Outcome.Ensures.andThen (ensures_setText hk hn) (fun b hb => ?_) modify_ne_skipsRest
    split
    · exact hb
    · exact (ensures_setText hb hl).mono fun b hb => hb.of_add

theorem ensures_takeDevice (hk : a.row.Keeps s w) (hc : s.operandType? c = some .text) :
    (a.takeDevice s c).Ensures fun b => b.row.Keeps s (w.add (.whole .text) c) := by
  simp only [takeDevice]
  split
  · exact trivial
  · exact ensures_setText hk hc

theorem ensures_changeText {f : Text → Option Text} (hk : a.row.Keeps s w)
    (hc : s.operandType? c = some .text) (hv : ∃ x, textOf? a (.column c) = some x) :
    (a.changeText s f c).Ensures fun b => b.row.Keeps s w := by
  obtain ⟨x, hx⟩ := hv
  simp only [changeText, hx]
  split
  · exact (ensures_setText hk hc).mono fun b hb => hb.of_add
  · exact trivial

theorem ensures_skipSpaces (hk : a.row.Keeps s w) :
    (a.skipSpaces e).Ensures fun b => b.row.Keeps s w := by
  simp only [skipSpaces]
  split
  · exact trivial
  · split
    · split
      · exact hk
      · exact trivial
    · exact hk

theorem ensures_setFlag {v : Option Bool} {f : Bool → Row} (hv : ∃ b, v = some b)
    (hf : ∀ b, (f b).Keeps s w) :
    (match v with
      | some b => Outcome.continues { a with row := f b }
      | none => .stuck).Ensures fun b => b.row.Keeps s w := by
  obtain ⟨b, rfl⟩ := hv
  exact hf b

theorem ensures_assign_declared {i : Nat} {p : ListingRules.Param}
    (hk : a.row.Keeps e.columns w) (hc : e.columns.operandType? (.declared i) = some t)
    (hv : Provides e a p t) :
    (a.assign e (.declared i) p).Ensures fun b =>
      b.row.Keeps e.columns (w.add (.whole t) (.declared i)) := by
  have hnot := ColumnSet.operandType?_declared_ne_boolean hc
  cases p with
  | comparison l op r => exact absurd hv.1 hnot
  | operand o =>
      cases t with
      | boolean => exact absurd rfl hnot
      | text =>
          obtain ⟨x, hx⟩ := hv
          simp only [assign, hc, hx, Option.elim_some]
          exact ensures_setText hk hc
      | number =>
          obtain ⟨n, hn⟩ := hv
          simp only [assign, hc, hn, Option.elim_some]
          refine ensures_setValue hk hc (by simp) (by simp) fun k cell new hnew => ?_
          obtain rfl := Option.some.inj hnew
          rfl
      | date =>
          obtain ⟨⟨day, month, year⟩, hd⟩ := hv
          simp only [assign, hc, hd, Option.elim_some]
          exact ensures_setDate hk hc fun d => by simp [Cell.filled, Parts.union, Parts.whole]
      | time =>
          obtain ⟨x, hx⟩ := hv
          simp only [assign, hc, hx, Option.elim_some]
          exact ensures_setTime hk hc

theorem ensures_assign {p : ListingRules.Param} {t : OperandType} (hk : a.row.Keeps e.columns w)
    (hc : e.columns.operandType? c = some t) (hv : Provides e a p t) :
    (a.assign e c p).Ensures fun b => b.row.Keeps e.columns (w.add (.whole t) c) := by
  have hflag : ∀ row : Row, row.cells = a.row.cells → row.Keeps e.columns w := by
    intro row hcells
    obtain ⟨⟨hlength, hfits⟩, hholds⟩ := hk
    exact ⟨⟨hcells ▸ hlength, hcells ▸ hfits⟩, by simpa only [Row.filled, hcells] using hholds⟩
  cases c with
  | declared i => exact ensures_assign_declared hk hc hv
  | isDir =>
      obtain rfl := Option.some.inj hc
      exact ensures_setFlag (exists_eval? hv) fun b => hflag _ rfl
  | isHidden =>
      obtain rfl := Option.some.inj hc
      exact ensures_setFlag (exists_eval? hv) fun b => hflag _ rfl
  | isLink =>
      obtain rfl := Option.some.inj hc
      exact ensures_setFlag (exists_eval? hv) fun b => hflag _ rfl

theorem ensures_apply {call : Call} {eff : Effect} (h : call.Accepted e.columns eff)
    (hk : a.row.Keeps e.columns w) (hcompare : call.ComparesWell e.columns w)
    (hreads : ∀ r ∈ eff.reads, w.readable e.columns r.2 = true) :
    (a.apply e call).Ensures fun b => b.row.Keeps e.columns (eff.addTo w) := by
  have hvalue {p : ListingRules.Param} {t : OperandType} (hmem : p ∈ call.params)
      (hp : p.isValue t = true) : Provides e a p t := provides_of_isValue hk hcompare hmem hp
  have hcolumn {c : ColumnRef} {t : OperandType} (hmem : c ∈ eff.reads.map (·.2))
      (hc : e.columns.operandType? c = some t) : HasValue e a (.column c) t :=
    hasValue_of_reads hk hreads hmem hc
  have hstore {c : ColumnRef} (hc : e.columns.operandType? c = some .text) (b : Attempt) (x : Text)
      (hb : b.row = a.row) :
      (b.store e.columns x (some c)).Ensures fun b =>
        b.row.Keeps e.columns (w.add (.whole .text) c) := ensures_store (hb ▸ hk) hc
  have hpass (b : Attempt) (x : Text) (hb : b.row = a.row) :
      (b.store e.columns x none).Ensures fun b => b.row.Keeps e.columns w := by
    have hkb : b.row.Keeps e.columns w := hb ▸ hk
    exact hkb
  cases h with
  | bare hf =>
      rcases hf with rfl | rfl | rfl | rfl | rfl | rfl
      · exact hk
      · exact hk
      · exact ensures_skipSpaces hk
      · exact ensures_takeToken hpass
      · exact ensures_takeToken hpass
      · exact ensures_takeToken hpass
  | counted n hf =>
      rcases hf with rfl | rfl | rfl
      · simp only [apply]
        split
        · exact trivial
        · exact ensures_moveTo hk
      · simp only [apply]
        split
        · exact trivial
        · exact ensures_moveTo hk
      · exact ensures_takeChars hpass
  | token hf hc =>
      rcases hf with rfl | rfl | rfl
      · exact ensures_takeToken (hstore hc)
      · exact ensures_takeToken (hstore hc)
      · exact ensures_takeDevice hk hc
  | number hf hc =>
      rcases hf with rfl | rfl
      · exact ensures_takeNumber hk hc
      · exact ensures_takeNumber hk hc
  | separated hc ho =>
      obtain ⟨x, hx⟩ := hvalue (by simp) ho
      simp only [apply, hx]
      exact ensures_takeNumber hk hc
  | month hf hc =>
      rcases hf with rfl | rfl | rfl
      · simp only [apply]
        exact ensures_takeMonth3 hk hc
      · simp only [apply]
        exact ensures_takeMonthTxt hk hc
      · exact ensures_takeMonth hk hc
  | listedMonth names hf hc =>
      rcases hf with rfl | rfl
      · simp only [apply]
        exact ensures_takeMonth3 hk hc
      · simp only [apply]
        exact ensures_takeMonthTxt hk hc
  | day hc => exact ensures_takeDay hk hc
  | year hc => exact ensures_takeYear hk hc
  | time hc => exact ensures_takeTime hk hc
  | yearOrTime hc hd => exact ensures_takeYearOrTime hk hc hd
  | chars n hc => exact ensures_takeChars (hstore hc)
  | passTo ho =>
      obtain ⟨x, hx⟩ := hvalue (by simp) ho
      simp only [apply, hx]
      exact ensures_takeTo hpass
  | takeTo hf hc ho =>
      obtain ⟨x, hx⟩ := hvalue (by simp) ho
      rcases hf with rfl | rfl
      · simp only [apply, hx]
        exact ensures_takeTo (hstore hc)
      · simp only [apply, hx]
        exact ensures_takeTo (hstore hc)
  | link hn hl => exact ensures_takeLink hk hn hl
  | require hp =>
      obtain ⟨b, hb⟩ := exists_eval? (hvalue (by simp) hp)
      simp only [apply, hb]
      cases b with
      | true => exact hk
      | false => exact trivial
  | requireFlag hc =>
      obtain ⟨b, hb⟩ := hcolumn (by simp) hc
      simp only [apply, Param.eval?, hb]
      cases b with
      | true => exact hk
      | false => exact trivial
  | assignColumn hc hd => exact ensures_assign hk hc (hcolumn (by simp) hd)
  | assignValue hc hp => exact ensures_assign hk hc (hvalue (by simp) hp)
  | cut hf hc =>
      have hv := hcolumn (by simp) hc
      rcases hf with rfl | rfl | rfl
      · simp only [apply]
        exact ensures_changeText hk hc hv
      · simp only [apply]
        exact ensures_changeText hk hc hv
      · simp only [apply]
        exact ensures_changeText hk hc hv
  | addColumn hc hd =>
      obtain ⟨x, hx⟩ := hcolumn (by simp) hd
      simp only [apply, hx, Option.elim_some]
      exact ensures_changeText hk hc (hcolumn (by simp) hc)
  | addValue hc ho =>
      obtain ⟨x, hx⟩ := hvalue (by simp) ho
      simp only [apply, hx, Option.elim_some]
      exact ensures_changeText hk hc (hcolumn (by simp) hc)
  | cutEnd n hc =>
      simp only [apply]
      exact ensures_changeText hk hc (hcolumn (by simp) hc)

theorem ensures_check {call : Call} {v : Written} (hcompare : call.ComparesWell e.columns w)
    (hcheck : call.check e.columns w = .ok v) (hk : a.row.Keeps e.columns w) :
    (a.apply e call).Ensures fun b => b.row.Keeps e.columns v := by
  obtain ⟨eff, haccepted, hreads, rfl⟩ := Call.accepted_of_check hcheck
  exact ensures_apply haccepted hk hcompare hreads

end Attempt

inductive Succeeds (e : Surroundings) : List Call → Attempt → Attempt → Prop
  | nil {a : Attempt} : Succeeds e [] a a
  | skips {call : Call} {a b : Attempt} :
      a.apply e call = .skipsRest b → Succeeds e [call] a b
  | cons {call : Call} {more : List Call} {a b c : Attempt} :
      a.apply e call = .continues b → Succeeds e more b c → Succeeds e (call :: more) a c

section Runs

variable {e : Surroundings} {calls : List Call} {a b : Attempt} {w v : Written}

theorem succeeds_of_applyAll (h : applyAll e calls a = .continues b) : Succeeds e calls a b := by
  induction calls generalizing a with
  | nil =>
      obtain rfl := Outcome.continues.inj h
      exact .nil
  | cons call more ih =>
      simp only [applyAll] at h
      cases ho : a.apply e call with
      | continues c =>
          rw [ho] at h
          exact .cons ho (ih h)
      | _ => simp [ho] at h

theorem keeps_of_succeeds (h : Succeeds e calls a b) (hc : Checked e.columns calls w v)
    (hk : a.row.Keeps e.columns w) : b.row.Keeps e.columns v := by
  induction h generalizing w with
  | nil =>
      cases hc with
      | nil => exact hk
  | skips ho =>
      cases hc with
      | cons hcompare hcheck hmore =>
          cases hmore with
          | nil =>
              have hcall := Attempt.ensures_check hcompare hcheck hk
              rwa [ho] at hcall
  | cons ho _ ih =>
      cases hc with
      | cons hcompare hcheck hmore =>
          have hcall := Attempt.ensures_check hcompare hcheck hk
          rw [ho] at hcall
          exact ih hmore hcall

theorem ensures_applyAll (hc : Checked e.columns calls w v) (hk : a.row.Keeps e.columns w) :
    (applyAll e calls a).Ensures fun b => b.row.Typed e.columns := by
  induction hc generalizing a with
  | nil => exact hk.typed
  | @cons call more _ _ _ hcompare hcheck _ ih =>
      have hcall := Attempt.ensures_check hcompare hcheck hk
      simp only [applyAll]
      cases ho : a.apply e call with
      | continues b =>
          rw [ho] at hcall
          exact ih hcall
      | skipsRest b =>
          rw [ho] at hcall
          exact hcall.typed
      | fails left => exact trivial
      | stuck =>
          rw [ho] at hcall
          exact hcall.elim

theorem applyAll_ne_stuck (hc : Checked e.columns calls w v) (hk : a.row.Keeps e.columns w) :
    applyAll e calls a ≠ .stuck := by
  intro ho
  have hall := ensures_applyAll hc hk
  rw [ho] at hall
  exact hall

def Rule.IsChecked (s : ColumnSet) (rule : Rule) : Prop :=
  ∃ v, Checked s rule.calls (Written.nothing s) v

theorem Rule.isChecked_of_compile {source : Text} {columns : ColumnSet} {rules : RuleSet}
    {rule : Rule} (h : RuleSet.compile source columns = .ok rules) (he : e.columns = rules.columns)
    (hr : rule ∈ rules.rules) : Rule.IsChecked e.columns rule := by
  rw [he, RuleSet.columns_of_compile h]
  exact RuleSet.checked_of_compile h hr

end Runs

end Listing

end ListingRules
