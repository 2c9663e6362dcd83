import ListingRules.Proofs.Bytewise.Attempt
import ListingRules.Proofs.Movement
import ListingRules.Proofs.Soundness

namespace ListingRules

namespace Call

variable {s : ColumnSet} {call : Call} {c : ColumnRef} {w v : Written}

def Reads (s : ColumnSet) (call : Call) (c : ColumnRef) : Prop :=
  ∃ p u, (p, u) ∈ call.params.zip (call.uses s) ∧ u.reads = true ∧ .column c ∈ p.operands

theorem readable_of_isValue {p : Param} {t : OperandType} (hcompare : call.ComparesWell s w)
    (hp : p ∈ call.params) (hv : p.isValue t = true) (hc : .column c ∈ p.operands) :
    w.readable s c = true ∧ ∃ t, s.operandType? c = some t := by
  cases p with
  | operand o =>
      obtain rfl := List.mem_singleton.1 hc
      exact absurd rfl ((Param.isValue_operand (s := s) hv).2 c)
  | comparison l op r =>
      obtain ⟨t, hl, hr, -, hlr, hrr⟩ := checkComparison_ok (hcompare l op r hp)
      simp only [Param.operands, List.mem_cons, List.not_mem_nil, or_false] at hc
      rcases hc with rfl | rfl
      · exact ⟨hlr c rfl, t, hl⟩
      · exact ⟨hrr c rfl, t, hr⟩

theorem readable_of_reads (hcompare : call.ComparesWell s w) (hcheck : call.check s w = .ok v)
    (h : call.Reads s c) : w.readable s c = true ∧ ∃ t, s.operandType? c = some t := by
  obtain ⟨eff, haccepted, hreads, -⟩ := accepted_of_check hcheck
  obtain ⟨p, u, hmem, hu, hc⟩ := h
  have hcolumn {d : ColumnRef} {t : OperandType} (hd : d ∈ eff.reads.map (·.2))
      (hp : p = .operand (.column d)) (ht : s.operandType? d = some t) :
      w.readable s c = true ∧ ∃ t, s.operandType? c = some t := by
    subst hp
    obtain rfl := Operand.column.inj (List.mem_singleton.1 hc)
    obtain ⟨r, hr, rfl⟩ := List.mem_map.1 hd
    exact ⟨hreads r hr, t, ht⟩
  have hallowed := List.forall₂_zip haccepted.uses hmem
  cases u with
  | value t =>
      rcases hallowed with hv | ⟨d, hd, hp, ht⟩
      · exact readable_of_isValue hcompare (List.of_mem_zip hmem).1 hv hc
      · exact hcolumn hd hp ht
  | target t => simp [Use.reads] at hu
  | change t =>
      obtain ⟨d, hd, hp, ht⟩ := hallowed
      exact hcolumn hd hp ht

end Call

namespace Listing

def Row.HasPart (s : ColumnSet) (row : Row) (i : Nat) (part : Part) : Prop :=
  ∃ column cell, s.get? i = some column ∧ row.cells[i]? = some cell ∧
    cell.type? = column.kind.operandType? ∧ cell.filled.has part = true

def FillsIn (e : Surroundings) (calls : List Call) (a : Attempt) (i : Nat) (part : Part) : Prop :=
  ∃ done call more b c, calls = done ++ call :: more ∧ Succeeds e done a b ∧
    Succeeds e [call] b c ∧ (b.row.filled i).has part = false ∧ (c.row.filled i).has part = true

section Runs

variable {e : Surroundings} {s : ColumnSet} {calls : List Call} {a b : Attempt} {row : Row}
  {w : Written} {i : Nat} {part : Part}

theorem Row.Typed.hasPart (hrow : row.Typed s) (h : (row.filled i).has part = true) :
    row.HasPart s i part := by
  cases hcell : row.cells[i]? with
  | none => simp [Row.filled, hcell, Cell.filled, Parts.has_nothing] at h
  | some cell =>
      obtain ⟨hlt, -⟩ := List.getElem?_eq_some_iff.1 hcell
      have hlt : i < s.columns.length := hrow.length ▸ hlt
      have hcolumn : s.get? i = some s.columns[i] := List.getElem?_eq_getElem hlt
      simp only [Row.filled, hcell, Option.getD_some] at h
      exact ⟨_, cell, hcolumn, hcell, Cell.type?_of_has (hrow.fits i _ cell hcolumn hcell) h, h⟩

theorem fillsIn_of_succeeds (h : Succeeds e calls a b) (ha : (a.row.filled i).has part = false)
    (hb : (b.row.filled i).has part = true) : FillsIn e calls a i part := by
  induction h with
  | nil => simp [ha] at hb
  | skips ho => exact ⟨[], _, [], _, _, rfl, .nil, .skips ho, ha, hb⟩
  | @cons call more a b c ho _ ih =>
      cases hmid : (b.row.filled i).has part with
      | true => exact ⟨[], call, more, a, b, rfl, .nil, .cons ho .nil, ha, hmid⟩
      | false =>
          obtain ⟨done, x, rest, u, v, rfl, hdone, hx, hu, hv⟩ := ih hmid hb
          exact ⟨call :: done, x, rest, u, v, rfl, .cons ho hdone, hx, hu, hv⟩

theorem whole_of_readable {t : OperandType} (hk : row.Keeps s w)
    (ht : s.operandType? (.declared i) = some t) (hw : w.readable s (.declared i) = true)
    (hp : (Parts.whole t).has part = true) : (row.filled i).has part = true := by
  obtain ⟨cell, hcell, -, hfilled⟩ := hk.whole ht hw
  simpa [Row.filled, hcell, hfilled] using hp

end Runs

end Listing

namespace Bytewise

inductive Succeeds (w : Window) (e : Listing.Surroundings) : List Call → Attempt → Attempt → Prop
  | nil {a : Attempt} : Succeeds w e [] a a
  | skips {call : Call} {a b : Attempt} :
      a.apply w e call = .ok (.skipsRest b) → Succeeds w e [call] a b
  | cons {call : Call} {more : List Call} {a b c : Attempt} :
      a.apply w e call = .ok (.continues b) → Succeeds w e more b c →
      Succeeds w e (call :: more) a c

variable {e : Listing.Surroundings} {calls : List Call} {v u : Written}

theorem exists_of_succeeds {w : Window} {a : Listing.Attempt} {b : Attempt}
    (hs : Succeeds w e calls (ofAttempt a) b) (h : w.Sees a.place)
    (hc : ListingRules.Checked e.columns calls v u) (hk : a.row.Keeps e.columns v) :
    ∃ c, Listing.Succeeds e calls a c ∧ b = ofAttempt c := by
  induction hc generalizing a with
  | nil =>
      cases hs with
      | nil => exact ⟨a, .nil, rfl⟩
  | @cons call more _ _ _ hcompare hcheck _ ih =>
      have hleads := Listing.Attempt.leads_apply e call a
      have hcall := Listing.Attempt.ensures_check hcompare hcheck hk
      have hagrees := check_agrees h hk hcompare hcheck
      cases ho : a.apply e call with
      | continues c =>
          rw [ho] at hleads hcall hagrees
          cases hs with
          | skips hb => simp [hagrees, ofOutcome] at hb
          | cons hb hmore =>
              obtain rfl := Outcome.continues.inj (Except.ok.inj (hagrees.symm.trans hb))
              obtain ⟨d, hd, rfl⟩ := ih hmore (h.walk hleads.1) hcall
              exact ⟨d, .cons ho hd, rfl⟩
      | skipsRest c =>
          rw [ho] at hagrees
          cases hs with
          | skips hb =>
              obtain rfl := Outcome.skipsRest.inj (Except.ok.inj (hagrees.symm.trans hb))
              exact ⟨c, .skips ho, rfl⟩
          | cons hb _ => simp [hagrees, ofOutcome] at hb
      | fails left =>
          rw [ho] at hagrees
          cases hs with
          | skips hb => simp [hagrees, ofOutcome] at hb
          | cons hb _ => simp [hagrees, ofOutcome] at hb
      | stuck =>
          rw [ho] at hcall
          exact hcall.elim

theorem hasPart_of_succeeds {place : Cursor} {languages : Languages} {b : Attempt}
    (hs : Succeeds ⟨place.text, place.offset⟩ e calls
      ⟨place.offset, Row.empty e.columns, languages⟩ b)
    (hline : place.StartsLine)
    (hc : ListingRules.Checked e.columns calls (Written.nothing e.columns) v) {i : Nat}
    {part : Part} (hpart : v.Has i part) : b.row.HasPart e.columns i part := by
  rw [← ofRow_empty] at hs
  obtain ⟨c, hsucceeds, rfl⟩ := exists_of_succeeds
    (a := ⟨place, Listing.Row.empty e.columns, languages⟩) hs ⟨place, hline, rfl, .refl⟩ hc
      Listing.Row.keeps_empty
  have hk := Listing.keeps_of_succeeds hsucceeds hc Listing.Row.keeps_empty
  exact hasPart_ofRow hk.typed (hk.holds i part hpart)

end Bytewise

namespace Listing

/-- Behind any number of calls of a compiled rule, what the check takes as written is in the row,
and each declared column that the next call reads has been filled in by some of them. -/
theorem filled_of_compile {source : Text} {columns : ColumnSet} {rules : RuleSet}
    (h : RuleSet.compile source columns = .ok rules) {rule : Rule} (hr : rule ∈ rules.rules)
    {e : Surroundings} (he : e.columns = rules.columns) (k : Nat) :
    ∃ w, checkAll e.columns (rule.calls.take k) (Written.nothing e.columns) = .ok w ∧
      (∀ place languages a,
        Succeeds e (rule.calls.take k) ⟨place, Row.empty e.columns, languages⟩ a →
        (∀ i part, w.Has i part → a.row.HasPart e.columns i part) ∧
        ∀ call, rule.calls[k]? = some call → ∀ i, call.Reads e.columns (.declared i) →
          ∃ t, e.columns.operandType? (.declared i) = some t ∧
            ∀ part, (Parts.whole t).has part = true → a.row.HasPart e.columns i part ∧
              FillsIn e (rule.calls.take k) ⟨place, Row.empty e.columns, languages⟩ i part) ∧
      ∀ (place : Cursor) languages b, place.StartsLine →
        Bytewise.Succeeds ⟨place.text, place.offset⟩ e (rule.calls.take k)
          ⟨place.offset, Bytewise.Row.empty e.columns, languages⟩ b →
        ∀ i part, w.Has i part → b.row.HasPart e.columns i part := by
  obtain ⟨v, hchecked⟩ := RuleSet.checked_of_compile h hr
  rw [RuleSet.columns_of_compile h] at he
  rw [← List.take_append_drop k rule.calls, ← he] at hchecked
  obtain ⟨w, hdone, hmore⟩ := hchecked.split
  refine ⟨w, hdone.checkAll, fun place languages a ha => ?_,
    fun place languages b hline hb i part => Bytewise.hasPart_of_succeeds hb hline hdone⟩
  have hk : a.row.Keeps e.columns w := keeps_of_succeeds ha hdone Row.keeps_empty
  refine ⟨fun i part hpart => hk.typed.hasPart (hk.holds i part hpart), ?_⟩
  intro call hcall i hreads
  obtain ⟨hlt, rfl⟩ := List.getElem?_eq_some_iff.1 hcall
  rw [List.drop_eq_getElem_cons hlt] at hmore
  cases hmore with
  | cons hcompare hcheck _ =>
      obtain ⟨hreadable, t, ht⟩ := Call.readable_of_reads hcompare hcheck hreads
      refine ⟨t, ht, fun part hpart => ?_⟩
      have hfilled := whole_of_readable hk ht hreadable hpart
      refine ⟨hk.typed.hasPart hfilled, fillsIn_of_succeeds ha ?_ hfilled⟩
      rw [Row.filled_empty, Parts.has_nothing]

namespace Counted

theorem filled_counted :
    Succeeds surroundings [count] start counted ∧ counted.row.HasPart columns 1 .value ∧
      FillsIn surroundings [count] start 1 .value ∧
      ∃ b, Bytewise.Succeeds ⟨['3'], 0⟩ surroundings [count]
        ⟨0, Bytewise.Row.empty columns, Languages.all⟩ b ∧ b.row.HasPart columns 1 .value := by
  have hcount : Succeeds surroundings [count] start counted := succeeds_of_applyAll (by rfl)
  have hbytes : Bytewise.Succeeds ⟨['3'], 0⟩ surroundings [count]
      ⟨0, Bytewise.Row.empty columns, Languages.all⟩ (Bytewise.ofAttempt counted) :=
    .cons (by rfl) .nil
  obtain ⟨w, hw, hruns, hbits⟩ := filled_of_compile compile_source (List.mem_singleton.2 rfl)
    (rfl : surroundings.columns = _) 1
  have hreads : three.Reads columns (.declared 1) :=
    ⟨_, .value .boolean, List.mem_singleton.2 rfl, rfl, List.mem_cons_self⟩
  obtain ⟨t, ht, hparts⟩ := (hruns _ _ _ hcount).2 three rfl 1 hreads
  obtain rfl : .number = t := Option.some.inj ht
  obtain ⟨hpart, hfills⟩ := hparts .value rfl
  obtain rfl : [{}, { value := true }] = w := Except.ok.inj hw
  have hline : (Cursor.ofText ['3']).StartsLine := by simp [Cursor.StartsLine, Cursor.ofText]
  exact ⟨hcount, hpart, hfills, _, hbytes, hbits _ _ _ hline hbytes 1 .value rfl⟩

end Counted

end Listing

end ListingRules
