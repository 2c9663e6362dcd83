import ListingRules.Proofs.Signature
import ListingRules.Rule.Compile

namespace ListingRules

def Call.ComparesWell (s : ColumnSet) (call : Call) (w : Written) : Prop :=
  ∀ l op r, .comparison l op r ∈ call.params → checkComparison s l op r w = .ok ()

def checkAll (s : ColumnSet) : List Call → Written → Except TypeFault Written
  | [], w => .ok w
  | call :: more, w => do checkAll s more (← call.check s w)

inductive Checked (s : ColumnSet) : List Call → Written → Written → Prop
  | nil {w : Written} : Checked s [] w w
  | cons {call : Call} {more : List Call} {w v u : Written} :
      call.ComparesWell s w → call.check s w = .ok v → Checked s more v u →
      Checked s (call :: more) w u

namespace Checked

variable {s : ColumnSet} {calls done more : List Call} {w v u : Written}

theorem checkAll (h : Checked s calls w u) : checkAll s calls w = .ok u := by
  induction h with
  | nil => rfl
  | cons _ hcheck _ ih =>
      simp only [ListingRules.checkAll, hcheck, bind, Except.bind]
      exact ih

theorem split (h : Checked s (done ++ more) w u) :
    ∃ v, Checked s done w v ∧ Checked s more v u := by
  induction done generalizing w with
  | nil => exact ⟨w, .nil, h⟩
  | cons call done ih =>
      cases h with
      | cons hcompare hcheck hmore =>
          obtain ⟨v, hdone, hmore⟩ := ih hmore
          exact ⟨v, .cons hcompare hcheck hdone, hmore⟩

theorem exists_check_of_mem {call : Call} (h : Checked s calls w u) (hc : call ∈ calls) :
    ∃ v x, call.check s v = .ok x := by
  induction h with
  | nil => cases hc
  | cons _ hcheck _ ih =>
      rcases List.mem_cons.1 hc with rfl | hc
      · exact ⟨_, _, hcheck⟩
      · exact ih hc

end Checked

def Operand.Fits (s : ColumnSet) : Operand → Prop
  | column (.declared i) => (s.operandType? (.declared i)).isSome = true
  | number n => Decimal.minNumber ≤ n ∧ n ≤ Decimal.maxNumber
  | _ => True

namespace RuleSet

open Source

variable {s : ColumnSet}

theorem bind_eq_ok {ε α β : Type} {x : Except ε α} {f : α → Except ε β} {b : β} :
    x.bind f = .ok b ↔ ∃ a, x = .ok a ∧ f a = .ok b := by
  cases x <;> simp [Except.bind]

theorem map_eq_ok {ε α β : Type} {x : Except ε α} {f : α → β} {b : β} :
    x.map f = .ok b ↔ ∃ a, x = .ok a ∧ f a = b := by
  cases x <;> simp [Except.map]

theorem map_cons_eq_ok {ε α β : Type} {x : Except ε (List α × β)} {first : α} {l : List α} {b : β}
    (h : x.map (fun (more, b) => (first :: more, b)) = .ok (l, b)) :
    ∃ more, x = .ok (more, b) ∧ l = first :: more := by
  obtain ⟨⟨more, b⟩, hx, heq⟩ := map_eq_ok.1 h
  obtain ⟨rfl, rfl⟩ := Prod.mk.inj heq
  exact ⟨more, hx, rfl⟩

theorem checkComparison_of_param {w : Written} {start d : Cursor} {p : Located}
    (h : param s w start = .ok (p, d)) {l r : Operand} {op : Operator}
    (hp : p.param = .comparison l op r) : checkComparison s l op r w = .ok () := by
  simp only [param, bind, bind_eq_ok, pure, Except.pure] at h
  obtain ⟨⟨left, stop⟩, -, d, -, h⟩ := h
  split at h
  · obtain ⟨rfl, -⟩ := Prod.mk.inj (Except.ok.inj h)
    simp at hp
  · obtain ⟨d, -, h⟩ := bind_eq_ok.1 h
    split at h
    · simp [Except.bind] at h
    · obtain ⟨⟨right, stop⟩, -, h⟩ := bind_eq_ok.1 h
      split at h
      · simp at h
      · rename_i hc
        obtain ⟨d, -, h⟩ := bind_eq_ok.1 h
        split at h
        · simp at h
        · obtain ⟨rfl, -⟩ := Prod.mk.inj (Except.ok.inj h)
          obtain ⟨rfl, rfl, rfl⟩ : _ = l ∧ _ = op ∧ _ = r := by simpa using hp
          exact hc

theorem params_cases {w : Written} {n : Nat} {b : Bool} {c d : Cursor} {ps : List Located}
    (h : params s w (n + 1) b c = .ok (ps, d)) :
    ps = [] ∨ ∃ first more start e b' f, param s w start = .ok (first, e) ∧
      params s w n b' f = .ok (more, d) ∧ ps = first :: more := by
  simp only [params, bind, bind_eq_ok] at h
  obtain ⟨start, -, h⟩ := h
  split at h
  · simp at h
  · split at h
    · split at h
      · simp at h
      · obtain ⟨rfl, -⟩ := Prod.mk.inj (Except.ok.inj h)
        exact .inl rfl
    · obtain ⟨⟨first, e⟩, hfirst, h⟩ := bind_eq_ok.1 h
      split at h
      · obtain ⟨more, hmore, hps⟩ := map_cons_eq_ok h
        exact .inr ⟨first, more, start, e, _, _, hfirst, hmore, hps⟩
      · split at h
        · obtain ⟨more, hmore, hps⟩ := map_cons_eq_ok h
          exact .inr ⟨first, more, start, e, _, _, hfirst, hmore, hps⟩
        · simp at h

theorem forall_of_params {P : Param → Prop} {w : Written}
    (hparam : ∀ {start d : Cursor} {p : Located}, param s w start = .ok (p, d) → P p.param)
    {n : Nat} {b : Bool} {c d : Cursor} {ps : List Located}
    (h : params s w n b c = .ok (ps, d)) : ∀ p ∈ ps.map (·.param), P p := by
  induction n generalizing b c d ps with
  | zero => simp [params] at h
  | succ n ih =>
      rcases params_cases h with rfl | ⟨first, more, _, _, _, _, hfirst, hmore, rfl⟩
      · simp
      · intro p hp
        rcases List.mem_cons.1 hp with rfl | hp
        · exact hparam hfirst
        · exact ih hmore p hp

theorem checkComparison_of_params {w : Written} {n : Nat} {b : Bool} {c d : Cursor}
    {ps : List Located} (h : params s w n b c = .ok (ps, d)) {l r : Operand} {op : Operator}
    (hp : .comparison l op r ∈ ps.map (·.param)) : checkComparison s l op r w = .ok () := by
  have hparam {start d : Cursor} {p : Located} (h : param s w start = .ok (p, d)) :
      p.param = .comparison l op r → checkComparison s l op r w = .ok () :=
    checkComparison_of_param h
  exact forall_of_params (P := fun p => p = .comparison l op r → _) hparam h _ hp rfl

theorem params_of_call {size : Nat} {w v : Written} {c d : Cursor} {first : Call}
    (h : call s size w c = .ok ((first, v), d)) :
    ∃ located start stop, params s w size false start = .ok (located, stop) ∧
      first.params = located.map (·.param) ∧ first.check s w = .ok v := by
  simp only [call, bind, bind_eq_ok, pure, Except.pure] at h
  obtain ⟨⟨name, stop⟩, -, h⟩ := h
  split at h
  · split at h
    · simp [Except.bind] at h
    · obtain ⟨⟨located, f⟩, hparams, h⟩ := bind_eq_ok.1 h
      split at h
      · rename_i u hcheck
        obtain ⟨heq, -⟩ := Prod.mk.inj (Except.ok.inj h)
        obtain ⟨rfl, rfl⟩ := Prod.mk.inj heq
        exact ⟨located, _, f, hparams, rfl, hcheck⟩
      · split at h <;> simp at h
  · simp at h

theorem checked_call {size : Nat} {w v : Written} {c d : Cursor} {first : Call}
    (h : call s size w c = .ok ((first, v), d)) :
    first.ComparesWell s w ∧ first.check s w = .ok v := by
  obtain ⟨located, start, stop, hparams, heq, hcheck⟩ := params_of_call h
  exact ⟨fun l op r hp => checkComparison_of_params hparams (heq ▸ hp), hcheck⟩

theorem calls_cases {size n : Nat} {b : Bool} {w : Written} {c d : Cursor} {cs : List Call}
    (h : calls s size (n + 1) b w c = .ok (cs, d)) :
    cs = [] ∨ ∃ first v more e f b' g, call s size w e = .ok ((first, v), f) ∧
      calls s size n b' v g = .ok (more, d) ∧ cs = first :: more := by
  simp only [calls, bind, bind_eq_ok] at h
  obtain ⟨e, -, h⟩ := h
  split at h
  · split at h
    · simp at h
    · obtain ⟨rfl, -⟩ := Prod.mk.inj (Except.ok.inj h)
      exact .inl rfl
  · obtain ⟨⟨⟨first, v⟩, f⟩, hfirst, h⟩ := bind_eq_ok.1 h
    obtain ⟨g, -, h⟩ := bind_eq_ok.1 h
    split at h
    · obtain ⟨more, hmore, hcs⟩ := map_cons_eq_ok h
      exact .inr ⟨first, v, more, e, f, _, _, hfirst, hmore, hcs⟩
    · split at h
      · obtain ⟨more, hmore, hcs⟩ := map_cons_eq_ok h
        exact .inr ⟨first, v, more, e, f, _, _, hfirst, hmore, hcs⟩
      · simp at h

theorem checked_calls {size n : Nat} {b : Bool} {w : Written} {c d : Cursor} {cs : List Call}
    (h : calls s size n b w c = .ok (cs, d)) : ∃ v, Checked s cs w v := by
  induction n generalizing b w c d cs with
  | zero => simp [calls] at h
  | succ n ih =>
      rcases calls_cases h with rfl | ⟨first, v, more, _, _, _, _, hfirst, hmore, rfl⟩
      · exact ⟨w, .nil⟩
      · obtain ⟨hcompare, hcheck⟩ := checked_call hfirst
        obtain ⟨u, hu⟩ := ih hmore
        exact ⟨u, .cons hcompare hcheck hu⟩

theorem forall_of_calls {P : Call → Prop} {size : Nat}
    (hcall : ∀ {w v : Written} {c d : Cursor} {first : Call},
      call s size w c = .ok ((first, v), d) → P first)
    {n : Nat} {b : Bool} {w : Written} {c d : Cursor} {cs : List Call}
    (h : calls s size n b w c = .ok (cs, d)) : ∀ call ∈ cs, P call := by
  induction n generalizing b w c d cs with
  | zero => simp [calls] at h
  | succ n ih =>
      rcases calls_cases h with rfl | ⟨first, v, more, _, _, _, _, hfirst, hmore, rfl⟩
      · simp
      · intro call hmem
        rcases List.mem_cons.1 hmem with rfl | hmem
        · exact hcall hfirst
        · exact ih hmore call hmem

theorem forall_of_rules {P : Rule → Prop} {size : Nat}
    (hrule : ∀ {c d : Cursor} {cs : List Call},
      calls s size size false (Written.nothing s) c = .ok (cs, d) → P ⟨cs⟩)
    {n : Nat} {c : Cursor} {rs : List Rule}
    (h : Source.rules s size n c = .ok rs) : ∀ r ∈ rs, P r := by
  induction n generalizing c rs with
  | zero => simp [Source.rules] at h
  | succ n ih =>
      simp only [Source.rules] at h
      split at h
      · obtain rfl := Except.ok.inj h
        simp
      · split at h
        · simp only [bind, bind_eq_ok, pure, Except.pure] at h
          obtain ⟨⟨cs, f⟩, hcalls, more, hmore, h⟩ := h
          obtain rfl := Except.ok.inj h
          intro r hr
          rcases List.mem_cons.1 hr with rfl | hr
          · exact hrule hcalls
          · exact ih hmore r hr
        · simp at h

theorem columns_of_compile {source : Text} {rules : RuleSet} (h : compile source s = .ok rules) :
    rules.columns = s := by
  simp only [compile, bind, bind_eq_ok] at h
  obtain ⟨rs, -, h⟩ := h
  split at h
  · simp at h
  · obtain rfl := Except.ok.inj h
    rfl

theorem rules_of_compile {source : Text} {rules : RuleSet} (h : compile source s = .ok rules) :
    Source.rules s (source.length + 1) (source.length + 1) (Cursor.ofText source) =
      .ok rules.rules ∧ rules.rules ≠ [] := by
  simp only [compile, bind, bind_eq_ok] at h
  obtain ⟨rs, hrs, h⟩ := h
  split at h
  · simp at h
  · rename_i hne
    obtain rfl := Except.ok.inj h
    exact ⟨hrs, hne⟩

theorem checked_of_compile {source : Text} {rules : RuleSet}
    (h : compile source s = .ok rules) {r : Rule} (hr : r ∈ rules.rules) :
    ∃ v, Checked s r.calls (Written.nothing s) v :=
  forall_of_rules (P := fun r => ∃ v, Checked s r.calls (Written.nothing s) v) checked_calls
    (rules_of_compile h).1 r hr

theorem fits_of_flag {id : Text} {ref : ColumnRef} (h : ColumnRef.flag? id = some ref) :
    (Operand.column ref).Fits s := by
  simp only [ColumnRef.flag?] at h
  split at h
  · obtain rfl := Option.some.inj h
    trivial
  · split at h
    · obtain rfl := Option.some.inj h
      trivial
    · split at h
      · obtain rfl := Option.some.inj h
        trivial
      · simp at h

theorem fits_of_column {c d : Cursor} {ref : ColumnRef} (h : column s c = .ok (ref, d)) :
    (Operand.column ref).Fits s := by
  simp only [column, bind, bind_eq_ok] at h
  obtain ⟨start, -, ⟨id, stop⟩, -, h⟩ := h
  have hclose (found : ColumnRef) (hfound : (Operand.column found).Fits s)
      (h : (if stop.skipTrivia.ahead.head? = some '>' then Except.ok (found, stop.skipTrivia.next)
        else Except.error (SourceError.point .missingColumnIdEnd stop.skipTrivia)) =
          Except.ok (ref, d)) :
      (Operand.column ref).Fits s := by
    split at h
    · obtain ⟨rfl, -⟩ := Prod.mk.inj (Except.ok.inj h)
      exact hfound
    · simp at h
  split at h
  · rename_i hflag
    exact hclose _ (fits_of_flag hflag) h
  · split at h
    · simp [Except.bind] at h
    · split at h
      · rename_i htype
        exact hclose (.declared _) htype h
      · simp [Except.bind] at h

theorem fits_of_number {c d : Cursor} {n : Int} (h : number c = .ok (n, d)) :
    (Operand.number n).Fits s := by
  unfold number at h
  extract_lets signed negative start stop digits value at h
  split at h
  · simp at h
  · rename_i hrange
    obtain ⟨rfl, -⟩ := Prod.mk.inj (Except.ok.inj h)
    exact ⟨by omega, by omega⟩

theorem fits_of_keyword {name : Text} {o : Operand} (h : Operand.ofKeyword? name = some o) :
    o.Fits s := by
  simp only [Operand.ofKeyword?] at h
  split at h
  · obtain rfl := Option.some.inj h
    trivial
  · split at h
    · obtain rfl := Option.some.inj h
      trivial
    · obtain ⟨v, -, rfl⟩ := Option.map_eq_some_iff.1 h
      trivial

theorem fits_of_operand {c d : Cursor} {o : Operand} (h : operand s c = .ok (o, d)) :
    o.Fits s := by
  have hkeyword (h : keyword c = .ok (o, d)) : o.Fits s := by
    simp only [keyword, bind, bind_eq_ok] at h
    obtain ⟨⟨name, stop⟩, -, h⟩ := h
    split at h
    · rename_i ho
      obtain ⟨rfl, -⟩ := Prod.mk.inj (Except.ok.inj h)
      exact fits_of_keyword ho
    · simp at h
  rw [operand] at h
  split at h
  · obtain ⟨⟨ref, e⟩, hcolumn, h⟩ := map_eq_ok.1 h
    obtain ⟨rfl, -⟩ := Prod.mk.inj h
    exact fits_of_column hcolumn
  · obtain ⟨⟨t, e⟩, -, h⟩ := map_eq_ok.1 h
    obtain ⟨rfl, -⟩ := Prod.mk.inj h
    trivial
  · split at h
    · obtain ⟨⟨n, e⟩, hnumber, h⟩ := map_eq_ok.1 h
      obtain ⟨rfl, -⟩ := Prod.mk.inj h
      exact fits_of_number hnumber
    · exact hkeyword h
  · exact hkeyword h

theorem fits_of_param {w : Written} {start d : Cursor} {p : Located}
    (h : param s w start = .ok (p, d)) : ∀ o ∈ p.param.operands, o.Fits s := by
  simp only [param, bind, bind_eq_ok, pure, Except.pure] at h
  obtain ⟨⟨left, stop⟩, hleft, d, -, h⟩ := h
  split at h
  · obtain ⟨rfl, -⟩ := Prod.mk.inj (Except.ok.inj h)
    simpa [Param.operands] using fits_of_operand hleft
  · obtain ⟨d, -, h⟩ := bind_eq_ok.1 h
    split at h
    · simp [Except.bind] at h
    · obtain ⟨⟨right, stop⟩, hright, h⟩ := bind_eq_ok.1 h
      split at h
      · simp at h
      · obtain ⟨d, -, h⟩ := bind_eq_ok.1 h
        split at h
        · simp at h
        · obtain ⟨rfl, -⟩ := Prod.mk.inj (Except.ok.inj h)
          simpa [Param.operands] using ⟨fits_of_operand hleft, fits_of_operand hright⟩

theorem fits_of_call {size : Nat} {w v : Written} {c d : Cursor} {first : Call}
    (h : call s size w c = .ok ((first, v), d)) :
    ∀ p ∈ first.params, ∀ o ∈ p.operands, o.Fits s := by
  obtain ⟨located, start, stop, hparams, heq, -⟩ := params_of_call h
  rw [heq]
  exact forall_of_params (P := fun p => ∀ o ∈ p.operands, o.Fits s) fits_of_param hparams

theorem fits_of_compile {source : Text} {rules : RuleSet} (h : compile source s = .ok rules) :
    ∀ r ∈ rules.rules, ∀ c ∈ r.calls, ∀ p ∈ c.params, ∀ o ∈ p.operands, o.Fits s :=
  forall_of_rules (P := fun r => ∀ c ∈ r.calls, ∀ p ∈ c.params, ∀ o ∈ p.operands, o.Fits s)
    (fun h => forall_of_calls fits_of_call h) (rules_of_compile h).1

end RuleSet

end ListingRules
