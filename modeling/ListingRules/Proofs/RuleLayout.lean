import ListingRules.Proofs.RuleTokens

namespace ListingRules

def Repeats {ε α β : Type} (R : α → β → Prop) (x : Except ε α) (y : Except ε β) : Prop :=
  ∀ a, x = .ok a → ∃ b, y = .ok b ∧ R a b

namespace Repeats

variable {ε α β γ δ : Type} {R : α → β → Prop} {S : γ → δ → Prop} {x : Except ε α} {y : Except ε β}

theorem ok {a : α} {b : β} (h : R a b) : Repeats R (.ok a : Except ε α) (.ok b) := by
  intro z hz
  obtain rfl := Except.ok.inj hz
  exact ⟨b, rfl, h⟩

theorem error (e : ε) (y : Except ε β) : Repeats R (.error e) y := by
  rintro _ ⟨⟩

theorem bind_of_ok {f : α → Except ε γ} {g : β → Except ε δ}
    (h : ∀ a z, x = .ok a → f a = .ok z → ∃ b, y = .ok b ∧ R a b)
    (hf : ∀ a b, R a b → Repeats S (f a) (g b)) : Repeats S (x >>= f) (y >>= g) := by
  intro z hz
  obtain ⟨a, rfl, ha⟩ := RuleSet.bind_eq_ok.1 hz
  obtain ⟨b, rfl, hb⟩ := h a z rfl ha
  exact hf a b hb z ha

theorem bind {f : α → Except ε γ} {g : β → Except ε δ} (h : Repeats R x y)
    (hf : ∀ a b, R a b → Repeats S (f a) (g b)) : Repeats S (x >>= f) (y >>= g) :=
  bind_of_ok (fun a _ ha _ => h a ha) hf

theorem and_eq (h : Repeats R x y) : Repeats (fun a b => R a b ∧ y = .ok b) x y := by
  intro a ha
  obtain ⟨b, hb, hab⟩ := h a ha
  exact ⟨b, hb, hab, hb⟩

theorem map {f : α → γ} {g : β → δ} (h : Repeats R x y) (hf : ∀ a b, R a b → S (f a) (g b)) :
    Repeats S (x.map f) (y.map g) := by
  intro z hz
  obtain ⟨a, rfl, rfl⟩ := RuleSet.map_eq_ok.1 hz
  obtain ⟨b, rfl, hb⟩ := h a rfl
  exact ⟨g b, rfl, hf a b hb⟩

theorem ite {p q : Prop} [Decidable p] [Decidable q] {x' : Except ε α} {y' : Except ε β}
    (h : q ↔ p) (hp : p → Repeats R x y) (hnp : ¬p → Repeats R x' y') :
    Repeats R (if p then x else x') (if q then y else y') := by
  by_cases hcase : p
  · rw [if_pos hcase, if_pos (h.2 hcase)]
    exact hp hcase
  · rw [if_neg hcase, if_neg (mt h.1 hcase)]
    exact hnp hcase

end Repeats

section Names

variable {a b : Text}

theorem ColumnRef.flag?_congr (h : Text.sameAscii a b = true) : flag? a = flag? b := by
  simp only [flag?, Text.sameAscii_congr_left h]

theorem ColumnSet.find?_congr (s : ColumnSet) (h : Text.sameAscii a b = true) :
    s.find? a = s.find? b := by
  simp only [find?, Text.sameAscii_congr_right h]

theorem Operand.ofKeyword?_congr (h : Text.sameAscii a b = true) : ofKeyword? a = ofKeyword? b := by
  simp only [ofKeyword?, Text.sameAscii_congr_left h]

theorem RuleFunction.ofName?_congr (h : Text.sameAscii a b = true) : ofName? a = ofName? b := by
  simp only [ofName?, Text.sameAscii_congr_right h]

end Names

namespace RuleSet.Source

open Cursor (Onward Past)
open SourceError (point)

variable {s : ColumnSet} {b : Bool} {c c' : Cursor} {missing : SourceFault}

def SameRead {α : Type} (b : Bool) (r r' : α × Cursor) : Prop :=
  r.1 = r'.1 ∧ Relaid b r.2.ahead r'.2.ahead

theorem Aligned.relaid {t t' : Text} (h : Aligned b t t') : Relaid b t t' := by
  obtain ⟨ht, u, rest', rfl, hu, hrest⟩ := h
  exact .token .nil .nil id ht hu hrest

theorem repeats_token (h : Relaid b c.ahead c'.ahead) :
    Repeats (fun d d' => Aligned b d.ahead d'.ahead) (token missing c) (token missing c') := by
  simp only [token]
  rcases h.skipTrivia with ⟨hend, -⟩ | haligned
  · rw [hend]
    exact .error _ _
  · obtain ⟨x, u, x', u', hu, hu', -⟩ := haligned.exists_heads
    rw [if_neg (by simp [hu]), if_neg (by simp [hu'])]
    exact .ok haligned

theorem repeats_identifier (h : Aligned false c.ahead c'.ahead) :
    Repeats (fun r r' => Text.sameAscii r.1 r'.1 = true ∧ Relaid true r.2.ahead r'.2.ahead)
      (identifier missing c) (identifier missing c') := by
  simp only [identifier]
  split
  · rename_i r hr
    obtain ⟨name', d', hname', hsame, hrelaid⟩ := h.identifier hr
    rw [hname']
    exact .ok ⟨hsame, hrelaid⟩
  · exact .error _ _

theorem Relaid.head?_skipTrivia_iff (h : Relaid b c.ahead c'.ahead) {x : Char}
    (hx : x.isAlpha = false) :
    c'.skipTrivia.ahead.head? = some x ↔ c.skipTrivia.ahead.head? = some x := by
  rcases h.skipTrivia with ⟨hend, hend'⟩ | haligned
  · rw [hend, hend']
  · exact haligned.head?_iff hx

theorem Relaid.next_skipTrivia (h : Relaid b c.ahead c'.ahead) {x : Char} (hx : x ∈ signs)
    (hhead : c.skipTrivia.ahead.head? = some x) :
    Relaid (x == '>') c.skipTrivia.next.ahead c'.skipTrivia.next.ahead := by
  rcases h.skipTrivia with ⟨hend, -⟩ | haligned
  · rw [hend] at hhead
    cases hhead
  · exact haligned.next hx hhead

theorem repeats_column (h : Aligned false c.ahead c'.ahead) (hopen : c.ahead.head? = some '<') :
    Repeats (SameRead true) (column s c) (column s c') := by
  have hnext : Relaid false c.next.ahead c'.next.ahead := h.next (by decide) hopen
  refine (repeats_token hnext).bind fun start start' hstart => ?_
  refine (repeats_identifier hstart).bind fun r r' hr => ?_
  obtain ⟨id, stop⟩ := r
  obtain ⟨id', stop'⟩ := r'
  obtain ⟨hid, hstop⟩ := hr
  have hclose (ref : ColumnRef) : Repeats (SameRead true)
      (if stop.skipTrivia.ahead.head? = some '>' then .ok (ref, stop.skipTrivia.next)
        else .error (point .missingColumnIdEnd stop.skipTrivia))
      (if stop'.skipTrivia.ahead.head? = some '>' then .ok (ref, stop'.skipTrivia.next)
        else .error (point .missingColumnIdEnd stop'.skipTrivia)) :=
    .ite (hstop.head?_skipTrivia_iff (by decide))
      (fun hhead => .ok ⟨rfl, hstop.next_skipTrivia (by decide) hhead⟩) fun _ => .error _ _
  dsimp only at hid ⊢
  rw [ColumnRef.flag?_congr hid, s.find?_congr hid]
  split
  · exact hclose _
  · split
    · exact .error _ _
    · split
      · exact hclose _
      · exact .error _ _

theorem repeats_keyword (h : Aligned false c.ahead c'.ahead) :
    Repeats (SameRead true) (keyword c) (keyword c') := by
  refine (repeats_identifier h).bind fun r r' hr => ?_
  obtain ⟨name, stop⟩ := r
  obtain ⟨name', stop'⟩ := r'
  obtain ⟨hname, hstop⟩ := hr
  dsimp only at hname hstop ⊢
  rw [Operand.ofKeyword?_congr hname]
  split
  · exact .ok (R := SameRead true) ⟨rfl, hstop⟩
  · exact .error _ _

theorem operand_of_head {x : Char} (hhead : c.ahead.head? = some x) (hopen : x ≠ '<')
    (hquote : x ≠ '"') :
    operand s c = if x.isDigit || x == '+' || x == '-' then
      (number c).map fun (n, d) => (.number n, d) else keyword c := by
  rw [operand, hhead]
  split
  · rename_i heq
    exact absurd (Option.some.inj heq) hopen
  · rename_i heq
    exact absurd (Option.some.inj heq) hquote
  · rename_i heq
    obtain rfl := Option.some.inj heq
    rfl
  · rename_i heq
    cases heq

theorem isAlpha_of_number {x : Char} (hx : (x.isDigit || x == '+' || x == '-') = true) :
    x.isAlpha = false := by
  simp only [Bool.or_eq_true, beq_iff_eq] at hx
  rcases hx with (hx | rfl) | rfl
  · exact isAlpha_of_isIdentifierStart (isIdentifierStart_of_isDigit hx)
  · decide
  · decide

theorem repeats_operand (h : Aligned false c.ahead c'.ahead) :
    Repeats (SameRead true) (operand s c) (operand s c') := by
  by_cases hopen : c.ahead.head? = some '<'
  · have hopen' := (h.head?_iff (by decide)).2 hopen
    rw [operand, operand, hopen, hopen']
    exact (repeats_column h hopen).map fun r r' hr => ⟨congrArg Operand.column hr.1, hr.2⟩
  by_cases hquote : c.ahead.head? = some '"'
  · have hquote' := (h.head?_iff (by decide)).2 hquote
    rw [operand, operand, hquote, hquote']
    have hread : Repeats (SameRead true) (Quoted.decodeInSource c) (Quoted.decodeInSource c') := by
      intro r hr
      obtain ⟨d', hd', hrelaid⟩ := h.decodeInSource hquote hr
      exact ⟨_, hd', rfl, hrelaid⟩
    exact hread.map fun r r' hr => ⟨congrArg Operand.text hr.1, hr.2⟩
  obtain ⟨x, u, x', u', hu, hu', hxx, -⟩ := h.exists_heads
  have hhead : c.ahead.head? = some x := by rw [hu]; rfl
  have hhead' : c'.ahead.head? = some x' := by rw [hu']; rfl
  have hopen' := mt (h.head?_iff (by decide)).1 hopen
  have hquote' := mt (h.head?_iff (by decide)).1 hquote
  rw [hhead, Option.some.injEq] at hopen hquote
  rw [hhead', Option.some.injEq] at hopen' hquote'
  rw [operand_of_head hhead hopen hquote, operand_of_head hhead' hopen' hquote']
  by_cases hx : (x.isDigit || x == '+' || x == '-') = true
  · obtain rfl := eq_of_toLower_eq (isAlpha_of_number hx) hxx
    rw [if_pos hx, if_pos hx]
    have hread : Repeats (SameRead true) (number c) (number c') := by
      intro r hr
      obtain ⟨d', hd', hrelaid⟩ := h.number hhead (by simpa [or_assoc] using hx) hr
      exact ⟨_, hd', rfl, hrelaid⟩
    exact hread.map fun r r' hr => ⟨congrArg Operand.number hr.1, hr.2⟩
  · have hx' : ¬(x'.isDigit || x' == '+' || x' == '-') = true := by
      intro hx'
      obtain rfl := eq_of_toLower_eq (isAlpha_of_number hx') hxx.symm
      exact hx hx'
    rw [if_neg hx, if_neg hx']
    exact repeats_keyword h

theorem EndsParam.of_aligned {t t' : Text} (hend : EndsParam t) (h : Aligned b t t') :
    EndsParam t' := by
  obtain ⟨x, u, rfl, hx⟩ := hend
  have halpha : x.isAlpha = false := by
    rcases hx with rfl | rfl
    · decide
    · decide
  obtain ⟨u', hu'⟩ := List.head?_eq_some_iff.1 ((h.head?_iff halpha).2 rfl)
  exact ⟨x, u', hu', hx⟩

theorem exists_param {w : Written} {p : Located} {e : Cursor} (h : Aligned false c.ahead c'.ahead)
    (hread : param s w c = .ok (p, e)) (hend : EndsParam e.ahead) :
    ∃ p' e', param s w c' = .ok (p', e') ∧ p.param = p'.param ∧ Aligned true e.ahead e'.ahead := by
  simp only [param, bind, RuleSet.bind_eq_ok] at hread
  obtain ⟨⟨left, stop⟩, hleft, d, hd, hread⟩ := hread
  obtain ⟨⟨left', stop'⟩, hleft', hleq, hstop⟩ := repeats_operand h _ hleft
  obtain ⟨d', hd', hdd⟩ := repeats_token hstop _ hd
  obtain rfl : left = left' := hleq
  rw [param]
  simp only [hleft', hd', bind, Except.bind]
  split at hread
  · cases hread
    rw [(hend.of_aligned hdd).atStart?]
    exact ⟨_, _, rfl, rfl, hdd⟩
  · rename_i op hop
    obtain ⟨hop', hmore⟩ := hdd.operator hop
    rw [hop']
    obtain ⟨f, hf, hread⟩ := RuleSet.bind_eq_ok.1 hread
    obtain ⟨f', hf', hff⟩ := repeats_token hmore _ hf
    split at hread
    · cases hread
    · rename_i hright
      obtain ⟨⟨right, stop₂⟩, hr, hread⟩ := RuleSet.bind_eq_ok.1 hread
      obtain ⟨⟨right', stop₂'⟩, hr', hreq, hstop₂⟩ := repeats_operand hff _ hr
      obtain rfl : right = right' := hreq
      have hright' : ¬(f'.ahead.head? = some ')' ∨ f'.ahead.head? = some ',') := by
        rwa [hff.head?_iff (by decide), hff.head?_iff (by decide)]
      simp only [hf', if_neg hright', hr']
      split at hread
      · cases hread
      · rename_i hcheck
        obtain ⟨g, hg, hread⟩ := RuleSet.bind_eq_ok.1 hread
        obtain ⟨g', hg', hgg⟩ := repeats_token hstop₂ _ hg
        split at hread
        · cases hread
        · cases hread
          simp only [hcheck, hg', (hend.of_aligned hgg).atStart?]
          exact ⟨_, _, rfl, rfl, hgg⟩

theorem onward_of_token {d : Cursor} (h : token missing c = .ok d) : Onward c d := by
  simp only [token] at h
  split at h
  · cases h
  · obtain rfl := Except.ok.inj h
    exact c.onward_skipTrivia

theorem past_of_param {w : Written} {p : Located} {e : Cursor} (h : param s w c = .ok (p, e)) :
    Past c e :=
  ((reports_param (rfl : c.text = c.text)).of_ok h).2

def SameParams (r r' : List Located × Cursor) : Prop :=
  r.1.map (·.param) = r'.1.map (·.param) ∧ Relaid false r.2.ahead r'.2.ahead

theorem repeats_params_close {w : Written} {n n' : Nat} (h : Aligned b c.ahead c'.ahead)
    (hclose : c.ahead.head? = some ')') (hn : c'.ahead.length ≤ n') :
    Repeats SameParams (params s w n false c) (params s w n' false c') := by
  have hclose' := (h.head?_iff (by decide)).2 hclose
  obtain ⟨behind, t⟩ := c
  obtain ⟨behind', t'⟩ := c'
  obtain ⟨u, rfl⟩ := List.head?_eq_some_iff.1 hclose
  obtain ⟨u', rfl⟩ := List.head?_eq_some_iff.1 hclose'
  cases n with
  | zero => exact .error _ _
  | succ n =>
      obtain ⟨n', rfl⟩ : ∃ m, n' = m + 1 := ⟨n' - 1, by simp at hn; omega⟩
      rw [params_close, params_close]
      exact .ok ⟨rfl, h.next (by decide) hclose⟩

theorem endsParam_of_params {e : Cursor} {α : Type} {x y : Except SourceError α}
    {error : SourceError} {r : α} (h : (if e.ahead.head? = some ',' then x
      else if e.ahead.head? = some ')' then y else .error error) = .ok r) : EndsParam e.ahead := by
  split at h
  · rename_i hcomma
    obtain ⟨u, hu⟩ := List.head?_eq_some_iff.1 hcomma
    exact ⟨',', u, hu, .inl rfl⟩
  · split at h
    · rename_i hclose
      obtain ⟨u, hu⟩ := List.head?_eq_some_iff.1 hclose
      exact ⟨')', u, hu, .inr rfl⟩
    · cases h

theorem repeats_params {w : Written} {n n' : Nat} {afterComma : Bool}
    (h : Relaid false c.ahead c'.ahead) (hn : c'.ahead.length < n') :
    Repeats SameParams (params s w n afterComma c) (params s w n' afterComma c') := by
  induction n generalizing n' afterComma c c' with
  | zero => exact .error _ _
  | succ n ih =>
      obtain ⟨n', rfl⟩ : ∃ m, n' = m + 1 := ⟨n' - 1, by omega⟩
      refine (repeats_token h).and_eq.bind fun d d' hd => ?_
      obtain ⟨hd, hread⟩ := hd
      have hlength := (onward_of_token hread).length_le
      refine .ite (hd.head?_iff (by decide)) (fun _ => .error _ _) fun _ => ?_
      refine .ite (hd.head?_iff (by decide)) (fun hclose => ?_) fun _ => ?_
      · exact .ite .rfl (fun _ => .error _ _) fun _ => .ok ⟨rfl, hd.next (by decide) hclose⟩
      · refine .bind_of_ok (R := fun r r' => r.1.param = r'.1.param ∧
          Aligned true r.2.ahead r'.2.ahead ∧ Past d' r'.2) (fun r z hr hmore => ?_)
          fun r r' hrr => ?_
        · obtain ⟨p', e', hp', hpp, he⟩ := exists_param hd hr (endsParam_of_params hmore)
          exact ⟨(p', e'), hp', hpp, he, past_of_param hp'⟩
        · obtain ⟨p, e⟩ := r
          obtain ⟨p', e'⟩ := r'
          obtain ⟨hpp, he, hpast⟩ := hrr
          have hlt : e'.ahead.length < d'.ahead.length := hpast.length_lt
          have hle : e'.ahead.length ≤ n' := by omega
          have hnext : e'.next.ahead.length < n' := by
            have := e'.onward_next.length_le
            omega
          have hmap (r r' : List Located × Cursor) (hr : SameParams r r') :
              SameParams (p :: r.1, r.2) (p' :: r'.1, r'.2) :=
            ⟨congrArg₂ List.cons hpp hr.1, hr.2⟩
          refine .ite (he.head?_iff (by decide)) (fun hcomma => ?_) fun _ =>
            .ite (he.head?_iff (by decide)) (fun hclose => ?_) fun _ => .error _ _
          · exact (ih (he.next (by decide) hcomma) hnext).map hmap
          · exact (repeats_params_close he hclose hle).map hmap

theorem past_of_identifier {name : Text} {d : Cursor} (h : identifier missing c = .ok (name, d)) :
    Past c d := by
  simp only [identifier] at h
  split at h
  · rename_i r hr
    obtain rfl := Except.ok.inj h
    obtain ⟨hname, hspans, -⟩ := Cursor.spans_identifier? hr
    exact Cursor.past_of_isIdentifier hname hspans
  · cases h

theorem repeats_call {size size' : Nat} {w : Written} (h : Aligned false c.ahead c'.ahead)
    (hsize : c'.ahead.length ≤ size') :
    Repeats (SameRead false) (call s size w c) (call s size' w c') := by
  refine (repeats_identifier h).and_eq.bind fun r r' hr => ?_
  obtain ⟨name, stop⟩ := r
  obtain ⟨name', stop'⟩ := r'
  obtain ⟨⟨hname, hstop⟩, hread⟩ := hr
  dsimp only at hname hstop ⊢
  rw [RuleFunction.ofName?_congr hname]
  split
  · rename_i function _
    refine .ite (not_congr (hstop.head?_skipTrivia_iff (by decide))) (fun _ => .error _ _)
      fun hparen => ?_
    have hopen : Relaid false stop.skipTrivia.next.ahead stop'.skipTrivia.next.ahead :=
      hstop.next_skipTrivia (by decide) (not_not.1 hparen)
    have hlength : stop'.skipTrivia.next.ahead.length < size' := by
      have hpast := (past_of_identifier hread).trans
        (stop'.onward_skipTrivia.trans stop'.skipTrivia.onward_next)
      have := hpast.length_lt
      omega
    refine (repeats_params hopen hlength).bind fun r r' hr => ?_
    obtain ⟨located, d⟩ := r
    obtain ⟨located', d'⟩ := r'
    obtain ⟨hlocated, hd⟩ := hr
    dsimp only at hlocated hd ⊢
    rw [hlocated]
    split
    · exact .ok ⟨rfl, hd⟩
    · split <;> exact .error _ _
  · exact .error _ _

theorem past_of_call {size : Nat} {w : Written} {r : Call × Written} {e : Cursor}
    (h : call s size w c = .ok (r, e)) : Past c e :=
  (reports_call (rfl : c.text = c.text)).of_ok h

theorem repeats_calls {size size' n n' : Nat} {afterComma : Bool} {w : Written}
    (h : Relaid false c.ahead c'.ahead) (hsize : c'.ahead.length ≤ size')
    (hn : c'.ahead.length < n') :
    Repeats (SameRead false) (calls s size n afterComma w c)
      (calls s size' n' afterComma w c') := by
  induction n generalizing n' afterComma w c c' with
  | zero => exact .error _ _
  | succ n ih =>
      obtain ⟨n', rfl⟩ : ∃ m, n' = m + 1 := ⟨n' - 1, by omega⟩
      refine (repeats_token h).and_eq.bind fun d d' hd => ?_
      obtain ⟨hd, hread⟩ := hd
      have hlength := (onward_of_token hread).length_le
      refine .ite (hd.head?_iff (by decide)) (fun hend => ?_) fun _ => ?_
      · exact .ite .rfl (fun _ => .error _ _) fun _ => .ok ⟨rfl, hd.next (by decide) hend⟩
      refine (repeats_call hd (Nat.le_trans hlength hsize)).and_eq.bind fun r r' hr => ?_
      obtain ⟨⟨first, written⟩, e⟩ := r
      obtain ⟨⟨first', written'⟩, e'⟩ := r'
      obtain ⟨⟨hcall, he⟩, hread⟩ := hr
      obtain ⟨rfl, rfl⟩ := Prod.mk.inj hcall
      have hpast : e'.ahead.length < d'.ahead.length := (past_of_call hread).length_lt
      dsimp only at he ⊢
      refine (repeats_token he).and_eq.bind fun f f' hf => ?_
      obtain ⟨hf, hread⟩ := hf
      have hle := (onward_of_token hread).length_le
      have hnext := f'.onward_next.length_le
      have hmap (r r' : List Call × Cursor) (hr : SameRead false r r') :
          SameRead false (first :: r.1, r.2) (first :: r'.1, r'.2) :=
        ⟨congrArg (first :: ·) hr.1, hr.2⟩
      refine .ite (hf.head?_iff (by decide)) (fun hcomma => ?_) fun _ =>
        .ite (hf.head?_iff (by decide)) (fun _ => ?_) fun _ => .error _ _
      · exact (ih (hf.next (by decide) hcomma) (by omega) (by omega)).map hmap
      · exact (ih hf.relaid (by omega) (by omega)).map hmap

theorem past_of_calls {size n : Nat} {afterComma : Bool} {w : Written} {cs : List Call} {e : Cursor}
    (h : calls s size n afterComma w c = .ok (cs, e)) : Past c e :=
  (reports_calls (rfl : c.text = c.text)).of_ok h

theorem repeats_rules {size size' n n' : Nat} (h : Relaid false c.ahead c'.ahead)
    (hsize : c'.ahead.length < size') (hn : c'.ahead.length < n') :
    Repeats Eq (rules s size n c) (rules s size' n' c') := by
  induction n generalizing n' c c' with
  | zero => exact .error _ _
  | succ n ih =>
      obtain ⟨n', rfl⟩ : ∃ m, n' = m + 1 := ⟨n' - 1, by omega⟩
      have hskip := c'.onward_skipTrivia.length_le
      have hnext := c'.skipTrivia.onward_next.length_le
      simp only [rules]
      refine .ite ?_ (fun _ => .ok rfl) fun _ =>
        .ite (h.head?_skipTrivia_iff (by decide)) (fun hstar => ?_) fun _ => .error _ _
      · rcases h.skipTrivia with ⟨hend, hend'⟩ | haligned
        · rw [hend, hend']
        · obtain ⟨x, u, x', u', hu, hu', -⟩ := haligned.exists_heads
          rw [hu, hu']
          simp
      · refine (repeats_calls (h.next_skipTrivia (by decide) hstar) (by omega)
          (by omega)).and_eq.bind fun r r' hr => ?_
        obtain ⟨cs, e⟩ := r
        obtain ⟨cs', e'⟩ := r'
        obtain ⟨⟨rfl, he⟩, hread⟩ := hr
        have hpast := (past_of_calls hread).length_lt
        dsimp only at he
        exact (ih he (by omega) (by omega)).bind fun rs rs' hrs => .ok (by rw [hrs])

end RuleSet.Source

namespace RuleSet

/-- A source that compiles still compiles to the same rules when its tokens stand in another layout
and, but for quoted texts, in another letter case. -/
theorem compile_of_relaid {source source' : Text} {columns : ColumnSet} {rules : RuleSet}
    (h : compile source columns = .ok rules) (hrelaid : Source.Relaid false source source') :
    compile source' columns = .ok rules := by
  have hrules : Repeats Eq
      (Source.rules columns (source.length + 1) (source.length + 1) (.ofText source))
      (Source.rules columns (source'.length + 1) (source'.length + 1) (.ofText source')) :=
    Source.repeats_rules hrelaid (Nat.lt_succ_self _) (Nat.lt_succ_self _)
  have hcompile : Repeats Eq (compile source columns) (compile source' columns) := by
    refine hrules.bind fun rs rs' hrs => ?_
    subst hrs
    split
    · exact .error _ _
    · exact .ok rfl
  obtain ⟨rules', h', rfl⟩ := hcompile rules h
  exact h'

namespace Respelled

open Source (IsLayout Relaid)

def source : Text :=
  "*word(<file>);".toList

def respelled : Text :=
  "#r\r\t* WORD(<file>);".toList

def rules : RuleSet :=
  ⟨[⟨[⟨.word, [.operand (.column (.declared 0))]⟩]⟩], Sample.columns⟩

theorem compile_respelled :
    Relaid false source respelled ∧ compile respelled Sample.columns = .ok rules := by
  have hcomment : IsLayout "#r\r\t".toList :=
    .comment (t := ['r']) (c := '\r') (List.forall_mem_singleton.2 (by decide)) (by decide)
      (.blank (by decide) .nil)
  have hword : Relaid false "word(<file>);".toList " WORD(<file>);".toList :=
    @Relaid.token false [] [' '] "word(<file>);".toList "WORD".toList "(<file>);".toList .nil
      (.blank (by decide) .nil) (by decide) ⟨'w', _, rfl, by decide⟩ ⟨by decide, by decide⟩
      (.refl true _)
  have hstar : Relaid false source respelled :=
    @Relaid.token false [] "#r\r\t".toList source ['*'] " WORD(<file>);".toList .nil hcomment
      (by decide) ⟨'*', _, rfl, by decide⟩ ⟨by decide, by decide⟩ hword
  exact ⟨hstar, compile_of_relaid (show compile source Sample.columns = .ok rules by rfl) hstar⟩

end Respelled

end RuleSet

end ListingRules
