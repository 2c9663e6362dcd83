import ListingRules.Proofs.CheckedRules
import ListingRules.Proofs.NamedColumns
import ListingRules.Proofs.Tokens

namespace ListingRules

structure Operand.Legible (s : ColumnSet) (o : Operand) : Prop where
  fits : o.Fits s
  plain : ∀ t, o = .text t → Quoted.IsPlain t

namespace Cursor

def isTrivia (c : Char) : Bool :=
  Text.isSpaceOrTab c || Text.isLineEnd c || c == '#'

variable {c : Char} {behind t : Text}

theorem skipTrivia_cons (h : isTrivia c = false) :
    skipTrivia ⟨behind, c :: t⟩ = ⟨behind, c :: t⟩ := by
  simp only [isTrivia, Bool.or_eq_false_iff] at h
  simp [skipTrivia, skipTriviaFrom, h.1.1, h.1.2, h.2]

theorem skipTrivia_blank (h : (Text.isSpaceOrTab c || Text.isLineEnd c) = true) :
    skipTrivia ⟨behind, c :: t⟩ = skipTrivia ⟨c :: behind, t⟩ := by
  simp [skipTrivia, skipTriviaFrom, h]

theorem isTrivia_eq_false {p : Char → Bool} (h : p c = true)
    (hp : [' ', '\t', '\r', '\n', '#'].any p = false) : isTrivia c = false := by
  cases hc : isTrivia c with
  | false => rfl
  | true =>
      simp only [isTrivia, Text.isSpaceOrTab, Text.isLineEnd, Bool.or_eq_true, beq_iff_eq] at hc
      have hmem : c ∈ [' ', '\t', '\r', '\n', '#'] := by
        rcases hc with ((rfl | rfl) | rfl | rfl) | rfl <;> decide
      exact absurd h (List.any_eq_false.1 hp c hmem)

theorem isDigit_of_isIdentifierStart (h : isIdentifierStart c = true) : c.isDigit = false := by
  simp only [isIdentifierStart, Bool.or_eq_true, beq_iff_eq] at h
  rcases h with h | rfl
  · delta Char.isAlpha Char.isUpper Char.isLower Char.isDigit at h ⊢
    grind
  · decide

theorem identifier?_append {a : Text} (ha : isIdentifier a = true)
    (ht : Stops isIdentifierPart t) :
    identifier? ⟨behind, a ++ t⟩ = some (a, ⟨a.reverse ++ behind, t⟩) := by
  cases a with
  | nil => simp [isIdentifier] at ha
  | cons x a =>
      simp only [isIdentifier, Bool.and_eq_true, List.all_eq_true] at ha
      have hparts : ∀ y ∈ x :: a, isIdentifierPart y = true := by
        intro y hy
        rcases List.mem_cons.1 hy with rfl | hy
        · exact isIdentifierPart_of_isIdentifierStart ha.1
        · exact ha.2 y hy
      have hskip := skipWhile_append behind hparts ht
      have htake := takeWhile_append_of_stops hparts ht
      rw [List.cons_append] at hskip htake ⊢
      simp only [identifier?, ha.1, htake, hskip, ↓reduceIte]

end Cursor

namespace RuleSet.Source

section Tokens

variable {c : Char} {behind t : Text} {missing : SourceFault}

theorem token_cons (h : Cursor.isTrivia c = false) :
    token missing ⟨behind, c :: t⟩ = .ok ⟨behind, c :: t⟩ := by
  simp [token, Cursor.skipTrivia_cons h]

theorem token_blank (h : (Text.isSpaceOrTab c || Text.isLineEnd c) = true) :
    token missing ⟨behind, c :: t⟩ = token missing ⟨c :: behind, t⟩ := by
  simp only [token, Cursor.skipTrivia_blank h]

theorem identifier_append {a : Text} (ha : isIdentifier a = true)
    (ht : Stops isIdentifierPart t) :
    identifier missing ⟨behind, a ++ t⟩ = .ok (a, ⟨a.reverse ++ behind, t⟩) := by
  rw [identifier, Cursor.identifier?_append ha ht]

end Tokens

theorem isDigit_of_isIdentifierPart {c : Char} (h : isIdentifierPart c = false) :
    c.isDigit = false := by
  simp only [isIdentifierPart, Char.isAlphanum, Bool.or_eq_false_iff] at h
  exact h.1.2

theorem head?_digits_ne {x : Char} (hx : x.isDigit = false) (n : Nat) (rest : Text) :
    (Decimal.digits n ++ rest).head? ≠ some x := by
  obtain ⟨y, ds, hds⟩ := List.exists_cons_of_ne_nil (Decimal.digits_ne_nil n)
  have hy : y.isDigit = true := Decimal.isDigit_of_mem_digits (n := n) (by simp [hds])
  rw [hds]
  intro h
  obtain rfl := Option.some.inj h
  simp [hx] at hy

theorem number_ofInt {n : Int} (hn : Decimal.minNumber ≤ n ∧ n ≤ Decimal.maxNumber)
    {rest : Text} (hrest : Stops isIdentifierPart rest) (behind : Text) :
    number ⟨behind, Decimal.ofInt n ++ rest⟩ =
      .ok (n, ⟨(Decimal.ofInt n).reverse ++ behind, rest⟩) := by
  have hstop : Stops Char.isDigit rest := fun x hx => isDigit_of_isIdentifierPart (hrest x hx)
  have hdigits : ∀ x ∈ Decimal.digits n.natAbs, x.isDigit = true :=
    fun x => Decimal.isDigit_of_mem_digits
  have hread (behind : Text) := Cursor.skipWhile_append behind hdigits hstop
  have htake := takeWhile_append_of_stops hdigits hstop
  have hvalue := Decimal.value_digits n.natAbs
  have hempty : ¬ ((Decimal.digits n.natAbs).isEmpty = true ∨ n < Decimal.minNumber ∨
      (Decimal.maxNumber : Int) < n) := by
    simp only [List.isEmpty_iff, Decimal.digits_ne_nil, false_or]
    omega
  rw [Decimal.ofInt]
  split
  · have habs : -(n.natAbs : Int) = n := by omega
    rw [List.cons_append]
    simp only [number, List.head?_cons, or_true, ↓reduceIte, Cursor.next_cons, hread, htake, hvalue,
      habs, if_neg hempty]
    simp
  · have habs : (n.natAbs : Int) = n := by omega
    have hplus := head?_digits_ne (x := '+') (by decide) n.natAbs rest
    have hminus := head?_digits_ne (x := '-') (by decide) n.natAbs rest
    simp only [number, hplus, hminus, or_self, ↓reduceIte, hread, htake, hvalue, habs,
      if_neg hempty]

section Operands

variable {s : ColumnSet} {rest : Text}

theorem stops_bracket : Stops isIdentifierPart ('>' :: rest) :=
  stops_cons (by decide)

theorem column_id {id : Text} {ref : ColumnRef} (hid : isIdentifier id = true)
    (href : ColumnRef.flag? id = some ref ∨ ColumnRef.flag? id = none ∧ ∃ i, ref = .declared i ∧
      s.find? id = some i ∧ (s.operandType? (.declared i)).isSome = true) (behind : Text) :
    column s ⟨behind, '<' :: (id ++ '>' :: rest)⟩ =
      .ok (ref, ⟨'>' :: (id.reverse ++ '<' :: behind), rest⟩) := by
  have htoken : token .missingColumnId ⟨'<' :: behind, id ++ '>' :: rest⟩ =
      .ok ⟨'<' :: behind, id ++ '>' :: rest⟩ := by
    cases id with
    | nil => simp [isIdentifier] at hid
    | cons x id =>
        simp only [isIdentifier, Bool.and_eq_true] at hid
        exact token_cons (Cursor.isTrivia_eq_false hid.1 (by decide))
  have hclose : Cursor.skipTrivia ⟨id.reverse ++ '<' :: behind, '>' :: rest⟩ =
      ⟨id.reverse ++ '<' :: behind, '>' :: rest⟩ := Cursor.skipTrivia_cons (by decide)
  simp only [column, Cursor.next_cons, htoken, identifier_append hid stops_bracket, bind,
    Except.bind]
  rcases href with href | ⟨hflag, i, rfl, hfind, htype⟩
  · simp only [href, hclose, List.head?_cons, ↓reduceIte, Cursor.next_cons]
  · simp only [hflag, hfind, htype, hclose, List.head?_cons, ↓reduceIte, Cursor.next_cons]

theorem operand_keyword (name : Text) {o : Operand} (hname : isIdentifier name = true)
    (ho : Operand.ofKeyword? name = some o) (hrest : Stops isIdentifierPart rest)
    (behind : Text) :
    operand s ⟨behind, name ++ rest⟩ = .ok (o, ⟨name.reverse ++ behind, rest⟩) := by
  have hkeyword : keyword ⟨behind, name ++ rest⟩ = .ok (o, ⟨name.reverse ++ behind, rest⟩) := by
    simp only [keyword, identifier_append hname hrest, bind, Except.bind, ho]
  cases name with
  | nil => simp [isIdentifier] at hname
  | cons x name =>
      simp only [isIdentifier, Bool.and_eq_true] at hname
      rw [← hkeyword, operand]
      split
      · rename_i heq
        obtain rfl := Option.some.inj heq
        exact absurd hname.1 (by decide)
      · rename_i heq
        obtain rfl := Option.some.inj heq
        exact absurd hname.1 (by decide)
      · rename_i y _ _ heq
        obtain rfl := Option.some.inj heq
        refine if_neg fun hy => ?_
        simp only [Cursor.isDigit_of_isIdentifierStart hname.1, Bool.false_or, Bool.or_eq_true,
          beq_iff_eq] at hy
        rcases hy with rfl | rfl <;> exact absurd hname.1 (by decide)
      · rfl

theorem operand_number {x : Char} {t : Text} (hx : x.isDigit = true ∨ x = '-') (behind : Text) :
    operand s ⟨behind, x :: t⟩ = (number ⟨behind, x :: t⟩).map fun (n, d) => (.number n, d) := by
  rw [operand]
  split
  · rename_i heq
    obtain rfl := Option.some.inj heq
    exact absurd hx (by decide)
  · rename_i heq
    obtain rfl := Option.some.inj heq
    exact absurd hx (by decide)
  · rename_i y _ _ heq
    obtain rfl := Option.some.inj heq
    refine if_pos ?_
    rcases hx with hx | rfl
    · simp [hx]
    · rfl
  · rename_i heq
    simp at heq

theorem operand_bracket (id : Text) {ref : ColumnRef} (hid : isIdentifier id = true)
    (href : ColumnRef.flag? id = some ref ∨ ColumnRef.flag? id = none ∧ ∃ i, ref = .declared i ∧
      s.find? id = some i ∧ (s.operandType? (.declared i)).isSome = true)
    (hprint : ref.printIn s = '<' :: (id ++ ['>'])) (behind : Text) :
    ∃ behind', operand s ⟨behind, ref.printIn s ++ rest⟩ =
      .ok (.column ref, ⟨behind', rest⟩) := by
  have happend : '<' :: (id ++ ['>']) ++ rest = '<' :: (id ++ '>' :: rest) := by simp
  refine ⟨'>' :: (id.reverse ++ '<' :: behind), ?_⟩
  rw [hprint, happend, operand]
  simp only [List.head?_cons, column_id hid href]
  rfl

theorem reads_column (hs : ColumnSet.WellNamed s.columns) {c : ColumnRef}
    (hfits : Operand.Fits s (.column c)) (behind : Text) :
    ∃ behind', operand s ⟨behind, c.printIn s ++ rest⟩ = .ok (.column c, ⟨behind', rest⟩) := by
  cases c with
  | isDir => exact operand_bracket "is_dir".toList (by decide) (.inl (by decide)) rfl behind
  | isHidden =>
      exact operand_bracket "is_hidden".toList (by decide) (.inl (by decide)) rfl behind
  | isLink => exact operand_bracket "is_link".toList (by decide) (.inl (by decide)) rfl behind
  | declared i =>
      obtain ⟨c, hc⟩ : ∃ c, s.get? i = some c := by
        cases hc : s.get? i with
        | none => simp [Operand.Fits, ColumnSet.operandType?, hc] at hfits
        | some c => exact ⟨c, rfl⟩
      have hmem : c ∈ s.columns := List.mem_of_getElem? hc
      have hid : s.idAt (Decimal.digits i) = c.id := by
        rw [ColumnSet.idAt, Decimal.value_digits, hc]
      have hprint : (ColumnRef.declared i).printIn s = '<' :: (c.id ++ ['>']) := by
        rw [ColumnRef.printIn_declared, hid]
        rfl
      exact operand_bracket c.id (hs.identifier c hmem)
        (.inr ⟨hs.flag c hmem, i, rfl, ColumnSet.find?_id hs hc, hfits⟩) hprint behind

theorem exists_ofInt (n : Int) :
    ∃ x t, Decimal.ofInt n = x :: t ∧ (x.isDigit = true ∨ x = '-') := by
  rw [Decimal.ofInt]
  split
  · exact ⟨_, _, rfl, .inr rfl⟩
  · obtain ⟨x, ds, hds⟩ := List.exists_cons_of_ne_nil (Decimal.digits_ne_nil n.natAbs)
    exact ⟨x, ds, hds, .inl (Decimal.isDigit_of_mem_digits (n := n.natAbs) (by simp [hds]))⟩

theorem reads_operand (hs : ColumnSet.WellNamed s.columns) {o : Operand} (ho : o.Legible s)
    (hrest : Stops isIdentifierPart rest)
    (behind : Text) :
    ∃ behind', operand s ⟨behind, o.printWith (ColumnRef.printIn s) ++ rest⟩ =
      .ok (o, ⟨behind', rest⟩) := by
  obtain ⟨hfits, hplain⟩ := ho
  cases o with
  | column c => exact reads_column hs hfits behind
  | bool b =>
      cases b with
      | false => exact ⟨_, operand_keyword "false".toList (by decide) (by decide) hrest _⟩
      | true => exact ⟨_, operand_keyword "true".toList (by decide) (by decide) hrest _⟩
  | text t =>
      have hquote : (Quoted.encode t ++ rest).head? = some '"' := rfl
      refine ⟨(Quoted.encode t).reverse ++ behind, ?_⟩
      rw [Operand.printWith, Quoted.encodeVisibly_of_plain (hplain t rfl), operand]
      simp only [hquote, Quoted.decodeInSource_encode]
      rfl
  | number n =>
      obtain ⟨x, t, ht, hx⟩ := exists_ofInt n
      refine ⟨(Decimal.ofInt n).reverse ++ behind, ?_⟩
      have hnumber := number_ofInt hfits hrest behind
      rw [Operand.printWith]
      rw [ht, List.cons_append] at hnumber ⊢
      rw [operand_number hx, hnumber]
      rfl
  | state v =>
      have hname : isIdentifier v.name.toList = true ∧
          Operand.ofKeyword? v.name.toList = some (.state v) := by
        cases v <;> decide
      exact ⟨_, operand_keyword _ hname.1 hname.2 hrest behind⟩

theorem operand_start (o : Operand) :
    ∃ x t, o.printWith (ColumnRef.printIn s) = x :: t ∧ Cursor.isTrivia x = false ∧
      x ≠ ',' ∧ x ≠ ')' := by
  cases o with
  | column c => cases c <;> exact ⟨'<', _, rfl, by decide⟩
  | bool b =>
      cases b with
      | false => exact ⟨'f', "alse".toList, rfl, by decide⟩
      | true => exact ⟨'t', "rue".toList, rfl, by decide⟩
  | text t => cases t <;> exact ⟨'"', _, rfl, by decide⟩
  | number n =>
      obtain ⟨x, t, ht, hx | rfl⟩ := exists_ofInt n
      · refine ⟨x, t, ht, Cursor.isTrivia_eq_false hx (by decide), ?_, ?_⟩
        · rintro rfl
          exact absurd hx (by decide)
        · rintro rfl
          exact absurd hx (by decide)
      · exact ⟨'-', t, ht, by decide⟩
  | state v =>
      cases v with
      | firstNonemptyLine => exact ⟨'f', "irst_nonempty_line".toList, rfl, by decide⟩
      | lastNonemptyLine => exact ⟨'l', "ast_nonempty_line".toList, rfl, by decide⟩
      | nextChar => exact ⟨'n', "ext_char".toList, rfl, by decide⟩
      | nextWord => exact ⟨'n', "ext_word".toList, rfl, by decide⟩
      | restOfLine => exact ⟨'r', "est_of_line".toList, rfl, by decide⟩

end Operands

section Params

variable {s : ColumnSet} {w : Written} {rest : Text}

def EndsParam (t : Text) : Prop :=
  ∃ x u, t = x :: u ∧ (x = ',' ∨ x = ')')

namespace EndsParam

theorem stops (h : EndsParam rest) : Stops isIdentifierPart rest := by
  obtain ⟨x, u, rfl, rfl | rfl⟩ := h <;> exact stops_cons (by decide)

theorem token (h : EndsParam rest) {missing : SourceFault} {behind : Text} :
    token missing ⟨behind, rest⟩ = .ok ⟨behind, rest⟩ := by
  obtain ⟨x, u, rfl, rfl | rfl⟩ := h <;> exact token_cons (by decide)

theorem atStart? (h : EndsParam rest) : Operator.atStart? rest = none := by
  obtain ⟨x, u, rfl, rfl | rfl⟩ := h <;> rfl

end EndsParam

theorem atStart?_name (op : Operator) (t : Text) :
    Operator.atStart? (op.name.toList ++ ' ' :: t) = some op := by
  cases op <;> rfl

theorem token_operator (op : Operator) {missing : SourceFault} (behind t : Text) :
    token missing ⟨behind, ' ' :: (op.name.toList ++ t)⟩ =
      .ok ⟨' ' :: behind, op.name.toList ++ t⟩ := by
  rw [token_blank (by decide)]
  cases op <;> exact token_cons (by decide)

theorem advance_operator (op : Operator) (behind t : Text) :
    Cursor.advance op.name.length ⟨behind, op.name.toList ++ t⟩ =
      ⟨op.name.toList.reverse ++ behind, t⟩ := by
  have h : op.name.length = op.name.toList.length := by cases op <;> rfl
  rw [h, Cursor.advance_append]

theorem reads_param (hs : ColumnSet.WellNamed s.columns) {p : Param}
    (hoperands : ∀ o ∈ p.operands, o.Legible s)
    (hcompare : ∀ l op r, p = .comparison l op r → checkComparison s l op r w = .ok ())
    (hrest : EndsParam rest) (behind : Text) :
    ∃ located behind', param s w ⟨behind, p.printWith (ColumnRef.printIn s) ++ rest⟩ =
      .ok (located, ⟨behind', rest⟩) ∧ located.param = p := by
  cases p with
  | operand o =>
      obtain ⟨u, hread⟩ := reads_operand hs (hoperands o (by simp [Param.operands])) hrest.stops
        behind
      refine ⟨⟨.operand o, ⟨behind, o.printWith (ColumnRef.printIn s) ++ rest⟩, ⟨u, rest⟩⟩, u, ?_,
        rfl⟩
      rw [Param.printWith, param]
      simp only [hread, hrest.token, hrest.atStart?, bind, Except.bind, pure, Except.pure]
  | comparison l op r =>
      have happend : (Param.comparison l op r).printWith (ColumnRef.printIn s) ++ rest =
          l.printWith (ColumnRef.printIn s) ++
            ' ' :: (op.name.toList ++ ' ' :: (r.printWith (ColumnRef.printIn s) ++ rest)) := by
        simp [Param.printWith]
      have hspace : Stops isIdentifierPart
          (' ' :: (op.name.toList ++ ' ' :: (r.printWith (ColumnRef.printIn s) ++ rest))) :=
        stops_cons (by decide)
      obtain ⟨u, hleft⟩ := reads_operand hs (hoperands l (by simp [Param.operands])) hspace behind
      obtain ⟨x, t, hr, hx, hcomma, hparen⟩ := operand_start (s := s) r
      have htoken {missing : SourceFault} (behind : Text) :
          token missing ⟨behind, ' ' :: (r.printWith (ColumnRef.printIn s) ++ rest)⟩ =
            .ok ⟨' ' :: behind, r.printWith (ColumnRef.printIn s) ++ rest⟩ := by
        rw [token_blank (by decide), hr]
        exact token_cons hx
      have hhead : ¬ ((r.printWith (ColumnRef.printIn s) ++ rest).head? = some ')' ∨
          (r.printWith (ColumnRef.printIn s) ++ rest).head? = some ',') := by
        simp [hr, hcomma, hparen]
      obtain ⟨u', hright⟩ := reads_operand hs (hoperands r (by simp [Param.operands])) hrest.stops
        (' ' :: (op.name.toList.reverse ++ ' ' :: u))
      refine ⟨⟨.comparison l op r, ⟨behind, (Param.comparison l op r).printWith
        (ColumnRef.printIn s) ++ rest⟩, ⟨u', rest⟩⟩, u', ?_, rfl⟩
      rw [happend, param]
      simp only [hleft, token_operator, atStart?_name, advance_operator, htoken, hhead, hright,
        hcompare l op r rfl, hrest.token, hrest.atStart?, bind, Except.bind, pure, Except.pure,
        ↓reduceIte]

theorem params_blank {c : Char} {n : Nat} {b : Bool} {behind t : Text}
    (h : (Text.isSpaceOrTab c || Text.isLineEnd c) = true) :
    params s w (n + 1) b ⟨behind, c :: t⟩ = params s w (n + 1) b ⟨c :: behind, t⟩ := by
  rw [params, params, token_blank h]

theorem params_close {n : Nat} {behind : Text} :
    params s w (n + 1) false ⟨behind, ')' :: rest⟩ = .ok ([], ⟨')' :: behind, rest⟩) := by
  have htoken {missing : SourceFault} :
      token missing ⟨behind, ')' :: rest⟩ = .ok ⟨behind, ')' :: rest⟩ := token_cons (by decide)
  have hcomma : ¬ some ')' = some ',' := by decide
  simp only [params, htoken, List.head?_cons, hcomma, bind, Except.bind, Cursor.next_cons,
    Bool.false_eq_true, ↓reduceIte]

theorem param_start (p : Param) :
    ∃ x t, p.printWith (ColumnRef.printIn s) = x :: t ∧ Cursor.isTrivia x = false ∧
      x ≠ ',' ∧ x ≠ ')' := by
  cases p with
  | operand o => exact operand_start o
  | comparison l op r =>
      obtain ⟨x, t, h, hx⟩ := operand_start (s := s) l
      exact ⟨x, _, by rw [Param.printWith, h]; rfl, hx⟩

section First

variable {x : Char} {t behind u : Text} {first : Located} {n : Nat} {b : Bool}

theorem params_more (hx : Cursor.isTrivia x = false ∧ x ≠ ',' ∧ x ≠ ')')
    (h : param s w ⟨behind, x :: t⟩ = .ok (first, ⟨u, ',' :: rest⟩)) :
    params s w (n + 1) b ⟨behind, x :: t⟩ =
      (params s w n true ⟨',' :: u, rest⟩).map fun (ps, f) => (first :: ps, f) := by
  have htoken {missing : SourceFault} :
      token missing ⟨behind, x :: t⟩ = .ok ⟨behind, x :: t⟩ := token_cons hx.1
  simp only [params, htoken, List.head?_cons, Option.some.injEq, hx.2.1, hx.2.2, h, bind,
    Except.bind, ↓reduceIte, Cursor.next_cons]

theorem params_last (hx : Cursor.isTrivia x = false ∧ x ≠ ',' ∧ x ≠ ')')
    (h : param s w ⟨behind, x :: t⟩ = .ok (first, ⟨u, ')' :: rest⟩)) :
    params s w (n + 2) b ⟨behind, x :: t⟩ = .ok ([first], ⟨')' :: u, rest⟩) := by
  have htoken {missing : SourceFault} :
      token missing ⟨behind, x :: t⟩ = .ok ⟨behind, x :: t⟩ := token_cons hx.1
  have hcomma : ¬ ')' = ',' := by decide
  rw [params]
  simp only [htoken, List.head?_cons, Option.some.injEq, hx.2.1, hx.2.2, h, bind, Except.bind,
    hcomma, ↓reduceIte, params_close]
  rfl

end First

theorem reads_params (hs : ColumnSet.WellNamed s.columns) {ps : List Param}
    (hoperands : ∀ p ∈ ps, ∀ o ∈ p.operands, o.Legible s)
    (hcompare : ∀ l op r, .comparison l op r ∈ ps → checkComparison s l op r w = .ok ())
    {n : Nat} (hn : ps.length < n) {b : Bool} (hb : b = true → ps ≠ []) (behind rest : Text) :
    ∃ located behind', params s w n b
        ⟨behind, Text.joinWith [',', ' '] (ps.map (Param.printWith (ColumnRef.printIn s))) ++
          ')' :: rest⟩ = .ok (located, ⟨behind', rest⟩) ∧ located.map (·.param) = ps := by
  induction ps generalizing n b behind with
  | nil =>
      obtain ⟨n, rfl⟩ : ∃ m, n = m + 1 := ⟨n - 1, by simp at hn; omega⟩
      obtain rfl : b = false := by simpa using hb
      exact ⟨[], _, params_close, rfl⟩
  | cons p ps ih =>
      obtain ⟨n, rfl⟩ : ∃ m, n = m + 2 := ⟨n - 2, by simp at hn; omega⟩
      obtain ⟨x, t, hp, hx⟩ := param_start (s := s) p
      have hread {rest : Text} (hrest : EndsParam rest) :=
        reads_param hs (hoperands p List.mem_cons_self)
          (fun l op r h => hcompare l op r (h ▸ List.mem_cons_self)) hrest behind
      cases ps with
      | nil =>
          obtain ⟨first, u, hfirst, hparam⟩ := hread ⟨')', rest, rfl, .inr rfl⟩
          rw [hp, List.cons_append] at hfirst
          refine ⟨[first], ')' :: u, ?_, by simp [hparam]⟩
          rw [List.map_cons, List.map_nil, Text.joinWith, hp, List.cons_append]
          exact params_last hx hfirst
      | cons q more =>
          have hjoin : Text.joinWith [',', ' '] ((p :: q :: more).map
                (Param.printWith (ColumnRef.printIn s))) ++ ')' :: rest =
              p.printWith (ColumnRef.printIn s) ++ ',' :: ' ' :: (Text.joinWith [',', ' ']
                ((q :: more).map (Param.printWith (ColumnRef.printIn s))) ++ ')' :: rest) := by
            simp [Text.joinWith]
          obtain ⟨first, u, hfirst, hparam⟩ := hread ⟨',', _, rfl, .inl rfl⟩
          obtain ⟨located, u', hlocated, hmap⟩ := ih
            (fun p hp => hoperands p (List.mem_cons_of_mem _ hp))
            (fun l op r h => hcompare l op r (List.mem_cons_of_mem _ h)) (n := n + 1)
            (by simpa using hn) (b := true) (by simp) (' ' :: ',' :: u)
          refine ⟨first :: located, u', ?_, by rw [List.map_cons, hparam, hmap]⟩
          rw [hp, List.cons_append] at hfirst
          rw [hjoin, hp, List.cons_append, params_more hx hfirst, params_blank (by decide),
            hlocated]
          rfl

end Params

section Calls

variable {s : ColumnSet} {w v : Written} {rest : Text} {size : Nat}

theorem isIdentifier_name (f : RuleFunction) : isIdentifier f.name.toList = true := by
  cases f <;> decide

theorem reads_call (hs : ColumnSet.WellNamed s.columns) {c : Call}
    (hoperands : ∀ p ∈ c.params, ∀ o ∈ p.operands, o.Legible s) (hcompare : c.ComparesWell s w)
    (hcheck : c.check s w = .ok v) (hsize : c.params.length < size) (behind rest : Text) :
    ∃ behind', call s size w ⟨behind, c.printWith (ColumnRef.printIn s) ++ rest⟩ =
      .ok ((c, v), ⟨behind', rest⟩) := by
  obtain ⟨f, ps⟩ := c
  have happend : (Call.mk f ps).printWith (ColumnRef.printIn s) ++ rest =
      f.name.toList ++ '(' :: (Text.joinWith [',', ' ']
        (ps.map (Param.printWith (ColumnRef.printIn s))) ++ ')' :: rest) := by
    simp [Call.printWith]
  have hname {missing : SourceFault} (t : Text) :
      identifier missing ⟨behind, f.name.toList ++ '(' :: t⟩ =
        .ok (f.name.toList, ⟨f.name.toList.reverse ++ behind, '(' :: t⟩) :=
    identifier_append (isIdentifier_name f) (stops_cons (by decide))
  have hparen (behind t : Text) :
      Cursor.skipTrivia ⟨behind, '(' :: t⟩ = ⟨behind, '(' :: t⟩ :=
    Cursor.skipTrivia_cons (by decide)
  obtain ⟨located, u, hparams, hmap⟩ := reads_params hs hoperands hcompare hsize
    (b := false) (by simp) ('(' :: (f.name.toList.reverse ++ behind)) rest
  refine ⟨u, ?_⟩
  rw [happend, call]
  simp only [hname, RuleFunction.ofName?_name, hparen, List.head?_cons, ne_eq, not_true_eq_false,
    Cursor.next_cons, hparams, hmap, hcheck, bind, Except.bind, pure, Except.pure, ↓reduceIte]

theorem call_start (c : Call) :
    ∃ x t, c.printWith (ColumnRef.printIn s) = x :: t ∧ Cursor.isTrivia x = false ∧ x ≠ ';' := by
  have hname := isIdentifier_name c.function
  cases h : c.function.name.toList with
  | nil => simp [h, isIdentifier] at hname
  | cons x t =>
      rw [h, isIdentifier, Bool.and_eq_true] at hname
      refine ⟨x, _, by rw [Call.printWith, h]; rfl,
        Cursor.isTrivia_eq_false hname.1 (by decide), ?_⟩
      rintro rfl
      exact absurd hname.1 (by decide)

theorem calls_blank {c : Char} {n : Nat} {b : Bool} {behind t : Text}
    (h : (Text.isSpaceOrTab c || Text.isLineEnd c) = true) :
    calls s size (n + 1) b w ⟨behind, c :: t⟩ = calls s size (n + 1) b w ⟨c :: behind, t⟩ := by
  rw [calls, calls, token_blank h]

theorem calls_close {n : Nat} {behind : Text} :
    calls s size (n + 1) false w ⟨behind, ';' :: rest⟩ = .ok ([], ⟨';' :: behind, rest⟩) := by
  have htoken {missing : SourceFault} :
      token missing ⟨behind, ';' :: rest⟩ = .ok ⟨behind, ';' :: rest⟩ := token_cons (by decide)
  simp only [calls, htoken, List.head?_cons, bind, Except.bind, Cursor.next_cons,
    Bool.false_eq_true, ↓reduceIte]

section First

variable {x : Char} {t behind u : Text} {first : Call} {n : Nat} {b : Bool}

theorem calls_more (hx : Cursor.isTrivia x = false ∧ x ≠ ';')
    (h : call s size w ⟨behind, x :: t⟩ = .ok ((first, v), ⟨u, ',' :: rest⟩)) :
    calls s size (n + 1) b w ⟨behind, x :: t⟩ =
      (calls s size n true v ⟨',' :: u, rest⟩).map fun (cs, f) => (first :: cs, f) := by
  have htoken {missing : SourceFault} :
      token missing ⟨behind, x :: t⟩ = .ok ⟨behind, x :: t⟩ := token_cons hx.1
  have hcomma {missing : SourceFault} :
      token missing ⟨u, ',' :: rest⟩ = .ok ⟨u, ',' :: rest⟩ := token_cons (by decide)
  simp only [calls, htoken, List.head?_cons, Option.some.injEq, hx.2, h, hcomma, bind, Except.bind,
    ↓reduceIte, Cursor.next_cons]

theorem calls_last (hx : Cursor.isTrivia x = false ∧ x ≠ ';')
    (h : call s size w ⟨behind, x :: t⟩ = .ok ((first, v), ⟨u, ';' :: rest⟩)) :
    calls s size (n + 2) b w ⟨behind, x :: t⟩ = .ok ([first], ⟨';' :: u, rest⟩) := by
  have htoken {missing : SourceFault} :
      token missing ⟨behind, x :: t⟩ = .ok ⟨behind, x :: t⟩ := token_cons hx.1
  have hsemicolon {missing : SourceFault} :
      token missing ⟨u, ';' :: rest⟩ = .ok ⟨u, ';' :: rest⟩ := token_cons (by decide)
  have hcomma : ¬ ';' = ',' := by decide
  rw [calls]
  simp only [htoken, List.head?_cons, Option.some.injEq, hx.2, h, hsemicolon, hcomma, bind,
    Except.bind, ↓reduceIte, calls_close]
  rfl

end First

theorem reads_calls (hs : ColumnSet.WellNamed s.columns) {cs : List Call}
    (hchecked : Checked s cs w v)
    (hoperands : ∀ c ∈ cs, ∀ p ∈ c.params, ∀ o ∈ p.operands, o.Legible s)
    (hsize : ∀ c ∈ cs, c.params.length < size) {n : Nat} (hn : cs.length < n) {b : Bool}
    (hb : b = true → cs ≠ []) (behind rest : Text) :
    ∃ behind', calls s size n b w
        ⟨behind, Text.joinWith [',', ' '] (cs.map (Call.printWith (ColumnRef.printIn s))) ++
          ';' :: rest⟩ = .ok (cs, ⟨behind', rest⟩) := by
  induction hchecked generalizing n b behind with
  | nil =>
      obtain ⟨n, rfl⟩ : ∃ m, n = m + 1 := ⟨n - 1, by simp at hn; omega⟩
      obtain rfl : b = false := by simpa using hb
      exact ⟨_, calls_close⟩
  | @cons c cs w v _ hcompare hcheck _ ih =>
      obtain ⟨n, rfl⟩ : ∃ m, n = m + 2 := ⟨n - 2, by simp at hn; omega⟩
      obtain ⟨x, t, hc, hx⟩ := call_start (s := s) c
      have hread := reads_call hs (hoperands c List.mem_cons_self) hcompare hcheck
        (hsize c List.mem_cons_self) behind
      cases cs with
      | nil =>
          obtain ⟨u, hfirst⟩ := hread (';' :: rest)
          rw [hc, List.cons_append] at hfirst
          refine ⟨';' :: u, ?_⟩
          rw [List.map_cons, List.map_nil, Text.joinWith, hc, List.cons_append]
          exact calls_last hx hfirst
      | cons d more =>
          have hjoin : Text.joinWith [',', ' '] ((c :: d :: more).map
                (Call.printWith (ColumnRef.printIn s))) ++ ';' :: rest =
              c.printWith (ColumnRef.printIn s) ++ ',' :: ' ' :: (Text.joinWith [',', ' ']
                ((d :: more).map (Call.printWith (ColumnRef.printIn s))) ++ ';' :: rest) := by
            simp [Text.joinWith]
          obtain ⟨u, hfirst⟩ := hread (',' :: ' ' :: (Text.joinWith [',', ' ']
            ((d :: more).map (Call.printWith (ColumnRef.printIn s))) ++ ';' :: rest))
          obtain ⟨u', hmore⟩ := ih (fun c hc => hoperands c (List.mem_cons_of_mem _ hc))
            (fun c hc => hsize c (List.mem_cons_of_mem _ hc)) (n := n + 1) (by simpa using hn)
            (b := true) (by simp) (' ' :: ',' :: u)
          refine ⟨u', ?_⟩
          rw [hc, List.cons_append] at hfirst
          rw [hjoin, hc, List.cons_append, calls_more hx hfirst, calls_blank (by decide), hmore]
          rfl

end Calls

section Rules

variable {s : ColumnSet} {size : Nat}

theorem rules_blank {c : Char} {n : Nat} {behind t : Text}
    (h : (Text.isSpaceOrTab c || Text.isLineEnd c) = true) :
    Source.rules s size (n + 1) ⟨behind, c :: t⟩ =
      Source.rules s size (n + 1) ⟨c :: behind, t⟩ := by
  simp only [Source.rules, Cursor.skipTrivia_blank h]

structure LegibleRule (s : ColumnSet) (size : Nat) (r : Rule) : Prop where
  checked : ∃ v, Checked s r.calls (Written.nothing s) v
  operands : ∀ c ∈ r.calls, ∀ p ∈ c.params, ∀ o ∈ p.operands, o.Legible s
  params : ∀ c ∈ r.calls, c.params.length < size
  calls : r.calls.length < size

theorem reads_rule (hs : ColumnSet.WellNamed s.columns) {r : Rule} (hr : LegibleRule s size r)
    (n : Nat) (behind rest : Text) :
    ∃ behind', Source.rules s size (n + 1)
        ⟨behind, r.printWith (ColumnRef.printIn s) ++ rest⟩ =
      (Source.rules s size n ⟨behind', rest⟩).map (r :: ·) := by
  obtain ⟨v, hv⟩ := hr.checked
  have happend : r.printWith (ColumnRef.printIn s) ++ rest =
      '*' :: ' ' :: (Text.joinWith [',', ' ']
        (r.calls.map (Call.printWith (ColumnRef.printIn s))) ++ ';' :: rest) := by
    simp [Rule.printWith]
  have hstar (t : Text) : Cursor.skipTrivia ⟨behind, '*' :: t⟩ = ⟨behind, '*' :: t⟩ :=
    Cursor.skipTrivia_cons (by decide)
  obtain ⟨u, hcalls⟩ := reads_calls hs hv hr.operands hr.params hr.calls
    (b := false) (by simp) (' ' :: '*' :: behind) rest
  have hread : calls s size size false (Written.nothing s) ⟨'*' :: behind, ' ' :: (Text.joinWith
      [',', ' '] (r.calls.map (Call.printWith (ColumnRef.printIn s))) ++ ';' :: rest)⟩ =
        .ok (r.calls, ⟨u, rest⟩) := by
    obtain ⟨m, rfl⟩ : ∃ m, size = m + 1 := ⟨size - 1, by have := hr.calls; omega⟩
    rw [calls_blank (by decide), hcalls]
  refine ⟨u, ?_⟩
  rw [happend, Source.rules]
  simp only [hstar, List.isEmpty_cons, Bool.false_eq_true, ↓reduceIte, List.head?_cons,
    Cursor.next_cons, hread, bind, Except.bind, pure, Except.pure]
  cases Source.rules s size n ⟨u, rest⟩ <;> rfl

theorem reads_rules (hs : ColumnSet.WellNamed s.columns) {rs : List Rule}
    (hrules : ∀ r ∈ rs, LegibleRule s size r) {n : Nat} (hn : rs.length < n) (behind : Text) :
    Source.rules s size n
      ⟨behind, Text.joinWith ['\n'] (rs.map (Rule.printWith (ColumnRef.printIn s)))⟩ = .ok rs := by
  induction rs generalizing n behind with
  | nil =>
      obtain ⟨n, rfl⟩ : ∃ m, n = m + 1 := ⟨n - 1, by simp at hn; omega⟩
      rfl
  | cons r rs ih =>
      obtain ⟨n, rfl⟩ : ∃ m, n = m + 2 := ⟨n - 2, by simp at hn; omega⟩
      have hread (rest : Text) := reads_rule hs (hrules r List.mem_cons_self) (n + 1) behind rest
      have hmore (behind : Text) := ih (fun r hr => hrules r (List.mem_cons_of_mem _ hr))
        (n := n + 1) (by simpa using hn) behind
      cases rs with
      | nil =>
          obtain ⟨u, hfirst⟩ := hread []
          rw [List.append_nil] at hfirst
          rw [List.map_cons, List.map_nil, Text.joinWith, hfirst]
          rfl
      | cons q more =>
          obtain ⟨u, hfirst⟩ := hread ('\n' :: Text.joinWith ['\n'] ((q :: more).map
            (Rule.printWith (ColumnRef.printIn s))))
          have hjoin : Text.joinWith ['\n'] ((r :: q :: more).map
                (Rule.printWith (ColumnRef.printIn s))) =
              r.printWith (ColumnRef.printIn s) ++ '\n' :: Text.joinWith ['\n']
                ((q :: more).map (Rule.printWith (ColumnRef.printIn s))) := by
            simp [Text.joinWith]
          rw [hjoin, hfirst, rules_blank (by decide), hmore]
          rfl

end Rules

end RuleSet.Source

namespace Text

variable {α : Type} {xs : List α}

theorem length_le_joinWith (f : α → Text) (separator : Text) {x : α} (h : x ∈ xs) :
    (f x).length ≤ (joinWith separator (xs.map f)).length := by
  induction xs with
  | nil => simp at h
  | cons y xs ih =>
      cases xs with
      | nil =>
          obtain rfl := List.mem_singleton.1 h
          exact Nat.le_refl _
      | cons z xs =>
          have hjoin : joinWith separator ((y :: z :: xs).map f) =
              f y ++ separator ++ joinWith separator ((z :: xs).map f) := rfl
          rw [hjoin, List.length_append, List.length_append]
          rcases List.mem_cons.1 h with rfl | h
          · omega
          · have := ih h
            omega

theorem count_le_joinWith {f : α → Text} (separator : Text) (h : ∀ x ∈ xs, f x ≠ []) :
    xs.length ≤ (joinWith separator (xs.map f)).length := by
  induction xs with
  | nil => simp
  | cons y xs ih =>
      have hy : 0 < (f y).length := List.length_pos_iff.2 (h y List.mem_cons_self)
      cases xs with
      | nil => exact hy
      | cons z xs =>
          have hjoin : joinWith separator ((y :: z :: xs).map f) =
              f y ++ separator ++ joinWith separator ((z :: xs).map f) := rfl
          have hmore := ih fun x hx => h x (List.mem_cons_of_mem _ hx)
          rw [hjoin, List.length_append, List.length_append, List.length_cons]
          omega

end Text

namespace RuleSet

section Compiled

variable {s : ColumnSet} {source : Text} {rules : RuleSet}

theorem legible_of_compile (h : compile source s = .ok rules)
    (hplain : ∀ t ∈ rules.texts, Quoted.IsPlain t) {size : Nat}
    (hsize : (rules.printWith (ColumnRef.printIn s)).length < size) :
    ∀ r ∈ rules.rules, Source.LegibleRule s size r := by
  intro r hr
  have hcalls : (Text.joinWith [',', ' ']
      (r.calls.map (Call.printWith (ColumnRef.printIn s)))).length < size := by
    have hrule := Text.length_le_joinWith (Rule.printWith (ColumnRef.printIn s)) ['\n'] hr
    rw [printWith] at hsize
    simp only [Rule.printWith, List.cons_append, List.length_cons, List.length_append] at hrule
    omega
  refine ⟨checked_of_compile h hr, ?_, ?_, ?_⟩
  · intro c hc p hp o ho
    refine ⟨fits_of_compile h r hr c hc p hp o ho, ?_⟩
    rintro t rfl
    refine hplain t (mem_texts.2 ?_)
    simp only [operands, List.mem_flatMap]
    exact ⟨r, hr, c, hc, p, hp, ho⟩
  · intro c hc
    have hcall := Text.length_le_joinWith (Call.printWith (ColumnRef.printIn s)) [',', ' '] hc
    have hne : ∀ p ∈ c.params, p.printWith (ColumnRef.printIn s) ≠ [] := by
      intro p _
      obtain ⟨x, t, hp, -⟩ := Source.param_start (s := s) p
      simp [hp]
    have hcount := Text.count_le_joinWith [',', ' '] hne
    simp only [Call.printWith, List.length_cons, List.length_append] at hcall
    omega
  · have hne : ∀ c ∈ r.calls, c.printWith (ColumnRef.printIn s) ≠ [] := by
      intro c _
      obtain ⟨x, t, hc, -⟩ := Source.call_start (s := s) c
      simp [hc]
    have hcount := Text.count_le_joinWith [',', ' '] hne
    omega

/-- The text of compiled rules, with the ids of their columns, compiles to the rules. -/
theorem compile_nameColumns {ds : List ColumnDefinition}
    (hs : ColumnSet.ofDefinitions ds = .ok s) (h : compile source s = .ok rules)
    (hplain : ∀ t ∈ rules.texts, Quoted.IsPlain t) :
    compile (s.nameColumns rules.print) s = .ok rules := by
  rw [ColumnSet.nameColumns_print hplain]
  have hne : ∀ r ∈ rules.rules, r.printWith (ColumnRef.printIn s) ≠ [] := by
    intro r _
    simp [Rule.printWith]
  have hcount := Text.count_le_joinWith ['\n'] hne
  have hread : Source.rules s ((rules.printWith (ColumnRef.printIn s)).length + 1)
      ((rules.printWith (ColumnRef.printIn s)).length + 1)
      (Cursor.ofText (rules.printWith (ColumnRef.printIn s))) = .ok rules.rules :=
    Source.reads_rules (ColumnSet.wellNamed_of_definitions hs)
      (legible_of_compile h hplain (Nat.lt_succ_self _)) (Nat.lt_succ_of_le hcount) []
  have hcolumns := columns_of_compile h
  simp only [compile, hread, bind, Except.bind]
  split
  · rename_i hnil
    exact absurd hnil (rules_of_compile h).2
  · rw [← hcolumns]

end Compiled

namespace Sample

def definitions : List ColumnDefinition :=
  [⟨"File".toList, .name, none⟩, ⟨"size".toList, .size, none⟩]

def columns : ColumnSet :=
  ⟨[⟨"File".toList, .name, .empty⟩, ⟨"size".toList, .size, .number 0⟩], 0⟩

def source : Text :=
  "*word(<FILE>),number( <size>), IF(<size>!=-09) # no\n,if(\"<#1>\\t\"not_in <file>); * ;".toList

def rules : RuleSet :=
  ⟨[⟨[⟨.word, [.operand (.column (.declared 0))]⟩,
      ⟨.number, [.operand (.column (.declared 1))]⟩,
      ⟨.require, [.comparison (.column (.declared 1)) .notEqual (.number (-9))]⟩,
      ⟨.require, [.comparison (.text "<#1>\t".toList) .notWithin (.column (.declared 0))]⟩]⟩,
    ⟨[]⟩], columns⟩

theorem compile_nameColumns_rules :
    columns.nameColumns rules.print =
        ("* word(<File>), number(<size>), if(<size> != -9), " ++
          "if(\"<#1>\\t\" not_in <File>);\n* ;").toList ∧
      compile (columns.nameColumns rules.print) columns = .ok rules :=
  ⟨by decide +kernel, compile_nameColumns
    (show ColumnSet.ofDefinitions definitions = .ok columns by rfl)
    (show compile source columns = .ok rules by rfl) (by decide +kernel)⟩

end Sample

end RuleSet

end ListingRules
