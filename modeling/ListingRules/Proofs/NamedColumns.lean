import ListingRules.Proofs.CheckedRules
import ListingRules.Proofs.ColumnChecks

namespace ListingRules

theorem Text.sameAscii_comm (a b : Text) : sameAscii a b = sameAscii b a :=
  Bool.eq_iff_iff.2 ⟨fun h => sameAscii_iff.2 (sameAscii_iff.1 h).symm,
    fun h => sameAscii_iff.2 (sameAscii_iff.1 h).symm⟩

namespace ColumnSet

structure WellNamed (columns : List Column) : Prop where
  identifier : ∀ c ∈ columns, isIdentifier c.id = true
  flag : ∀ c ∈ columns, ColumnRef.flag? c.id = none
  distinct : columns.Pairwise fun a b => Text.sameAscii a.id b.id = false

theorem flag?_eq_none {id : Text} (h : flagIds.any (Text.sameAscii id) = false) :
    ColumnRef.flag? id = none := by
  simp only [flagIds, List.any_cons, List.any_nil, Bool.or_false, Bool.or_eq_false_iff] at h
  simp only [ColumnRef.flag?, h.1, h.2.1, h.2.2, Bool.false_eq_true, ↓reduceIte]

theorem id_of_columnOf {before : List Column} {d : ColumnDefinition} {c : Column}
    (h : columnOf before d = .ok c) :
    isIdentifier c.id = true ∧ ColumnRef.flag? c.id = none ∧
      ∀ a ∈ before, Text.sameAscii a.id c.id = false := by
  obtain ⟨⟨hid, hflag⟩, hfree, -, hc, -⟩ := columnOf_eq_ok_iff.1 h
  rw [hc]
  refine ⟨hid, flag?_eq_none (List.any_eq_false.2 fun f hf => by simp [hflag f hf]), fun a ha => ?_⟩
  rw [Text.sameAscii_comm, ← Bool.not_eq_true]
  exact fun hshared => hfree ⟨a.id, List.mem_map_of_mem ha, hshared⟩

theorem WellNamed.append {before : List Column} {d : ColumnDefinition} {c : Column}
    (hbefore : WellNamed before) (h : columnOf before d = .ok c) : WellNamed (before ++ [c]) := by
  obtain ⟨hid, hflag, hdistinct⟩ := id_of_columnOf h
  refine ⟨?_, ?_, ?_⟩
  · simpa using fun a ha => ha.elim (hbefore.identifier a) fun h => h ▸ hid
  · simpa using fun a ha => ha.elim (hbefore.flag a) fun h => h ▸ hflag
  · exact List.pairwise_append.2
      ⟨hbefore.distinct, List.pairwise_singleton .., by simpa using hdistinct⟩

theorem WellNamed.columnsFrom {before columns : List Column} {ds : List ColumnDefinition}
    (hbefore : WellNamed before) (h : columnsFrom before ds = .ok columns) : WellNamed columns := by
  induction ds generalizing before with
  | nil =>
      obtain rfl := Except.ok.inj h
      exact hbefore
  | cons d ds ih =>
      obtain ⟨c, hc, h⟩ := RuleSet.bind_eq_ok.1 h
      exact ih (hbefore.append hc) h

theorem wellNamed_of_definitions {ds : List ColumnDefinition} {s : ColumnSet}
    (h : ofDefinitions ds = .ok s) : WellNamed s.columns :=
  WellNamed.columnsFrom ⟨by simp, by simp, .nil⟩ (columnsFrom_of_definitions h)

theorem find?_id {s : ColumnSet} (h : WellNamed s.columns) {i : Nat} {c : Column}
    (hc : s.get? i = some c) : s.find? c.id = some i :=
  findIdx?_sameAscii h.distinct hc (Text.sameAscii_refl c.id)

def idAt (s : ColumnSet) (digits : Text) : Text :=
  match s.get? (Decimal.value digits) with
  | some c => c.id
  | none => '#' :: digits

inductive PrintedPart where
  | code
  | bracket
  | quoted
  | escaped
  | position (digits : Text)

namespace PrintedPart

def afterCode (c : Char) : PrintedPart :=
  if c = '<' then bracket else if c = '"' then quoted else code

def afterQuoted (c : Char) : PrintedPart :=
  if c = '"' then code else if c = '\\' then escaped else quoted

end PrintedPart

def nameFrom (s : ColumnSet) : PrintedPart → Text → Text
  | _, [] => []
  | .code, c :: t => c :: s.nameFrom (.afterCode c) t
  | .bracket, c :: t =>
      if c = '#' then s.nameFrom (.position []) t else c :: s.nameFrom (.afterCode c) t
  | .quoted, c :: t => c :: s.nameFrom (.afterQuoted c) t
  | .escaped, c :: t => c :: s.nameFrom .quoted t
  | .position digits, c :: t =>
      if c = '>' then s.idAt digits ++ '>' :: s.nameFrom .code t
      else s.nameFrom (.position (digits ++ [c])) t

def nameColumns (s : ColumnSet) (t : Text) : Text :=
  s.nameFrom .code t

end ColumnSet

def ColumnRef.printIn (s : ColumnSet) : ColumnRef → Text
  | declared i => '<' :: s.idAt (Decimal.digits i) ++ ['>']
  | c => c.print

theorem ColumnRef.printIn_declared (s : ColumnSet) (i : Nat) :
    (declared i).printIn s = '<' :: s.idAt (Decimal.digits i) ++ ['>'] := rfl

def Renames (s : ColumnSet) (t u : Text) : Prop :=
  ∀ rest, s.nameFrom .code (t ++ rest) = u ++ s.nameFrom .code rest

namespace Renames

variable {s : ColumnSet} {t u t' u' : Text}

theorem append (h : Renames s t u) (h' : Renames s t' u') : Renames s (t ++ t') (u ++ u') := by
  intro rest
  rw [List.append_assoc, h, h', List.append_assoc]

theorem nil : Renames s [] [] := fun _ => rfl

theorem of_plain (h : (t.any fun c => c == '<' || c == '"') = false) : Renames s t t := by
  intro rest
  induction t with
  | nil => rfl
  | cons c t ih =>
      simp only [List.any_cons, Bool.or_eq_false_iff, beq_eq_false_iff_ne] at h
      obtain ⟨⟨hbracket, hquote⟩, ht⟩ := h
      have htail : (t.any fun c => c == '<' || c == '"') = false := by
        simpa only [Bool.or_eq_false_iff] using ht
      rw [List.cons_append, ColumnSet.nameFrom, ColumnSet.PrintedPart.afterCode, if_neg hbracket,
        if_neg hquote, ih htail, List.cons_append]

theorem joinWith {α : Type} {xs : List α} {f g : α → Text} (separator : Text)
    (hseparator : Renames s separator separator) (h : ∀ x ∈ xs, Renames s (f x) (g x)) :
    Renames s (Text.joinWith separator (xs.map f)) (Text.joinWith separator (xs.map g)) := by
  induction xs with
  | nil => exact nil
  | cons x xs ih =>
      have hx := h x List.mem_cons_self
      cases xs with
      | nil => exact hx
      | cons y xs =>
          exact (hx.append hseparator).append (ih fun z hz => h z (List.mem_cons_of_mem _ hz))

end Renames

namespace ColumnSet

variable {s : ColumnSet}

theorem nameFrom_position {digits seen : Text} (h : ∀ c ∈ digits, c ≠ '>') (rest : Text) :
    s.nameFrom (.position seen) (digits ++ '>' :: rest) =
      s.idAt (seen ++ digits) ++ '>' :: s.nameFrom .code rest := by
  induction digits generalizing seen with
  | nil => simp [nameFrom]
  | cons c digits ih =>
      rw [List.cons_append, nameFrom, if_neg (h c List.mem_cons_self),
        ih fun x hx => h x (List.mem_cons_of_mem _ hx)]
      simp

theorem nameFrom_escape (c : Char) (rest : Text) :
    s.nameFrom .quoted (Quoted.escape c ++ rest) =
      Quoted.escape c ++ s.nameFrom .quoted rest := by
  rcases Quoted.escape_cases c with ⟨e, he, -, -⟩ | ⟨he, hquote, hbackslash, -⟩
  · rw [he]
    rfl
  · rw [he]
    simp [nameFrom, PrintedPart.afterQuoted, hquote, hbackslash]

theorem nameFrom_escapes (t rest : Text) :
    s.nameFrom .quoted (t.flatMap Quoted.escape ++ rest) =
      t.flatMap Quoted.escape ++ s.nameFrom .quoted rest := by
  induction t with
  | nil => rfl
  | cons c t ih => rw [List.flatMap_cons, List.append_assoc, nameFrom_escape, ih, List.append_assoc]

theorem renames_encode (t : Text) : Renames s (Quoted.encode t) (Quoted.encode t) := by
  intro rest
  have h := nameFrom_escapes (s := s) t ('"' :: rest)
  simpa [Quoted.encode, nameFrom, PrintedPart.afterCode, PrintedPart.afterQuoted] using h

theorem renames_digits (n : Nat) : Renames s (Decimal.digits n) (Decimal.digits n) := by
  refine .of_plain (List.any_eq_false.2 fun c hc hsign => ?_)
  have hdigit := Decimal.isDigit_of_mem_digits hc
  rw [Bool.or_eq_true, beq_iff_eq, beq_iff_eq] at hsign
  rcases hsign with rfl | rfl <;> exact absurd hdigit (by decide)

theorem renames_bracket {c : Char} {t u : Text} (hu : u = '<' :: c :: t) (hposition : c ≠ '#')
    (h : ((c :: t).any fun x => x == '<' || x == '"') = false) : Renames s u u := by
  intro rest
  have hplain := Renames.of_plain (s := s) h rest
  rw [List.cons_append, nameFrom, List.cons_append, List.cons.injEq] at hplain
  rw [hu, List.cons_append, List.cons_append, nameFrom, PrintedPart.afterCode, if_pos rfl, nameFrom,
    if_neg hposition, hplain.2]
  rfl

theorem renames_column (c : ColumnRef) : Renames s c.print (c.printIn s) := by
  cases c with
  | isDir =>
      have h : ColumnRef.isDir.print = '<' :: 'i' :: "s_dir>".toList := rfl
      exact renames_bracket h (by decide) (by decide)
  | isHidden =>
      have h : ColumnRef.isHidden.print = '<' :: 'i' :: "s_hidden>".toList := rfl
      exact renames_bracket h (by decide) (by decide)
  | isLink =>
      have h : ColumnRef.isLink.print = '<' :: 'i' :: "s_link>".toList := rfl
      exact renames_bracket h (by decide) (by decide)
  | declared i =>
      intro rest
      have hclose : ∀ c ∈ Decimal.digits i, c ≠ '>' := by
        intro c hc
        have hdigit := Decimal.isDigit_of_mem_digits hc
        rintro rfl
        revert hdigit
        decide
      have hprint : (ColumnRef.declared i).print ++ rest =
          '<' :: '#' :: (Decimal.digits i ++ '>' :: rest) := by
        rw [ColumnRef.print_declared, List.append_assoc, List.cons_append, List.cons_append]
        rfl
      rw [hprint, nameFrom, PrintedPart.afterCode, if_pos rfl, nameFrom, if_pos rfl,
        nameFrom_position hclose, ColumnRef.printIn_declared]
      simp

theorem renames_operand {o : Operand} (h : ∀ t, o = .text t → Quoted.IsPlain t) :
    Renames s (o.printWith ColumnRef.print) (o.printWith (ColumnRef.printIn s)) := by
  cases o with
  | column c => exact renames_column c
  | bool b => cases b <;> exact .of_plain (by decide)
  | text t =>
      rw [Operand.printWith, Operand.printWith, Quoted.encodeVisibly_of_plain (h t rfl)]
      exact renames_encode t
  | number n =>
      simp only [Operand.printWith, Decimal.ofInt]
      split
      · exact (Renames.of_plain (t := ['-']) (by decide)).append (renames_digits _)
      · exact renames_digits _
  | state v => cases v <;> exact .of_plain (by decide)

theorem renames_param {p : Param} (h : ∀ t, .text t ∈ p.operands → Quoted.IsPlain t) :
    Renames s (p.printWith ColumnRef.print) (p.printWith (ColumnRef.printIn s)) := by
  cases p with
  | operand o => exact renames_operand fun t ht => h t (by simp [Param.operands, ht])
  | comparison l op r =>
      have hl := renames_operand (s := s) (o := l) fun t ht => h t (by simp [Param.operands, ht])
      have hr := renames_operand (s := s) (o := r) fun t ht => h t (by simp [Param.operands, ht])
      have hop : Renames s (' ' :: (op.name.toList ++ [' ']))
          (' ' :: (op.name.toList ++ [' '])) := by
        cases op <;> exact .of_plain (by decide)
      simpa [Param.printWith] using hl.append (hop.append hr)

theorem renames_call {c : Call} (h : ∀ p ∈ c.params, ∀ t, .text t ∈ p.operands → Quoted.IsPlain t) :
    Renames s (c.printWith ColumnRef.print) (c.printWith (ColumnRef.printIn s)) := by
  have hname : Renames s (c.function.name.toList ++ ['(']) (c.function.name.toList ++ ['(']) := by
    cases c.function <;> exact .of_plain (by decide)
  have hparams := Renames.joinWith (s := s) [',', ' '] (.of_plain (by decide))
    fun p hp => renames_param (h p hp)
  have hclose : Renames s [')'] [')'] := .of_plain (by decide)
  simpa [Call.printWith] using (hname.append hparams).append hclose

theorem renames_rule {r : Rule}
    (h : ∀ c ∈ r.calls, ∀ p ∈ c.params, ∀ t, .text t ∈ p.operands → Quoted.IsPlain t) :
    Renames s (r.printWith ColumnRef.print) (r.printWith (ColumnRef.printIn s)) := by
  have hstar : Renames s ['*', ' '] ['*', ' '] := .of_plain (by decide)
  have hcalls := Renames.joinWith (s := s) [',', ' '] (.of_plain (by decide))
    fun c hc => renames_call (h c hc)
  have hclose : Renames s [';'] [';'] := .of_plain (by decide)
  simpa [Rule.printWith] using (hstar.append hcalls).append hclose

theorem nameColumns_print {rules : RuleSet} (h : ∀ t ∈ rules.texts, Quoted.IsPlain t) :
    s.nameColumns rules.print = rules.printWith (ColumnRef.printIn s) := by
  have htexts : ∀ r ∈ rules.rules, ∀ c ∈ r.calls, ∀ p ∈ c.params, ∀ t, .text t ∈ p.operands →
      Quoted.IsPlain t := by
    intro r hr c hc p hp t ht
    refine h t (RuleSet.mem_texts.2 ?_)
    simp only [RuleSet.operands, List.mem_flatMap]
    exact ⟨r, hr, c, hc, p, hp, ht⟩
  have hrules := Renames.joinWith (s := s) ['\n'] (.of_plain (by decide))
    fun r hr => renames_rule (htexts r hr)
  have hall := hrules []
  simpa [nameColumns, RuleSet.print, RuleSet.printWith, nameFrom] using hall

end ColumnSet

end ListingRules
