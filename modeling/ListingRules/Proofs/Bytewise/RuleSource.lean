import ListingRules.Proofs.Bytewise.Source
import ListingRules.Proofs.RuleErrors

namespace ListingRules.Bytewise

open Text (byteCount)

def isIdentifierStartByte (b : UInt8) : Bool :=
  'A'.toUInt8 ≤ b && b ≤ 'Z'.toUInt8 || 'a'.toUInt8 ≤ b && b ≤ 'z'.toUInt8 || b == '_'.toUInt8

def isIdentifierPartByte (b : UInt8) : Bool :=
  isIdentifierStartByte b || isDigitByte b

def readNumber? (t : Text) : Option Int :=
  let digits := if t.head? = some '+' ∨ t.head? = some '-' then t.tail else t
  let n : Int := if t.head? = some '-' then -(Decimal.value digits : Int) else Decimal.value digits
  if digits.isEmpty || !digits.all Char.isDigit then none
  else if n < Decimal.minNumber ∨ Decimal.maxNumber < n then none else some n

def operatorAt? (t : Text) : Option Operator :=
  Operator.all.find? fun op =>
    (sliceTo t op.name.length).toOption.any (Text.sameAscii · op.name.toList)

namespace RuleSource

def trivia : Bool → List UInt8 → Nat
  | _, [] => 0
  | true, b :: bs => 1 + trivia (!isLineEndByte b) bs
  | false, b :: bs =>
      if b == ' '.toUInt8 || b == '\t'.toUInt8 || isLineEndByte b then 1 + trivia false bs
      else if b == '#'.toUInt8 then 1 + trivia true bs
      else 0

def skipTrivia (src : Text) (pos : Nat) : Nat :=
  pos + trivia false ((bytes src).drop pos)

def token (src : Text) (missing : SourceFault) (pos : Nat) : Compiling Nat :=
  let stop := skipTrivia src pos
  if (byteAt? src stop).isNone then fail ⟨missing, stop, 0, none⟩ else .ok stop

def identifier (src : Text) (missing : SourceFault) (start : Nat) : Compiling (Text × Nat) :=
  if (byteAt? src start).any isIdentifierStartByte then do
    let more := ((bytes src).drop (start + 1)).takeWhile isIdentifierPartByte
    let stop := start + 1 + more.length
    let id ← checked (slice src start stop)
    return (id, stop)
  else failHere src missing start

def number (src : Text) (start : Nat) : Compiling (Int × Nat) :=
  let signed := byteAt? src start = some '+'.toUInt8 ∨ byteAt? src start = some '-'.toUInt8
  let first := if signed then start + 1 else start
  let stop := first + (((bytes src).drop first).takeWhile isDigitByte).length
  if first = stop then failBetween .invalidNumber start stop
  else do
    let t ← checked (slice src start stop)
    match readNumber? t with
    | some n => return (n, stop)
    | none => failBetween .invalidNumber start stop

def column (s : ColumnSet) (src : Text) (pos : Nat) : Compiling (ColumnRef × Nat) := do
  let start ← token src .missingColumnId (pos + 1)
  let (id, stop) ← identifier src .invalidColumnId start
  let ref ← match ColumnRef.flag? id with
    | some flag => Except.ok flag
    | none =>
        match s.find? id with
        | none => fail ⟨.unknownColumn, start, byteCount id, none⟩
        | some i =>
            if (s.operandType? (.declared i)).isSome then .ok (.declared i)
            else fail ⟨.genericColumn, start, byteCount id, none⟩
  let bracket := skipTrivia src stop
  if byteAt? src bracket = some '>'.toUInt8 then return (ref, bracket + 1)
  else fail ⟨.missingColumnIdEnd, bracket, 0, none⟩

def keyword (src : Text) (start : Nat) : Compiling (Operand × Nat) := do
  let (name, stop) ← identifier src .invalidStateVarOrBool start
  match Operand.ofKeyword? name with
  | some o => return (o, stop)
  | none => fail ⟨.unknownStateVar, start, byteCount name, none⟩

def operand (s : ColumnSet) (src : Text) (pos : Nat) : Compiling (Operand × Nat) :=
  match byteAt? src pos with
  | some b =>
      if b = '<'.toUInt8 then (column s src pos).map fun (r, d) => (.column r, d)
      else if b = '"'.toUInt8 then (literal src pos).map fun (t, d) => (.text t, d)
      else if isDigitByte b || b == '+'.toUInt8 || b == '-'.toUInt8 then
        (number src pos).map fun (n, d) => (.number n, d)
      else keyword src pos
  | none => keyword src pos

structure Located where
  param : Param
  start : Nat
  stop : Nat
  deriving DecidableEq, Repr

def param (s : ColumnSet) (written : Written) (src : Text) (start : Nat) :
    Compiling (Located × Nat) := do
  let (left, stop) ← operand s src start
  let d ← token src .missingParenEnd stop
  let rest ← checked (sliceFrom src d)
  match operatorAt? rest with
  | none => return (⟨.operand left, start, stop⟩, d)
  | some op => do
      let d ← token src .missingParenEnd (d + op.name.length)
      if byteAt? src d = some ')'.toUInt8 ∨ byteAt? src d = some ','.toUInt8 then
        failHere src .rightOperandExpected d
      else do
        let (right, stop) ← operand s src d
        match checkComparison s left op right written with
        | .error fault => failBetween fault start stop
        | .ok () => do
            let d ← token src .missingParenEnd stop
            let rest ← checked (sliceFrom src d)
            match operatorAt? rest with
            | some op => fail ⟨.unsupportedExpression, d, op.name.length, none⟩
            | none => return (⟨.comparison left op right, start, stop⟩, d)

def params (s : ColumnSet) (written : Written) (src : Text) :
    Nat → Bool → Nat → Compiling (List Located × Nat)
  | 0, _, _ => .error (.trap .endless)
  | n + 1, afterComma, pos => do
      let d ← token src .missingParenEnd pos
      if byteAt? src d = some ','.toUInt8 then failHere src .parameterExpected d
      else if byteAt? src d = some ')'.toUInt8 then
        if afterComma then failHere src .parameterExpected d else return ([], d + 1)
      else do
        let (p, e) ← param s written src d
        if byteAt? src e = some ','.toUInt8 then
          (params s written src n true (e + 1)).map fun (ps, f) => (p :: ps, f)
        else if byteAt? src e = some ')'.toUInt8 then
          (params s written src n false e).map fun (ps, f) => (p :: ps, f)
        else failHere src .unexpectedSymbolOrOperator e

def call (s : ColumnSet) (src : Text) (size : Nat) (written : Written) (start : Nat) :
    Compiling ((Call × Written) × Nat) := do
  let (name, stop) ← identifier src .invalidFunctionName start
  match RuleFunction.ofName? name with
  | none => fail ⟨.unknownFunction, start, byteCount name, none⟩
  | some function =>
      let paren := skipTrivia src stop
      if byteAt? src paren ≠ some '('.toUInt8 then
        fail ⟨.missingFunctionParams, start, byteCount name, none⟩
      else do
        let (located, d) ← params s written src size false (paren + 1)
        let call : Call := ⟨function, located.map (·.param)⟩
        match call.check s written with
        | .ok written => return ((call, written), d)
        | .error fault =>
            match fault.param.bind (located[·]?) with
            | some p => failBetween fault.fault p.start p.stop
            | none => failBetween fault.fault start d

def calls (s : ColumnSet) (src : Text) (size : Nat) :
    Nat → Bool → Written → Nat → Compiling (List Call × Nat)
  | 0, _, _, _ => .error (.trap .endless)
  | n + 1, afterComma, written, pos => do
      let d ← token src .missingRuleEnd pos
      if byteAt? src d = some ';'.toUInt8 then
        if afterComma then failHere src .functionExpected d else return ([], d + 1)
      else do
        let ((first, written), e) ← call s src size written d
        let e ← token src .missingRuleEnd e
        if byteAt? src e = some ','.toUInt8 then
          (calls s src size n true written (e + 1)).map fun (cs, f) => (first :: cs, f)
        else if byteAt? src e = some ';'.toUInt8 then
          (calls s src size n false written e).map fun (cs, f) => (first :: cs, f)
        else failHere src .unexpectedSymbol e

def rules (s : ColumnSet) (src : Text) (size : Nat) : Nat → Nat → Compiling (List Rule × Nat)
  | 0, _ => .error (.trap .endless)
  | n + 1, pos =>
      let d := skipTrivia src pos
      if (byteAt? src d).isNone then return ([], d)
      else if byteAt? src d = some '*'.toUInt8 then do
        let (cs, e) ← calls s src size size false (Written.nothing s) (d + 1)
        (rules s src size n e).map fun (rs, f) => (⟨cs⟩ :: rs, f)
      else failHere src .unexpectedSymbol d

end RuleSource

def compileRules (src : Text) (columns : ColumnSet) : Compiling RuleSet := do
  let size := byteCount src + 1
  let (rules, stop) ← RuleSource.rules columns src size size 0
  if rules.isEmpty then fail ⟨.emptyRuleSet, stop, 0, none⟩ else return ⟨rules, columns⟩

theorem isIdentifierStartByte_lead (c : Char) :
    isIdentifierStartByte (lead c) = isIdentifierStart c := by
  by_cases hc : IsAscii c
  · rw [lead_of_isAscii hc]
    obtain ⟨n, hn, rfl⟩ := eq_ofNat_of_isAscii hc
    revert n
    decide
  · have hle := le_lead hc
    have hupper : ¬lead c ≤ 'Z'.toUInt8 := not_le_byte hle (by decide)
    have hlower : ¬lead c ≤ 'z'.toUInt8 := not_le_byte hle (by decide)
    have hupper' : ¬c.val ≤ 'Z'.val := not_le_char hc (by decide)
    have hlower' : ¬c.val ≤ 'z'.val := not_le_char hc (by decide)
    have halpha : c.isAlpha = false := by
      delta Char.isAlpha Char.isUpper Char.isLower
      simp only [hupper', hlower', and_false, decide_false, Bool.and_false, Bool.or_false]
    simp [isIdentifierStartByte, isIdentifierStart, halpha, hupper, hlower,
      lead_beq (by decide : IsAscii '_')]

theorem isIdentifierPartByte_lead (c : Char) :
    isIdentifierPartByte (lead c) = isIdentifierPart c := by
  rw [isIdentifierPartByte, isIdentifierStartByte_lead, isDigitByte_lead, isIdentifierStart,
    isIdentifierPart, Char.isAlphanum]
  cases c.isAlpha <;> cases c.isDigit <;> cases c == '_' <;> rfl

theorem isAscii_of_isIdentifierPart {c : Char} (h : isIdentifierPart c = true) : IsAscii c := by
  by_contra hc
  have hle := le_lead hc
  have hupper : ¬lead c ≤ 'Z'.toUInt8 := not_le_byte hle (by decide)
  have hlower : ¬lead c ≤ 'z'.toUInt8 := not_le_byte hle (by decide)
  have hdigit : ¬lead c ≤ '9'.toUInt8 := not_le_byte hle (by decide)
  have hunderscore : c ≠ '_' := by
    rintro rfl
    exact hc (by decide)
  rw [← isIdentifierPartByte_lead] at h
  simp [isIdentifierPartByte, isIdentifierStartByte, isDigitByte, hupper, hlower, hdigit,
    lead_beq (by decide : IsAscii '_'), hunderscore] at h

theorem isAscii_toLower {c : Char} (h : IsAscii c) : IsAscii c.toLower := by
  obtain ⟨n, hn, rfl⟩ := eq_ofNat_of_isAscii h
  revert n
  decide

theorem byteCount_of_isAscii {t : Text} (h : ∀ c ∈ t, IsAscii c) : byteCount t = t.length := by
  induction t with
  | nil => rfl
  | cons c t ih =>
      obtain ⟨hc, hmore⟩ := List.forall_mem_cons.1 h
      simp [ih hmore, utf8Size_of_isAscii hc, Nat.add_comm]

theorem isAscii_of_sameAscii {t u : Text} (h : Text.sameAscii t u = true)
    (hu : ∀ c ∈ u, IsAscii c) : ∀ c ∈ t, IsAscii c := by
  intro c hc
  have hmem : c.toLower ∈ u.map Char.toLower := by
    rw [← Text.sameAscii_iff.1 h]
    exact List.mem_map_of_mem hc
  obtain ⟨x, hx, hlower⟩ := List.mem_map.1 hmem
  exact isAscii_of_toLower (hlower ▸ isAscii_toLower (hu x hx))

theorem length_of_sameAscii {t u : Text} (h : Text.sameAscii t u = true) : t.length = u.length := by
  simpa using congrArg List.length (Text.sameAscii_iff.1 h)

theorem isAscii_name (op : Operator) : ∀ c ∈ op.name.toList, IsAscii c := by
  have hall : op.name.toList.all (decide <| IsAscii ·) = true := by cases op <;> decide
  exact fun c hc => of_decide_eq_true (List.all_eq_true.1 hall c hc)

theorem byteCount_operator {op : Operator} {t : Text}
    (h : Text.sameAscii (t.take op.name.length) op.name.toList = true) :
    byteCount (t.take op.name.length) = op.name.length := by
  rw [byteCount_of_isAscii (isAscii_of_sameAscii h (isAscii_name op)), length_of_sameAscii h,
    String.length_toList]

theorem operatorAt?_eq (t : Text) : operatorAt? t = Operator.atStart? t := by
  refine congrArg (Operator.all.find? ·) (funext fun op => ?_)
  rw [Bool.eq_iff_iff, Option.any_eq_true]
  constructor
  · rintro ⟨u, hu, hsame⟩
    cases hslice : sliceTo t op.name.length with
    | error trap => simp [hslice, Except.toOption] at hu
    | ok v =>
        obtain rfl : v = u := by simpa [hslice, Except.toOption] using hu
        obtain ⟨b, rfl, -⟩ := sliceTo_eq_ok_iff.1 hslice
        have hlength := length_of_sameAscii hsame
        rw [String.length_toList] at hlength
        rwa [← hlength, List.take_left]
  · intro hsame
    have hslice : sliceTo t op.name.length = .ok (t.take op.name.length) :=
      sliceTo_eq_ok_iff.2 ⟨_, (List.take_append_drop _ t).symm, byteCount_operator hsame⟩
    exact ⟨_, by rw [hslice]; rfl, hsame⟩

namespace RuleSource

open Cursor (Onward Past Spans)

variable {src : Text} {c : Cursor} {s : ColumnSet} {w : Written}

theorem trivia_comment {bs : List UInt8} (more : List UInt8)
    (h : ∀ b ∈ bs, isLineEndByte b = false) :
    trivia true (bs ++ more) = bs.length + trivia true more := by
  induction bs with
  | nil => simp
  | cons b bs ih =>
      obtain ⟨hb, hmore⟩ := List.forall_mem_cons.1 h
      simp only [List.cons_append, trivia, hb, Bool.not_false, ih hmore, List.length_cons]
      omega

theorem trivia_bytes (inComment : Bool) (behind ahead : Text) :
    (⟨behind, ahead⟩ : Cursor).offset + trivia inComment (bytes ahead) =
      (Cursor.skipTriviaFrom inComment behind ahead).offset := by
  fun_induction Cursor.skipTriviaFrom inComment behind ahead with
  | case1 inComment behind => cases inComment <;> rfl
  | case2 behind c ahead ih =>
      rw [← ih, offset_cons, Nat.add_assoc]
      congr 1
      by_cases hc : IsAscii c
      · rw [bytes_cons_of_isAscii hc, trivia, ← lead_of_isAscii hc, isLineEndByte_lead,
          utf8Size_of_isAscii hc]
      · have hend : Text.isLineEnd c = false := by
          simpa using mt isAscii_of_isLineEnd hc
        rw [bytes_cons, trivia_comment _ fun b hb => isLineEndByte_eq_false hend hb, hend,
          String.length_utf8EncodeChar]
        rfl
  | case3 behind c ahead h ih =>
      have hc : IsAscii c := by
        simp only [Text.isSpaceOrTab, Text.isLineEnd, Bool.or_eq_true, beq_iff_eq] at h
        rcases h with (rfl | rfl) | (rfl | rfl) <;> decide
      rw [← ih, offset_cons, Nat.add_assoc, bytes_cons_of_isAscii hc, ← lead_of_isAscii hc, trivia,
        isLineEndByte_lead, lead_beq (by decide), lead_beq (by decide), ← Text.isSpaceOrTab,
        if_pos h, utf8Size_of_isAscii hc]
  | case4 behind c ahead h h' ih =>
      obtain rfl := beq_iff_eq.1 h'
      rw [← ih, offset_cons, Nat.add_assoc, bytes_cons_of_isAscii (by decide)]
      rfl
  | case5 behind c ahead h h' =>
      obtain ⟨bs, hbs⟩ := exists_bytes_cons c ahead
      rw [hbs, trivia, isLineEndByte_lead, lead_beq (by decide), lead_beq (by decide),
        lead_beq (by decide), ← Text.isSpaceOrTab, if_neg h, if_neg h']
      rfl

theorem skipTrivia_eq (hc : c.text = src) : skipTrivia src c.offset = c.skipTrivia.offset := by
  rw [skipTrivia, drop_bytes_offset hc]
  exact trivia_bytes false c.behind c.ahead

theorem token_eq {missing : SourceFault} (hc : c.text = src) :
    token src missing c.offset = told Cursor.offset (RuleSet.Source.token missing c) := by
  have htext : c.skipTrivia.text = src := (Cursor.text_skipTrivia c).trans hc
  simp only [token, RuleSet.Source.token, skipTrivia_eq hc, isNone_byteAt? htext]
  split
  · simp [told, SourceError.point, SourceError.between]
  · rfl

theorem bind_token {β γ : Type} {missing : SourceFault} {k : Nat → Compiling γ}
    {l : Cursor → Except SourceError β} {g : β → γ} (hc : c.text = src)
    (hk : ∀ d, Onward c d → d.text = src → k d.offset = told g (l d)) :
    (token src missing c.offset >>= k) = told g (RuleSet.Source.token missing c >>= l) := by
  have hd := c.onward_skipTrivia
  rw [token_eq hc]
  simp only [RuleSet.Source.token]
  split
  · rfl
  · exact hk c.skipTrivia hd (hd.text_eq.trans hc)

theorem identifier_eq {missing : SourceFault} (hc : c.text = src) :
    identifier src missing c.offset = told atOffset (RuleSet.Source.identifier missing c) := by
  have hfirst : (byteAt? src c.offset).any isIdentifierStartByte =
      c.ahead.head?.any isIdentifierStart := by
    rw [byteAt?_offset hc]
    cases c.ahead with
    | nil => rfl
    | cons x t => exact isIdentifierStartByte_lead x
  obtain ⟨behind, ahead⟩ := c
  rw [identifier, hfirst]
  cases ahead with
  | nil => exact failHere_eq hc
  | cons x t =>
      cases hx : isIdentifierStart x with
      | false =>
          simp only [List.head?_cons, Option.any_some, hx, Bool.false_eq_true, ↓reduceIte,
            RuleSet.Source.identifier, Cursor.identifier?]
          exact failHere_eq hc
      | true =>
          have hpart := isIdentifierPart_of_isIdentifierStart hx
          have hascii := isAscii_of_isIdentifierPart hpart
          have htext := (Cursor.text_next ⟨behind, x :: t⟩).trans hc
          have hstart := offset_next_of_head (c := ⟨behind, x :: t⟩) hascii rfl
          have hskip : (⟨behind, x :: t⟩ : Cursor).skipWhile isIdentifierPart =
              (⟨x :: behind, t⟩ : Cursor).skipWhile isIdentifierPart := by
            rw [Cursor.skipWhile_cons, if_pos hpart]
          have hstop := length_takeWhile_bytes htext (fun _ => isAscii_of_isIdentifierPart)
            isIdentifierPartByte_lead
          rw [hstart, Cursor.next_cons, ← hskip] at hstop
          simp only [List.head?_cons, Option.any_some, hx, ↓reduceIte, hstop,
            slice_offsets hc (Cursor.spans_skipWhile isIdentifierPart _), RuleSet.Source.identifier,
            Cursor.identifier?]
          rfl

theorem bind_identifier {β γ : Type} {missing : SourceFault} {k : Text × Nat → Compiling γ}
    {l : Text × Cursor → Except SourceError β} {g : β → γ} (hc : c.text = src)
    (hk : ∀ id stop, isIdentifier id = true → Spans c stop id →
      k (id, stop.offset) = told g (l (id, stop))) :
    (identifier src missing c.offset >>= k) =
      told g (RuleSet.Source.identifier missing c >>= l) := by
  rw [identifier_eq hc]
  simp only [RuleSet.Source.identifier]
  split
  · rename_i r hr
    obtain ⟨hid, hspans, -⟩ := Cursor.spans_identifier? hr
    exact hk r.1 r.2 hid hspans
  · rfl

theorem readNumber?_append {sign digits : Text} (hsign : sign = [] ∨ sign = ['+'] ∨ sign = ['-'])
    (hne : digits ≠ []) (hdigits : digits.all Char.isDigit = true) :
    readNumber? (sign ++ digits) =
      let n : Int := if sign = ['-'] then -(Decimal.value digits : Int) else Decimal.value digits
      if n < Decimal.minNumber ∨ Decimal.maxNumber < n then none else some n := by
  have hempty : digits.isEmpty = false := by simpa using hne
  rcases hsign with rfl | rfl | rfl
  · obtain ⟨x, t, rfl⟩ := List.exists_cons_of_ne_nil hne
    have hx : x.isDigit = true := by
      simp only [List.all_cons, Bool.and_eq_true] at hdigits
      exact hdigits.1
    have hplus : x ≠ '+' := by
      rintro rfl
      exact absurd hx (by decide)
    have hminus : x ≠ '-' := by
      rintro rfl
      exact absurd hx (by decide)
    simp [readNumber?, hplus, hminus, hdigits]
  · simp [readNumber?, hempty, hdigits]
  · simp [readNumber?, hempty, hdigits]

theorem exists_sign (c : Cursor) :
    let signed := c.ahead.head? = some '+' ∨ c.ahead.head? = some '-'
    ∃ sign d, Spans c d sign ∧ (sign = [] ∨ sign = ['+'] ∨ sign = ['-']) ∧
      (c.ahead.head? = some '-' ↔ sign = ['-']) ∧ (if signed then c.next else c) = d ∧
      (if signed then c.offset + 1 else c.offset) = d.offset := by
  intro signed
  by_cases hsigned : signed
  · rcases hsigned with h | h
    · obtain ⟨t, ht⟩ := List.head?_eq_some_iff.1 h
      exact ⟨['+'], c.next, Cursor.spans_next ht, .inr (.inl rfl), by simp [h],
        by simp [signed, h], by simp [signed, h, offset_next_of_head (by decide) h]⟩
    · obtain ⟨t, ht⟩ := List.head?_eq_some_iff.1 h
      exact ⟨['-'], c.next, Cursor.spans_next ht, .inr (.inr rfl), by simp [h],
        by simp [signed, h], by simp [signed, h, offset_next_of_head (by decide) h]⟩
  · have hminus : ¬c.ahead.head? = some '-' := fun h => hsigned (.inr h)
    exact ⟨[], c, .refl c, .inl rfl, by simp [hminus], if_neg hsigned, if_neg hsigned⟩

theorem number_eq (hc : c.text = src) :
    number src c.offset = told atOffset (RuleSet.Source.number c) := by
  obtain ⟨sign, d, hspans, hsign, hminus, hd, hfirst⟩ := exists_sign c
  have htext := hspans.text_eq.trans hc
  have hrow := Cursor.spans_skipWhile Char.isDigit d
  have hdigits : (d.ahead.takeWhile Char.isDigit).all Char.isDigit = true := List.all_takeWhile
  simp only [number, byteAt?_eq_some_iff (by decide : IsAscii '+') hc,
    byteAt?_eq_some_iff (by decide : IsAscii '-') hc, hfirst, RuleSet.Source.number, hd,
    length_takeWhile_bytes htext (fun _ => isAscii_of_isDigit) isDigitByte_lead]
  generalize d.skipWhile Char.isDigit = stop at hrow ⊢
  generalize d.ahead.takeWhile Char.isDigit = digits at hrow hdigits ⊢
  have hstop := hspans.trans hrow
  have hfail : (failBetween .invalidNumber c.offset stop.offset : Compiling (Int × Nat)) =
      fail (.between .invalidNumber c stop) := failBetween_eq ⟨_, hstop⟩
  cases digits with
  | nil =>
      rw [if_pos (by simpa using hrow.offset_eq.symm), hfail]
      simp [told]
  | cons x t =>
      have hlt := hrow.offset_lt (by simp)
      rw [if_neg (by omega), slice_offsets hc hstop, checked_ok, compiling_ok_bind,
        readNumber?_append hsign (by simp) hdigits]
      simp only [← hminus, List.isEmpty_cons, Bool.false_eq_true, false_or]
      generalize (if c.ahead.head? = some '-' then _ else _ : Int) = n
      by_cases hrange : n < Decimal.minNumber ∨ Decimal.maxNumber < n
      · rw [if_pos hrange, if_pos hrange]
        exact hfail
      · rw [if_neg hrange, if_neg hrange]
        rfl

theorem bracket_eq (hc : c.text = src) (ref : ColumnRef) :
    (if byteAt? src (skipTrivia src c.offset) = some '>'.toUInt8 then
        return (ref, skipTrivia src c.offset + 1)
      else fail ⟨.missingColumnIdEnd, skipTrivia src c.offset, 0, none⟩ :
      Compiling (ColumnRef × Nat)) =
    told atOffset (if c.skipTrivia.ahead.head? = some '>' then .ok (ref, c.skipTrivia.next)
      else .error (.point .missingColumnIdEnd c.skipTrivia)) := by
  have htext := (Cursor.text_skipTrivia c).trans hc
  simp only [skipTrivia_eq hc, byteAt?_eq_some_iff (by decide : IsAscii '>') htext]
  split
  · rename_i h
    rw [← offset_next_of_head (by decide) h]
    rfl
  · simp [told, SourceError.point, SourceError.between]

theorem column_eq (hc : c.text = src) (hbracket : c.ahead.head? = some '<') :
    column s src c.offset = told atOffset (RuleSet.Source.column s c) := by
  have hopen := Cursor.past_next hbracket
  rw [column, ← offset_next_of_head (by decide) hbracket]
  refine bind_token (hopen.text_eq.trans hc) fun start _ htext => ?_
  refine bind_identifier htext fun id stop _ hspans => ?_
  have hend := bracket_eq (hspans.text_eq.trans htext)
  have hlength := byteCount_of_spans hspans
  dsimp only
  cases ColumnRef.flag? id with
  | some flag => exact hend flag
  | none =>
      cases s.find? id with
      | none =>
          dsimp only
          rw [hlength]
          rfl
      | some i =>
          dsimp only
          split
          · exact hend (.declared i)
          · rw [hlength]
            rfl

theorem keyword_eq (hc : c.text = src) :
    keyword src c.offset = told atOffset (RuleSet.Source.keyword c) := by
  refine bind_identifier hc fun name stop _ hspans => ?_
  dsimp only
  rw [byteCount_of_spans hspans]
  cases Operand.ofKeyword? name <;> rfl

theorem operand_eq (hc : c.text = src) :
    operand s src c.offset = told atOffset (RuleSet.Source.operand s c) := by
  have hlead {x y : Char} (hy : IsAscii y) : lead x = y.toUInt8 ↔ x = y := lead_eq_iff hy
  have hother {x : Char} (hcolumn : x = '<' → False) (hquote : x = '"' → False)
      (h : c.ahead.head? = some x) : operand s src c.offset =
        if x.isDigit || x == '+' || x == '-' then
          (number src c.offset).map fun (n, d) => (.number n, d)
        else keyword src c.offset := by
    rw [operand, byteAt?_offset hc, h]
    dsimp only [Option.map_some]
    rw [if_neg fun heq => hcolumn ((hlead (by decide)).1 heq),
      if_neg fun heq => hquote ((hlead (by decide)).1 heq), isDigitByte_lead,
      lead_beq (by decide), lead_beq (by decide)]
  fun_cases RuleSet.Source.operand s c with
  | case1 h =>
      rw [operand, byteAt?_offset hc, h]
      exact (if_pos ((hlead (by decide)).2 rfl)).trans (map_told (column_eq hc h) fun _ => rfl)
  | case2 h =>
      rw [operand, byteAt?_offset hc, h]
      exact ((if_neg (by decide)).trans (if_pos ((hlead (by decide)).2 rfl))).trans
        (map_told (literal_eq hc h) fun _ => rfl)
  | case3 x hcolumn hquote h hnumber =>
      rw [hother hcolumn hquote h, if_pos hnumber]
      exact map_told (number_eq hc) fun _ => rfl
  | case4 x hcolumn hquote h hnumber =>
      rw [hother hcolumn hquote h, if_neg hnumber]
      exact keyword_eq hc
  | case5 h =>
      rw [operand, byteAt?_offset hc, h]
      exact keyword_eq hc

theorem offset_advance_operator {op : Operator} (h : Operator.atStart? c.ahead = some op) :
    (c.advance op.name.length).offset = c.offset + op.name.length := by
  have hname : Text.sameAscii (c.ahead.take op.name.length) op.name.toList = true := by
    have hfound := List.find?_some h
    exact hfound
  rw [(Cursor.spans_advance op.name.length c).offset_eq, byteCount_operator hname]

def Located.ofPlaces (p : RuleSet.Source.Located) : Located :=
  ⟨p.param, p.start.offset, p.stop.offset⟩

theorem param_eq (hc : c.text = src) :
    param s w src c.offset =
      told (fun r => (Located.ofPlaces r.1, r.2.offset)) (RuleSet.Source.param s w c) := by
  refine bind_told (operand_eq hc) (RuleSet.Source.reports_operand hc) fun r hr => ?_
  obtain ⟨left, stop⟩ := r
  have hstop : Past c stop := hr
  refine bind_token (hstop.text_eq.trans hc) fun d hd htext => ?_
  have hd := hstop.trans hd
  dsimp only
  rw [sliceFrom_offset htext, checked_ok, compiling_ok_bind, operatorAt?_eq]
  cases hop : Operator.atStart? d.ahead with
  | none => rfl
  | some op =>
      have hbehind := hd.trans (Cursor.onward_advance op.name.length d)
      dsimp only
      rw [← offset_advance_operator hop]
      refine bind_token (hbehind.text_eq.trans hc) fun f hf htext => ?_
      have hf := hbehind.trans hf
      simp only [byteAt?_eq_some_iff (by decide : IsAscii ')') htext,
        byteAt?_eq_some_iff (by decide : IsAscii ',') htext]
      split
      · exact failHere_eq htext
      · refine bind_told (operand_eq htext) (RuleSet.Source.reports_operand htext) fun r hr => ?_
        obtain ⟨right, stop⟩ := r
        have hright : Past c stop := hf.trans hr.onward
        dsimp only [atOffset]
        cases checkComparison s left op right w with
        | error fault => exact failBetween_eq hright.onward
        | ok _ =>
            refine bind_token (hright.text_eq.trans hc) fun g hg htext => ?_
            rw [sliceFrom_offset htext, checked_ok, compiling_ok_bind, operatorAt?_eq]
            cases hop : Operator.atStart? g.ahead with
            | none => rfl
            | some op =>
                simp [told, SourceError.between, offset_advance_operator hop]

theorem params_eq {m n : Nat} {afterComma : Bool} (hc : c.text = src) (hm : c.ahead.length < m)
    (hn : c.ahead.length < n) :
    params s w src m afterComma c.offset =
      told (fun r => (r.1.map Located.ofPlaces, r.2.offset))
        (RuleSet.Source.params s w n afterComma c) := by
  induction m generalizing n afterComma c with
  | zero => omega
  | succ m ih =>
      obtain ⟨n, rfl⟩ := Nat.exists_eq_succ_of_ne_zero (Nat.ne_of_gt (Nat.zero_lt_of_lt hn))
      refine bind_token hc fun d hd htext => ?_
      simp only [byteAt?_eq_some_iff (by decide : IsAscii ')') htext,
        byteAt?_eq_some_iff (by decide : IsAscii ',') htext]
      split
      · exact failHere_eq htext
      · split
        · rename_i hparen
          split
          · exact failHere_eq htext
          · rw [← offset_next_of_head (by decide) hparen]
            rfl
        · refine bind_told (param_eq htext) (RuleSet.Source.reports_param htext) fun r hr => ?_
          obtain ⟨p, e⟩ := r
          have he := hd.past hr.2
          have htext := he.text_eq.trans hc
          have hmore {b : Bool} {f : Cursor} (hf : Onward e f) :
              (params s w src m b f.offset).map (fun r => (Located.ofPlaces p :: r.1, r.2)) =
                told (fun r => (r.1.map Located.ofPlaces, r.2.offset))
                  ((RuleSet.Source.params s w n b f).map fun r => (p :: r.1, r.2)) := by
            have hf := he.trans hf
            have hlt := hf.length_lt
            exact map_told (ih (hf.text_eq.trans hc) (by omega) (by omega)) fun _ => rfl
          simp only [byteAt?_eq_some_iff (by decide : IsAscii ')') htext,
            byteAt?_eq_some_iff (by decide : IsAscii ',') htext]
          split
          · rename_i hcomma
            rw [← offset_next_of_head (by decide) hcomma]
            exact hmore (Cursor.onward_next e)
          · split
            · exact hmore (.refl e)
            · exact failHere_eq htext

theorem check_eq {call : Call} {located : List RuleSet.Source.Located} {d : Cursor}
    (hlocated : ∀ p ∈ located, p.IsIn src) (hd : Onward c d) :
    (match call.check s w with
      | .ok written => return ((call, written), d.offset)
      | .error fault =>
          match fault.param.bind ((located.map Located.ofPlaces)[·]?) with
          | some p => failBetween fault.fault p.start p.stop
          | none => failBetween fault.fault c.offset d.offset :
        Compiling ((Call × Written) × Nat)) =
      told atOffset (match call.check s w with
        | .ok written => return ((call, written), d)
        | .error fault =>
            match fault.param.bind (located[·]?) with
            | some p => .error (.between fault.fault p.start p.stop)
            | none => .error (.between fault.fault c d)) := by
  cases call.check s w with
  | ok written => rfl
  | error fault =>
      have hparam : fault.param.bind ((located.map Located.ofPlaces)[·]?) =
          (fault.param.bind (located[·]?)).map Located.ofPlaces := by
        cases fault.param with
        | none => rfl
        | some i => exact List.getElem?_map
      dsimp only
      rw [hparam]
      cases hp : fault.param.bind (located[·]?) with
      | none => exact failBetween_eq hd
      | some p =>
          obtain ⟨i, -, hi⟩ := Option.bind_eq_some_iff.1 hp
          exact failBetween_eq (hlocated p (List.mem_of_getElem? hi)).2

theorem call_eq {m n : Nat} (hc : c.text = src) (hm : c.ahead.length < m)
    (hn : c.ahead.length < n) :
    call s src m w c.offset = told atOffset (RuleSet.Source.call s n w c) := by
  refine bind_identifier hc fun name stop hname hspans => ?_
  have hstop := Cursor.past_of_isIdentifier hname hspans
  have hbehind := hstop.trans stop.onward_skipTrivia
  have htext := hbehind.text_eq.trans hc
  dsimp only
  rw [byteCount_of_spans hspans]
  cases RuleFunction.ofName? name with
  | none => rfl
  | some function =>
      simp only [skipTrivia_eq (hstop.text_eq.trans hc), ne_eq,
        byteAt?_eq_some_iff (by decide : IsAscii '(') htext]
      by_cases hparen : stop.skipTrivia.ahead.head? = some '('
      · have hopen := hbehind.trans (Cursor.onward_next _)
        have htext := hopen.text_eq.trans hc
        have hlt := hopen.length_lt
        rw [if_neg (not_not_intro hparen), if_neg (not_not_intro hparen),
          ← offset_next_of_head (by decide) hparen]
        refine bind_told (params_eq htext (by omega) (by omega))
          (RuleSet.Source.reports_params htext) fun r hr => ?_
        obtain ⟨located, d⟩ := r
        have hparams : (located.map Located.ofPlaces).map (·.param) = located.map (·.param) :=
          List.map_map
        dsimp only
        rw [hparams]
        exact check_eq hr.1 (hopen.trans hr.2.onward).onward
      · rw [if_pos hparen, if_pos hparen]
        rfl

theorem calls_eq {k l m n : Nat} {afterComma : Bool} (hc : c.text = src)
    (hk : c.ahead.length < k) (hl : c.ahead.length < l) (hm : c.ahead.length < m)
    (hn : c.ahead.length < n) :
    calls s src m k afterComma w c.offset =
      told atOffset (RuleSet.Source.calls s n l afterComma w c) := by
  induction k generalizing l afterComma w c with
  | zero => omega
  | succ k ih =>
      obtain ⟨l, rfl⟩ := Nat.exists_eq_succ_of_ne_zero (Nat.ne_of_gt (Nat.zero_lt_of_lt hl))
      refine bind_token hc fun d hd htext => ?_
      have hle := hd.length_le
      simp only [byteAt?_eq_some_iff (by decide : IsAscii ';') htext]
      split
      · rename_i hend
        split
        · exact failHere_eq htext
        · rw [← offset_next_of_head (by decide) hend]
          rfl
      · refine bind_told (call_eq htext (by omega) (by omega))
          (RuleSet.Source.reports_call htext) fun r hr => ?_
        obtain ⟨⟨first, written⟩, e⟩ := r
        have he : Past c e := hd.past hr
        refine bind_token (he.text_eq.trans hc) fun f hf htext => ?_
        have hf := he.trans hf
        have hmore {b : Bool} {g : Cursor} (hg : Onward f g) :
            (calls s src m k b written g.offset).map (fun r => (first :: r.1, r.2)) =
              told atOffset
                ((RuleSet.Source.calls s n l b written g).map fun r => (first :: r.1, r.2)) := by
          have hg := hf.trans hg
          have hlt := hg.length_lt
          exact map_told (ih (hg.text_eq.trans hc) (by omega) (by omega) (by omega) (by omega))
            fun _ => rfl
        simp only [byteAt?_eq_some_iff (by decide : IsAscii ';') htext,
          byteAt?_eq_some_iff (by decide : IsAscii ',') htext]
        split
        · rename_i hcomma
          rw [← offset_next_of_head (by decide) hcomma]
          exact hmore (Cursor.onward_next f)
        · split
          · exact hmore (.refl f)
          · exact failHere_eq htext

theorem rules_eq {k l m n : Nat} (hc : c.text = src) (hk : c.ahead.length < k)
    (hl : c.ahead.length < l) (hm : c.ahead.length < m) (hn : c.ahead.length < n) :
    rules s src m k c.offset =
      told (fun rs => (rs, byteCount src)) (RuleSet.Source.rules s n l c) := by
  induction k generalizing l c with
  | zero => omega
  | succ k ih =>
      obtain ⟨l, rfl⟩ := Nat.exists_eq_succ_of_ne_zero (Nat.ne_of_gt (Nat.zero_lt_of_lt hl))
      have hd := c.onward_skipTrivia
      have htext := hd.text_eq.trans hc
      have hle := hd.length_le
      simp only [rules, RuleSet.Source.rules, skipTrivia_eq hc, isNone_byteAt? htext,
        byteAt?_eq_some_iff (by decide : IsAscii '*') htext]
      split
      · rename_i hend
        have hbytes : c.skipTrivia.offset = byteCount src := by
          rw [← htext, Cursor.text, List.isEmpty_iff.1 hend, List.append_nil,
            Text.byteCount_reverse, Cursor.offset]
        exact congrArg (fun i => Except.ok ([], i)) hbytes
      · split
        · rename_i hstar
          have hnext := hd.past (Cursor.past_next hstar)
          have htext := hnext.text_eq.trans hc
          have hlt := hnext.length_lt
          rw [← offset_next_of_head (by decide) hstar]
          refine bind_told (calls_eq htext (by omega) (by omega) (by omega) (by omega))
            (RuleSet.Source.reports_calls htext) fun r hr => ?_
          obtain ⟨cs, e⟩ := r
          have he := hnext.trans hr.onward
          have hlt := he.length_lt
          exact map_told (ih (he.text_eq.trans hc) (by omega) (by omega) (by omega) (by omega))
            fun _ => rfl
        · exact failHere_eq htext

end RuleSource

theorem compileRules_eq (src : Text) (s : ColumnSet) :
    compileRules src s = told id (RuleSet.compile src s) := by
  have hlength : (Cursor.ofText src).ahead.length = src.length := rfl
  have hbytes := Text.length_le_byteCount src
  have hrules := RuleSource.rules_eq (s := s) (k := byteCount src + 1) (l := src.length + 1)
    (m := byteCount src + 1) (n := src.length + 1) (Cursor.text_ofText src) (by omega) (by omega)
    (by omega) (by omega)
  refine bind_told hrules (RuleSet.Source.reports_rules (Cursor.text_ofText src)) fun rs _ => ?_
  cases rs with
  | nil =>
      simp [told, SourceError.point, SourceError.between, Cursor.toEnd, Cursor.ofText,
        Cursor.offset]
  | cons r rs => rfl

end ListingRules.Bytewise
