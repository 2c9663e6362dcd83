import Mathlib.Tactic.ByContra
import ListingRules.Proofs.CheckedRules
import ListingRules.Proofs.Margin.Line
import ListingRules.Proofs.NonemptyLines
import ListingRules.Proofs.Passes

namespace ListingRules

open Text (isLineEnd isVisible isSpace)

def Operator.isEquality : Operator → Bool
  | .equal | .notEqual | .sameText | .notSameText => true
  | _ => false

def Param.onlyComparesNextChar : Param → Bool
  | .comparison (.state .nextChar) op (.text t) => op.isEquality && !t.isEmpty
  | .comparison (.text t) op (.state .nextChar) => op.isEquality && !t.isEmpty
  | p => !p.operands.contains (.state .nextChar)

def RuleSet.onlyComparesNextChar (s : RuleSet) : Bool :=
  s.rules.all (·.calls.all (·.params.all Param.onlyComparesNextChar))

structure Call.IgnoresLineEnds (call : Call) : Prop where
  nextChar : ∀ p ∈ call.params, p.onlyComparesNextChar = true
  texts : ∀ p ∈ call.params, ∀ t, .text t ∈ p.operands → ∀ x ∈ t, isLineEnd x = false
  separators : ∀ p o, call = ⟨.numberWithSeparators, [p, .operand o]⟩ → ∀ c, o ≠ .column c

theorem Param.onlyComparesNextChar_cases {p : Param} (h : p.onlyComparesNextChar = true) :
    (∃ op t, (p = .comparison (.state .nextChar) op (.text t) ∨
        p = .comparison (.text t) op (.state .nextChar)) ∧ op.isEquality = true ∧ t ≠ []) ∨
      .state .nextChar ∉ p.operands := by
  simp only [onlyComparesNextChar] at h
  split at h
  · rename_i op t
    simp only [Bool.and_eq_true, Bool.not_eq_true', List.isEmpty_eq_false_iff] at h
    exact .inl ⟨op, t, .inl rfl, h⟩
  · rename_i t op
    simp only [Bool.and_eq_true, Bool.not_eq_true', List.isEmpty_eq_false_iff] at h
    exact .inl ⟨op, t, .inr rfl, h⟩
  · exact .inr (by simpa using h)

namespace RuleSet

variable {source : Text} {columns : ColumnSet} {rules : RuleSet}

theorem separators_of_compile (h : compile source columns = .ok rules) :
    ∀ r ∈ rules.rules, ∀ call ∈ r.calls, ∀ p o,
      call = ⟨.numberWithSeparators, [p, .operand o]⟩ → ∀ c, o ≠ .column c := by
  intro r hr call hcall p o heq
  obtain ⟨v, hchecked⟩ := checked_of_compile h hr
  obtain ⟨w, x, hcheck⟩ := hchecked.exists_check_of_mem hcall
  obtain ⟨eff, haccepted, -⟩ := Call.accepted_of_check hcheck
  rw [heq] at haccepted
  cases haccepted with
  | separated _ hvalue => exact (Param.isValue_operand (s := columns) hvalue).2
  | _ => simp_all

theorem ignoresLineEnds_of_compile (h : compile source columns = .ok rules)
    (htexts : ∀ t ∈ rules.texts, ∀ x ∈ t, isLineEnd x = false)
    (hnext : rules.onlyComparesNextChar = true) :
    ∀ r ∈ rules.rules, ∀ call ∈ r.calls, call.IgnoresLineEnds := by
  intro r hr call hcall
  constructor
  · exact List.all_eq_true.1 (List.all_eq_true.1 (List.all_eq_true.1 hnext r hr) call hcall)
  · intro p hp t ht
    refine htexts t (mem_texts.2 ?_)
    exact List.mem_flatMap.2 ⟨r, hr, List.mem_flatMap.2 ⟨call, hcall,
      List.mem_flatMap.2 ⟨p, hp, ht⟩⟩⟩
  · exact separators_of_compile h r hr call hcall

end RuleSet

namespace Listing

open Text (byteCount)

theorem compareTexts_lineEnd {op : Operator} {t u : Text} (hop : op.isEquality = true)
    (ht : t ≠ []) (hlines : ∀ x ∈ t, isLineEnd x = false)
    (hu : u = [] ∨ ∃ x, isLineEnd x = true ∧ u = [x]) :
    compareTexts op u t = (op == .notEqual || op == .notSameText) ∧
      compareTexts op t u = (op == .notEqual || op == .notSameText) := by
  have hsame : (u == t) = false ∧ Text.sameLetters u t = false := by
    rcases hu with rfl | ⟨x, hx, rfl⟩
    · obtain ⟨y, t, rfl⟩ := List.exists_cons_of_ne_nil ht
      exact ⟨rfl, rfl⟩
    · have hmem : x ∉ t := fun hmem => by simp [hlines x hmem] at hx
      constructor
      · refine beq_eq_false_iff_ne.2 ?_
        rintro rfl
        exact hmem List.mem_cons_self
      · refine Bool.eq_false_iff.2 fun hsame => ?_
        have hspace := Text.isSpace_of_isLineEnd hx
        exact hmem (Text.mem_of_sameLetters hsame List.mem_cons_self hspace)
  have hcomm : (t == u) = false ∧ Text.sameLetters t u = false := by
    rw [Bool.beq_comm, Text.sameLetters_comm]
    exact hsame
  cases op with
  | equal => exact ⟨hsame.1, hcomm.1⟩
  | notEqual => simp only [compareTexts, bne, hsame.1, hcomm.1]; decide
  | sameText => exact ⟨hsame.2, hcomm.2⟩
  | notSameText => simp only [compareTexts, hsame.2, hcomm.2]; decide
  | _ => simp [Operator.isEquality] at hop

theorem take_after (m : Margin) :
    m.after.take 1 = [] ∨ ∃ x, isLineEnd x = true ∧ m.after.take 1 = [x] := by
  rcases m.after_cases with h | ⟨t, h | h⟩
  · exact .inl (by simp [h])
  · exact .inr ⟨'\r', rfl, by simp [h]⟩
  · exact .inr ⟨'\n', rfl, by simp [h]⟩

theorem compareTexts_nextChar {op : Operator} {t : Text} (hop : op.isEquality = true)
    (ht : t ≠ []) (hlines : ∀ x ∈ t, isLineEnd x = false) (m n : Margin) (ahead : Text) :
    compareTexts op ((ahead ++ n.after).take 1) t = compareTexts op ((ahead ++ m.after).take 1) t ∧
      compareTexts op t ((ahead ++ n.after).take 1) =
        compareTexts op t ((ahead ++ m.after).take 1) := by
  cases ahead with
  | cons x ahead => simp
  | nil =>
      obtain ⟨hm, hm'⟩ := compareTexts_lineEnd hop ht hlines (take_after m)
      obtain ⟨hn, hn'⟩ := compareTexts_lineEnd hop ht hlines (take_after n)
      rw [List.nil_append, List.nil_append, hm, hm', hn, hn']
      exact ⟨rfl, rfl⟩

structure InText (text : Text) (m : Margin) (l : Line) (rest : Text) : Prop where
  text_eq : text = m.before.reverse ++ (l.text ++ rest)
  after : m.after = l.ending ++ rest
  precedes : l.Precedes rest
  parted : Parted m.before.reverse (l.text ++ rest)

def contents (t : Text) : List Text :=
  (lines t).map Line.content

def Facing (t t' : Text) (m n : Margin) (content : Text) : Prop :=
  ∃ ending ending' rest rest', InText t m ⟨content, ending⟩ rest ∧
    InText t' n ⟨content, ending'⟩ rest' ∧ contents rest = contents rest' ∧
    m.before.any isVisible = n.before.any isVisible

section OneLine

variable {t t' text rest : Text} {m n : Margin} {l : Line} {c : Cursor}

theorem contents_eq_nil_iff : contents t = [] ↔ t = [] := by
  simp only [contents, List.map_eq_nil_iff]
  constructor
  · intro h
    by_contra hne
    exact lines_ne_nil hne h
  · rintro rfl
    rfl

theorem contents_text (h : l.Precedes rest) :
    contents (l.text ++ rest) = l.content :: contents rest := by
  simp [contents, h.lines_eq]

theorem any_isVisible_contents (t : Text) :
    t.any isVisible = (contents t).any (·.any isVisible) := by
  induction t using Line.induction with
  | nil => rfl
  | line l rest hl ih => rw [contents_text hl, List.any_append, hl.any_isVisible, ih, List.any_cons]

theorem InText.offset_mem (hc : c.text = l.content) :
    byteCount m.before.reverse ≤ (c.within m).offset ∧
      (c.within m).offset ≤ byteCount m.before.reverse + byteCount l.content := by
  have hcontent : byteCount l.content = byteCount c.behind + byteCount c.ahead := by
    rw [← hc, Cursor.text, Text.byteCount_append, Text.byteCount_reverse]
  rw [Cursor.offset, Cursor.behind_within, Text.byteCount_append, Text.byteCount_reverse]
  omega

theorem InText.first_contains (h : InText text m l rest) (hc : c.text = l.content) :
    (NonemptyLines.ofText text).first.any (·.contains (c.within m).offset) =
      (!m.before.any isVisible && l.content.any isVisible) := by
  obtain ⟨hlow, hhigh⟩ := offset_mem hc
  have hfirst := Listing.first_contains h.precedes h.parted hlow hhigh
  rw [List.any_reverse] at hfirst
  rw [NonemptyLines.ofText, h.text_eq]
  exact hfirst

theorem InText.last_contains (h : InText text m l rest) (hc : c.text = l.content) :
    (NonemptyLines.ofText text).last.any (·.contains (c.within m).offset) =
      (!rest.any isVisible && l.content.any isVisible) := by
  obtain ⟨hlow, hhigh⟩ := offset_mem hc
  have hlast := Listing.last_contains h.precedes h.parted hlow hhigh
  rw [NonemptyLines.ofText, h.text_eq]
  exact hlast

variable {e e' : Surroundings} {a : Attempt}

theorem Facing.boolOf? (h : Facing t t' m n a.place.text) (he : e.lines = NonemptyLines.ofText t)
    (he' : e'.lines = NonemptyLines.ofText t') (o : Operand) :
    boolOf? e' (a.within n) o = boolOf? e (a.within m) o := by
  obtain ⟨ending, ending', rest, rest', hm, hn, hrest, hseen⟩ := h
  by_cases ho : o.isLinePosition = true
  · have hfirst := (hn.first_contains (c := a.place) rfl).trans
      ((congrArg (!· && _) hseen.symm).trans (hm.first_contains (c := a.place) rfl).symm)
    have hrest : rest'.any isVisible = rest.any isVisible := by
      rw [any_isVisible_contents, any_isVisible_contents, hrest]
    have hlast := (hn.last_contains (c := a.place) rfl).trans
      ((congrArg (!· && _) hrest).trans (hm.last_contains (c := a.place) rfl).symm)
    cases o with
    | state v =>
        cases v with
        | firstNonemptyLine => simpa [Listing.boolOf?, he, he'] using hfirst
        | lastNonemptyLine => simpa [Listing.boolOf?, he, he'] using hlast
        | _ => simp [Operand.isLinePosition] at ho
    | _ => simp [Operand.isLinePosition] at ho
  · exact boolOf?_within (by simpa using ho)

theorem Facing.eval? (h : Facing t t' m n a.place.text) (hcolumns : e'.columns = e.columns)
    (he : e.lines = NonemptyLines.ofText t) (he' : e'.lines = NonemptyLines.ofText t')
    {p : ListingRules.Param} (hp : p.onlyComparesNextChar = true)
    (htexts : ∀ u, .text u ∈ p.operands → ∀ x ∈ u, isLineEnd x = false) :
    Param.eval? e' (a.within n) p = Param.eval? e (a.within m) p := by
  rcases Param.onlyComparesNextChar_cases hp with ⟨op, u, rfl | rfl, hop, hu⟩ | hnext
  · have hlines := htexts u (by simp [Param.operands])
    exact congrArg some (compareTexts_nextChar hop hu hlines m n a.place.ahead).1
  · have hlines := htexts u (by simp [Param.operands])
    exact congrArg some (compareTexts_nextChar hop hu hlines m n a.place.ahead).2
  · refine eval?_within hcolumns (fun o _ => h.boolOf? he he' o) fun o ho => ?_
    exact textOf?_within fun heq => absurd (heq ▸ ho) hnext

theorem Facing.seesSame (h : Facing t t' m n a.place.text) (hcolumns : e'.columns = e.columns)
    (htoday : e'.today = e.today) (he : e.lines = NonemptyLines.ofText t)
    (he' : e'.lines = NonemptyLines.ofText t') {call : Call} (hcall : call.IgnoresLineEnds)
    (hspaces : call.function ≠ .whiteSpacesAndLineEnds) : SeesSame m n e e' call a := by
  have htexts {o : Operand} (ho : .operand o ∈ call.params) :
      textOf? (a.within n) o = textOf? (a.within m) o := by
    refine textOf?_within ?_
    rintro rfl
    have hnext := hcall.nextChar _ ho
    simp [Param.onlyComparesNextChar, Param.operands] at hnext
  constructor
  · exact hcolumns
  · exact htoday
  · exact fun p hp => h.eval? hcolumns he he' (hcall.nextChar p hp) (hcall.texts p hp)
  · exact fun o ho => htexts ho
  · intro p o hseparated u hu x hx
    have hmem : .operand o ∈ call.params := by simp [hseparated]
    cases o with
    | text v =>
        obtain rfl := Option.some.inj hu
        exact hcall.texts _ hmem v (by simp [Param.operands]) x hx
    | column c => exact absurd rfl (hcall.separators p _ hseparated c)
    | state v =>
        cases v with
        | nextWord =>
            obtain rfl := Option.some.inj hu
            have hvisible : isVisible x = true := List.all_eq_true.1 List.all_takeWhile x hx
            by_contra hend
            simp [isVisible_of_isLineEnd (by simpa using hend)] at hvisible
        | restOfLine =>
            obtain rfl := Option.some.inj hu
            have hline : (!isLineEnd x) = true := List.all_eq_true.1 List.all_takeWhile x hx
            simpa using hline
        | nextChar =>
            have hnext := hcall.nextChar _ hmem
            simp [Param.onlyComparesNextChar, Param.operands] at hnext
        | firstNonemptyLine => simp [textOf?] at hu
        | lastNonemptyLine => simp [textOf?] at hu
    | bool b => simp [textOf?] at hu
    | number i => simp [textOf?] at hu
  · exact hspaces

structure PlacesAlike (t t' : Text) (c c' : Cursor) : Prop where
  text : c.text = t
  text' : c'.text = t'
  contents : contents c.ahead = Listing.contents c'.ahead
  seen : c.behind.any isVisible = c'.behind.any isVisible
  border : c.ahead ≠ [] → Parted c.behind.reverse c.ahead
  border' : c'.ahead ≠ [] → Parted c'.behind.reverse c'.ahead

theorem InText.skipWhile_past (h : InText text m l rest) (hc : c.text = l.content)
    (hspaces : ∀ x ∈ c.ahead, isSpace x = true) :
    (c.within m).skipWhile isSpace =
      (⟨l.text.reverse ++ m.before, rest⟩ : Cursor).skipWhile isSpace := by
  have hending : ∀ x ∈ c.ahead ++ l.ending, isSpace x = true := by
    intro x hx
    rcases List.mem_append.1 hx with hx | hx
    · exact hspaces x hx
    · exact Text.isSpace_of_isLineEnd (h.precedes.isLineEnd_of_mem_ending hx)
  have hplace : c.within m = ⟨c.behind ++ m.before, (c.ahead ++ l.ending) ++ rest⟩ := by
    simp [Cursor.within, h.after]
  rw [hplace, Cursor.skipWhile_append_all _ hending, Line.text, ← hc]
  simp [Cursor.text]

theorem placesAlike_past {content ending ending' rest' : Text}
    (hm : InText t m ⟨content, ending⟩ rest) (hn : InText t' n ⟨content, ending'⟩ rest')
    (hrest : contents rest = contents rest')
    (hseen : m.before.any isVisible = n.before.any isVisible) :
    PlacesAlike t t' ⟨(Line.mk content ending).text.reverse ++ m.before, rest⟩
      ⟨(Line.mk content ending').text.reverse ++ n.before, rest'⟩ := by
  constructor
  · simp [Cursor.text, hm.text_eq]
  · simp [Cursor.text, hn.text_eq]
  · exact hrest
  · simp only [List.any_append, List.any_reverse, hm.precedes.any_isVisible,
      hn.precedes.any_isVisible, hseen]
  · intro hne
    simpa using hm.precedes.append_parted m.before.reverse hne
  · intro hne
    simpa using hn.precedes.append_parted n.before.reverse hne

theorem PlacesAlike.facing {c' : Cursor} (h : PlacesAlike t t' c c') (hne : c.ahead ≠ []) :
    ∃ m n content, c = (Cursor.ofText content).within m ∧ c' = (Cursor.ofText content).within n ∧
      Facing t t' m n content := by
  obtain ⟨b, u⟩ := c
  obtain ⟨b', u'⟩ := c'
  have hne' : u' ≠ [] := by
    intro hnil
    exact hne (contents_eq_nil_iff.1 (h.contents.trans (contents_eq_nil_iff.2 hnil)))
  obtain ⟨⟨content, ending⟩, rest, rfl, hl⟩ := Line.exists_precedes hne
  obtain ⟨⟨content', ending'⟩, rest', rfl, hl'⟩ := Line.exists_precedes hne'
  have hcontents := h.contents
  simp only [contents_text hl, contents_text hl', List.cons.injEq] at hcontents
  obtain ⟨rfl, hrest⟩ := hcontents
  have hb : Stops (! isLineEnd ·) b := (h.border hne).stops
  have hb' : Stops (! isLineEnd ·) b' := (h.border' hne').stops
  refine ⟨hl.margin hb, hl'.margin hb', content, (hl.within_margin hb).symm,
    (hl'.within_margin hb').symm, ending, ending', rest, rest', ?_, ?_, hrest, h.seen⟩
  · exact ⟨h.text.symm, rfl, hl, h.border hne⟩
  · exact ⟨h.text'.symm, rfl, hl', h.border' hne'⟩

theorem PlacesAlike.skipWhile {c' : Cursor} (h : PlacesAlike t t' c c') :
    ((c.skipWhile isSpace).ahead = [] ∧ (c'.skipWhile isSpace).ahead = []) ∨
      ∃ (m n : Margin) (d : Cursor), c.skipWhile isSpace = d.within m ∧
        c'.skipWhile isSpace = d.within n ∧ Facing t t' m n d.text ∧
        d.ahead ≠ [] := by
  induction hlines : Listing.contents c.ahead generalizing c c' with
  | nil =>
      have hend := contents_eq_nil_iff.1 hlines
      have hend' := contents_eq_nil_iff.1 (h.contents.symm.trans hlines)
      exact .inl ⟨by simp [hend], by simp [hend']⟩
  | cons first more ih =>
      have hne : c.ahead ≠ [] := by
        intro hnil
        simp [contents_eq_nil_iff.2 hnil] at hlines
      obtain ⟨m, n, content, rfl, rfl, hfacing⟩ := h.facing hne
      by_cases hspaces : ∀ x ∈ content, isSpace x = true
      · obtain ⟨ending, ending', rest, rest', hm, hn, hrest, hseen⟩ := hfacing
        rw [hm.skipWhile_past (c := Cursor.ofText content) rfl hspaces,
          hn.skipWhile_past (c := Cursor.ofText content) rfl hspaces]
        refine ih (placesAlike_past hm hn hrest hseen) ?_
        have hahead : ((Cursor.ofText content).within m).ahead =
            (Line.mk content ending).text ++ rest := by
          simp [Cursor.ofText, Line.text, hm.after]
        rw [hahead, contents_text hm.precedes] at hlines
        exact (List.cons.inj hlines).2
      · refine .inr ⟨m, n, (Cursor.ofText content).skipWhile isSpace, ?_, ?_, ?_, ?_⟩
        · exact Cursor.skipWhile_within_of_not_all hspaces m
        · exact Cursor.skipWhile_within_of_not_all hspaces n
        · rwa [Cursor.text_skipWhile]
        · exact Cursor.ahead_skipWhile_ne_nil hspaces

end OneLine

structure BothWhole (t t' : Text) (e e' : Surroundings) : Prop where
  columns : e'.columns = e.columns
  today : e'.today = e.today
  whole : e.incomplete = false
  whole' : e'.incomplete = false
  lines : e.lines = NonemptyLines.ofText t
  lines' : e'.lines = NonemptyLines.ofText t'

def AttemptsAlike (t t' : Text) (a a' : Attempt) : Prop :=
  ∃ m n b, a = Attempt.within m b ∧ a' = Attempt.within n b ∧ Facing t t' m n b.place.text

inductive OutcomesAlike (t t' : Text) : Outcome → Outcome → Prop
  | continues {a a' : Attempt} :
      AttemptsAlike t t' a a' → OutcomesAlike t t' (.continues a) (.continues a')
  | fails (left : Languages) : OutcomesAlike t t' (.fails left) (.fails left)
  | stuck : OutcomesAlike t t' .stuck .stuck

section Calls

variable {t t' text rest : Text} {m n : Margin} {l : Line} {c : Cursor} {e e' : Surroundings}
  {a a' b : Attempt}

theorem InText.spaces_head (h : InText text m l rest) (hrest : rest ≠ [])
    (hspaces : ∀ x ∈ c.ahead, isSpace x = true) :
    (c.within m).ahead.head?.any isSpace = true := by
  rw [Cursor.ahead_within, h.after]
  cases hahead : c.ahead with
  | cons x ahead => simpa using hspaces x (by simp [hahead])
  | nil =>
      have hne : l.ending ≠ [] := fun hnil => hrest (h.precedes.rest_eq_nil hnil)
      obtain ⟨x, ending, hending⟩ := List.exists_cons_of_ne_nil hne
      have hx : isLineEnd x = true := h.precedes.isLineEnd_of_mem_ending (by simp [hending])
      simpa [hending] using Text.isSpace_of_isLineEnd hx

theorem alike_skipSpaces_past (he : BothWhole t t' e e') (h : Facing t t' m n b.place.text)
    (hspaces : ∀ x ∈ b.place.ahead, isSpace x = true) :
    OutcomesAlike t t' ((b.within m).skipSpaces e) ((b.within n).skipSpaces e') := by
  obtain ⟨ending, ending', rest, rest', hm, hn, hrest, hseen⟩ := h
  have hskip := hm.skipWhile_past (c := b.place) rfl hspaces
  have hskip' := hn.skipWhile_past (c := b.place) rfl hspaces
  simp only [Attempt.skipSpaces, Attempt.place_within, hskip, hskip', he.whole, he.whole',
    Attempt.languages_within]
  rcases (placesAlike_past hm hn hrest hseen).skipWhile with
    ⟨hend, hend'⟩ | ⟨m', n', d, hd, hd', hfacing, hne⟩
  · simp only [hend, hend', List.isEmpty_nil, ↓reduceIte, Bool.false_eq_true, ite_self]
    exact .fails b.languages
  · have hne (k : Margin) : (d.within k).ahead ≠ [] := by simp [hne]
    have hrestNe : rest ≠ [] := by
      rintro rfl
      exact hne m' (by simp [← hd])
    have hrestNe' : rest' ≠ [] := by
      rintro rfl
      exact hne n' (by simp [← hd'])
    simp only [hm.spaces_head hrestNe hspaces, hn.spaces_head hrestNe' hspaces, hd, hd',
      List.isEmpty_eq_false_iff.2 (hne _), Bool.not_true, Bool.false_eq_true, ↓reduceIte]
    exact .continues ⟨m', n', { b with place := d }, rfl, rfl, hfacing⟩

theorem alike_skipSpaces (he : BothWhole t t' e e') (h : Facing t t' m n b.place.text) :
    OutcomesAlike t t' ((b.within m).skipSpaces e) ((b.within n).skipSpaces e') := by
  by_cases hspaces : ∀ x ∈ b.place.ahead, isSpace x = true
  · exact alike_skipSpaces_past he h hspaces
  · have hend : (b.place.skipWhile isSpace).ahead ≠ [] := Cursor.ahead_skipWhile_ne_nil hspaces
    have hhead (k : Margin) :
        (b.place.within k).ahead.head?.any isSpace = b.place.ahead.head?.any isSpace := by
      obtain ⟨x, ahead, hahead⟩ : ∃ x ahead, b.place.ahead = x :: ahead :=
        List.exists_cons_of_ne_nil fun hnil => hspaces (by simp [hnil])
      simp [hahead]
    have hempty (k : Margin) : ((b.place.skipWhile isSpace).within k).ahead.isEmpty = false :=
      List.isEmpty_eq_false_iff.2 (List.append_ne_nil_of_left_ne_nil hend k.after)
    simp only [Attempt.skipSpaces, Attempt.place_within, hhead,
      Cursor.skipWhile_within_of_not_all hspaces, hempty, Bool.false_eq_true, ↓reduceIte]
    split
    · exact .fails b.languages
    · refine .continues ⟨m, n, { b with place := b.place.skipWhile isSpace }, rfl, rfl, ?_⟩
      rwa [Cursor.text_skipWhile]

theorem alike_of_sameIn {x y : Outcome} {left : Languages} (h : Facing t t' m n b.place.text)
    (hsame : Outcome.SameIn m n x y) (hleads : x.Leads false (b.within m).place left) :
    OutcomesAlike t t' x y := by
  obtain ⟨o, rfl, rfl⟩ := hsame
  cases o with
  | continues a =>
      have htext : a.place.text = b.place.text := Cursor.text_eq_of_walk_within hleads.1
      exact .continues ⟨m, n, a, rfl, rfl, htext ▸ h⟩
  | skipsRest a => exact absurd hleads.2.2 Bool.false_ne_true
  | fails left => exact .fails left
  | stuck => exact .stuck

theorem alike_apply (he : BothWhole t t' e e') {call : Call} (hcall : call.IgnoresLineEnds)
    (h : AttemptsAlike t t' a a') : OutcomesAlike t t' (a.apply e call) (a'.apply e' call) := by
  obtain ⟨m, n, b, rfl, rfl, hfacing⟩ := h
  by_cases hspaces : call.function = .whiteSpacesAndLineEnds
  · obtain ⟨f, ps⟩ := call
    obtain rfl : f = .whiteSpacesAndLineEnds := hspaces
    cases ps with
    | nil => exact alike_skipSpaces he hfacing
    | cons p ps => exact .stuck
  · have hleads := (b.within m).leads_apply e call
    rw [he.whole] at hleads
    exact alike_of_sameIn hfacing (Attempt.sameIn_apply
      (hfacing.seesSame he.columns he.today he.lines he.lines' hcall hspaces)) hleads

theorem alike_applyAll (he : BothWhole t t' e e') {calls : List Call}
    (hcalls : ∀ call ∈ calls, call.IgnoresLineEnds) (h : AttemptsAlike t t' a a') :
    OutcomesAlike t t' (applyAll e calls a) (applyAll e' calls a') := by
  induction calls generalizing a a' with
  | nil => exact .continues h
  | cons call more ih =>
      have hfirst := alike_apply he (hcalls call List.mem_cons_self) h
      simp only [applyAll]
      generalize a.apply e call = x at hfirst ⊢
      generalize a'.apply e' call = y at hfirst ⊢
      cases hfirst with
      | continues h => exact ih (fun call hcall => hcalls call (List.mem_cons_of_mem _ hcall)) h
      | fails left => exact .fails left
      | stuck => exact .stuck

end Calls

end Listing

end ListingRules
