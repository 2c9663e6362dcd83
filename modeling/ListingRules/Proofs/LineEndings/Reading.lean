import ListingRules.Proofs.LineEndings.Attempt
import ListingRules.Rule.Compile

namespace ListingRules.Listing

open Text (isLineEnd isVisible)

inductive MatchesAlike (t t' : Text) : Match → Match → Prop
  | matched {c c' : Cursor} (row : Row) (left : Languages) :
      PlacesAlike t t' c c' → MatchesAlike t t' (.matched c row left) (.matched c' row left)
  | fails (left : Languages) : MatchesAlike t t' (.fails left) (.fails left)

section Rules

variable {t t' text rest : Text} {m : Margin} {l : Line} {c c' : Cursor} {e e' : Surroundings}

theorem InText.atLineEnd_iff (h : InText text m l rest) (hc : c.text = l.content) :
    (c.within m).atLineEnd = true ↔ c.ahead = [] := by
  refine Cursor.atLineEnd_within (fun x hx => ?_) m
  exact h.precedes.content x (hc ▸ List.mem_append_right _ hx)

theorem alike_applyRule (he : BothWhole t t' e e') {rule : Rule}
    (hrule : ∀ call ∈ rule.calls, call.IgnoresLineEnds) (h : PlacesAlike t t' c c')
    (hne : c.ahead ≠ []) (languages : Languages) :
    MatchesAlike t t' (applyRule e c languages rule) (applyRule e' c' languages rule) := by
  obtain ⟨m, n, content, rfl, rfl, hfacing⟩ := h.facing hne
  have hstart : AttemptsAlike t t'
      ⟨(Cursor.ofText content).within m, Row.empty e.columns, languages⟩
      ⟨(Cursor.ofText content).within n, Row.empty e'.columns, languages⟩ :=
    ⟨m, n, ⟨Cursor.ofText content, Row.empty e.columns, languages⟩, rfl,
      by rw [he.columns]; rfl, hfacing⟩
  have hcalls := alike_applyAll he hrule hstart
  simp only [applyRule]
  generalize applyAll e rule.calls _ = x at hcalls ⊢
  generalize applyAll e' rule.calls _ = y at hcalls ⊢
  cases hcalls with
  | fails left => exact .fails left
  | stuck => exact .fails languages
  | continues h =>
      obtain ⟨m, n, b, rfl, rfl, _, _, _, _, hm, hn, hrest, hseen⟩ := h
      simp only [he.columns]
      by_cases hend : b.place.ahead = []
      · have hatEnd : (b.within m).place.atLineEnd = true := (hm.atLineEnd_iff rfl).2 hend
        have hatEnd' : (b.within n).place.atLineEnd = true := (hn.atLineEnd_iff rfl).2 hend
        have hname (k : Margin) : (b.within k).row.hasEmptyName e.columns =
            b.row.hasEmptyName e.columns := rfl
        simp only [hatEnd, hatEnd', hname, Bool.not_true, Bool.or_false]
        split
        · exact .fails b.languages
        · have hplaces := placesAlike_past hm hn hrest hseen
          rw [← hm.precedes.skipLineEnd_within hm.after rfl hend,
            ← hn.precedes.skipLineEnd_within hn.after rfl hend] at hplaces
          exact .matched b.row b.languages hplaces
      · have hmiddle : (b.within m).place.atLineEnd = false :=
          Bool.eq_false_iff.2 (mt (hm.atLineEnd_iff rfl).1 hend)
        have hmiddle' : (b.within n).place.atLineEnd = false :=
          Bool.eq_false_iff.2 (mt (hn.atLineEnd_iff rfl).1 hend)
        simp only [hmiddle, hmiddle', Bool.not_false, Bool.or_true, ↓reduceIte]
        exact .fails b.languages

theorem alike_applyRules (he : BothWhole t t' e e') {rules : List Rule}
    (hrules : ∀ r ∈ rules, ∀ call ∈ r.calls, call.IgnoresLineEnds) (h : PlacesAlike t t' c c')
    (hne : c.ahead ≠ []) (languages : Languages) :
    MatchesAlike t t' (applyRules e c languages rules) (applyRules e' c' languages rules) := by
  induction rules generalizing languages with
  | nil => exact .fails languages
  | cons rule more ih =>
      have hfirst := alike_applyRule he (hrules rule List.mem_cons_self) h hne languages
      simp only [applyRules]
      generalize applyRule e c languages rule = x at hfirst ⊢
      generalize applyRule e' c' languages rule = y at hfirst ⊢
      cases hfirst with
      | fails left => exact ih (fun r hr => hrules r (List.mem_cons_of_mem rule hr)) left
      | matched row left hplaces => exact .matched row left hplaces

theorem PlacesAlike.ahead_eq_nil_iff (h : PlacesAlike t t' c c') :
    c'.ahead = [] ↔ c.ahead = [] := by
  rw [← contents_eq_nil_iff, ← h.contents, contents_eq_nil_iff]

theorem PlacesAlike.length_lines (h : PlacesAlike t t' c c') :
    (lines c'.ahead).length = (lines c.ahead).length := by
  simpa [Listing.contents] using congrArg List.length h.contents.symm

end Rules

def Result.withoutOffset : Result → Result
  | .unread u => .unread { u with offset := 0 }
  | x => x

namespace Reading

structure ReadingsAlike (t t' : Text) (r r' : Reading) : Prop where
  places : PlacesAlike t t' r.place r'.place
  line : r.place.ahead ≠ [] → r'.line = r.line
  languages : r'.languages = r.languages
  finished : r'.finished = r.finished

def CallsAlike (t t' : Text) (x x' : Result × Reading) : Prop :=
  x'.1.withoutOffset = x.1.withoutOffset ∧ ReadingsAlike t t' x.2 x'.2

section Runs

variable {t t' : Text} {e e' : Surroundings} {rules : List Rule} {r r' : Reading}

theorem ReadingsAlike.stands (h : ReadingsAlike t t' r r') : Stands t r ∧ Stands t' r' := by
  have hborder {c : Cursor} (hc : c.ahead ≠ [] → Parted c.behind.reverse c.ahead) :
      c.ahead = [] ∨ c.StartsLine := by
    by_cases hne : c.ahead = []
    · exact .inl hne
    · exact .inr fun x hx => by simpa using (hc hne).stops x hx
  exact ⟨⟨h.places.text, hborder h.places.border⟩, ⟨h.places.text', hborder h.places.border'⟩⟩

theorem ReadingsAlike.finish (h : ReadingsAlike t t' r r') :
    ReadingsAlike t t' r.finish r'.finish :=
  ⟨h.places, h.line, h.languages, rfl⟩

theorem ReadingsAlike.matched (h : ReadingsAlike t t' r r') (hne : r.place.ahead ≠ [])
    {c c' : Cursor} {row : Row} {left : Languages} (hplaces : PlacesAlike t t' c c')
    (hx : applyRules e r.place r.languages rules = .matched c row left)
    (hy : applyRules e' r'.place r.languages rules = .matched c' row left) :
    ReadingsAlike t t' ⟨c, r.line + countLineEnds (textUpTo r.place c), left, false⟩
      ⟨c', r'.line + countLineEnds (textUpTo r'.place c'), left, false⟩ := by
  refine ⟨hplaces, fun hmore => ?_, rfl, rfl⟩
  have hne' : r'.place.ahead ≠ [] := mt h.places.ahead_eq_nil_iff.1 hne
  have hmore' : c'.ahead ≠ [] := mt hplaces.ahead_eq_nil_iff.1 hmore
  have hpass : Pass.TakesLines ⟨r.place, c, none⟩ :=
    spans_of_applyRules (h.stands.1.2.resolve_left hne) hne hx
  have hpass' : Pass.TakesLines ⟨r'.place, c', none⟩ :=
    spans_of_applyRules (h.stands.2.2.resolve_left hne') hne' hy
  have hcount : countLineEnds (textUpTo r.place c) + (lines c.ahead).length =
      (lines r.place.ahead).length := hpass.countLineEnds_text hmore
  have hcount' : countLineEnds (textUpTo r'.place c') + (lines c'.ahead).length =
      (lines r'.place.ahead).length := hpass'.countLineEnds_text hmore'
  have hsame : countLineEnds (textUpTo r'.place c') = countLineEnds (textUpTo r.place c) := by
    rw [h.places.length_lines, hplaces.length_lines] at hcount'
    omega
  exact congrArg₂ Nat.add (h.line hne) hsame

theorem alike_step (he : BothWhole t t' e e')
    (hrules : ∀ r ∈ rules, ∀ call ∈ r.calls, call.IgnoresLineEnds) (h : ReadingsAlike t t' r r') :
    (step e' rules r').1.map Result.withoutOffset = (step e rules r).1.map Result.withoutOffset ∧
      ReadingsAlike t t' (step e rules r).2 (step e' rules r').2 := by
  by_cases hend : r.finished = true ∨ r.place.ahead = []
  · have hend' : r'.finished = true ∨ r'.place.ahead = [] := by
      rwa [h.finished, h.places.ahead_eq_nil_iff]
    have hdone : step e rules r = (some .done, r.finish) := by
      rcases hend with hend | hend <;> simp [step, hend]
    have hdone' : step e' rules r' = (some .done, r'.finish) := by
      rcases hend' with hend' | hend' <;> simp [step, hend']
    rw [hdone, hdone']
    exact ⟨rfl, h.finish⟩
  · obtain ⟨hfinished, hne⟩ := not_or.1 hend
    have hne' : r'.place.ahead ≠ [] := mt h.places.ahead_eq_nil_iff.1 hne
    have hempty := List.isEmpty_eq_false_iff.2 hne
    have hempty' := List.isEmpty_eq_false_iff.2 hne'
    have hmatch := alike_applyRules he hrules h.places hne r.languages
    simp only [step, h.finished, h.languages, hfinished, hempty, hempty', Bool.or_self,
      Bool.false_eq_true, ↓reduceIte, he.whole, he.whole', he.columns, he.today, Bool.false_and]
    generalize hx : applyRules e r.place r.languages rules = x at hmatch ⊢
    generalize hy : applyRules e' r'.place r.languages rules = y at hmatch ⊢
    cases hmatch with
    | fails left =>
        refine ⟨?_, h.places, h.line, rfl, rfl⟩
        simp [Result.withoutOffset, h.line hne]
    | matched row left hplaces =>
        have hstop := h.matched hne hplaces hx hy
        dsimp only
        cases hname : (row.text? e.columns.nameIndex).isSome with
        | true => exact ⟨rfl, hstop⟩
        | false => exact ⟨rfl, hstop⟩

theorem alike_nextFrom (he : BothWhole t t' e e')
    (hrules : ∀ r ∈ rules, ∀ call ∈ r.calls, call.IgnoresLineEnds) (h : ReadingsAlike t t' r r')
    (n : Nat) : CallsAlike t t' (nextFrom e rules n r) (nextFrom e' rules n r') := by
  induction n generalizing r r' with
  | zero => exact ⟨rfl, h.finish⟩
  | succ n ih =>
      simp only [nextFrom]
      obtain ⟨hresult, hnext⟩ := alike_step he hrules h
      rcases hs : step e rules r with ⟨x, r₁⟩
      rcases hs' : step e' rules r' with ⟨x', r₁'⟩
      rw [hs, hs'] at hresult hnext
      cases x with
      | none =>
          obtain rfl : x' = none := by simpa using hresult
          exact ih hnext
      | some x =>
          obtain ⟨x', rfl, hx⟩ : ∃ y, x' = some y ∧ y.withoutOffset = x.withoutOffset := by
            simpa [Option.map_eq_some_iff] using hresult
          exact ⟨hx, hnext⟩

theorem alike_next (he : BothWhole t t' e e')
    (hrules : ∀ r ∈ rules, ∀ call ∈ r.calls, call.IgnoresLineEnds)
    (h : ReadingsAlike t t' r r') : CallsAlike t t' (next e rules r) (next e' rules r') := by
  -- a number of steps that is enough for both
  let n := r.place.ahead.length + r'.place.ahead.length + 1
  have hn : next e rules r = nextFrom e rules n r :=
    nextFrom_congr h.stands.1 (Nat.lt_succ_self _) (by omega)
  have hn' : next e' rules r' = nextFrom e' rules n r' :=
    nextFrom_congr h.stands.2 (Nat.lt_succ_self _) (by omega)
  rw [hn, hn']
  exact alike_nextFrom he hrules h n

theorem alike_nextMany (he : BothWhole t t' e e')
    (hrules : ∀ r ∈ rules, ∀ call ∈ r.calls, call.IgnoresLineEnds) (h : ReadingsAlike t t' r r')
    (n : Nat) :
    (nextMany e' rules n r').1.map Result.withoutOffset =
        (nextMany e rules n r).1.map Result.withoutOffset ∧
      ReadingsAlike t t' (nextMany e rules n r).2 (nextMany e' rules n r').2 := by
  induction n generalizing r r' with
  | zero => exact ⟨rfl, h⟩
  | succ n ih =>
      obtain ⟨hfirst, hnext⟩ := alike_next he hrules h
      obtain ⟨hmore, hlast⟩ := ih hnext
      simp only [nextMany, List.map_cons, hfirst, hmore]
      exact ⟨trivial, hlast⟩

theorem mapError_cons {ε δ α : Type} (g : ε → δ) (f : α) (y : Except ε (List α)) :
    Except.mapError g (do return f :: (← y)) = (y.mapError g).map (f :: ·) := by
  cases y <;> rfl

theorem alike_recordsFrom (he : BothWhole t t' e e')
    (hrules : ∀ r ∈ rules, ∀ call ∈ r.calls, call.IgnoresLineEnds) (h : ReadingsAlike t t' r r')
    (n : Nat) :
    (recordsFrom e' rules n r').mapError Unread.line =
      (recordsFrom e rules n r).mapError Unread.line := by
  induction n generalizing r r' with
  | zero => rfl
  | succ n ih =>
      simp only [recordsFrom]
      obtain ⟨hresult, hnext⟩ := alike_next he hrules h
      rcases hs : next e rules r with ⟨x, r₁⟩
      rcases hs' : next e' rules r' with ⟨x', r₁'⟩
      rw [hs, hs'] at hresult hnext
      cases x with
      | done =>
          obtain rfl : x' = .done := by cases x' <;> simp_all [Result.withoutOffset]
          rfl
      | unread u =>
          obtain ⟨u', rfl, hline⟩ : ∃ u', x' = .unread u' ∧ u'.line = u.line := by
            cases x' <;> simp_all [Result.withoutOffset]
          exact congrArg Except.error hline
      | record f =>
          obtain rfl : x' = .record f := by cases x' <;> simp_all [Result.withoutOffset]
          simp only [mapError_cons, ih hnext]

theorem mapError_parse (rules : RuleSet) (text : Text) (context : Context) {n : Nat}
    (hn : text.length < n) (g : Unread → Nat) :
    (parse rules text context).mapError g =
      ((recordsFrom (surroundings rules.columns context text) rules.rules n
        (start text context)).mapError g).map (·.filter (!·.isDotEntry)) := by
  have hlength : (start text context).place.ahead.length = text.length := rfl
  rw [parse, recordsFrom_congr (stands_start text context) (by omega) (hlength ▸ hn)]
  cases recordsFrom (surroundings rules.columns context text) rules.rules n
    (start text context) <;> rfl

theorem readingsAlike_start (h : contents t = contents t') (context : Context) :
    ReadingsAlike t t' (start t context) (start t' context) :=
  ⟨⟨rfl, rfl, h, rfl, fun _ => by simp [start, Cursor.ofText, Parted],
    fun _ => by simp [start, Cursor.ofText, Parted]⟩, fun _ => rfl, rfl, rfl⟩

end Runs

/-- Rules that do not look at line ends read two listings with the same lines alike, however the
lines end: the same records, the same unread line, and the same languages left. -/
theorem nextMany_lineEndings {source : Text} {columns : ColumnSet} {rules : RuleSet}
    (hcompile : RuleSet.compile source columns = .ok rules)
    (htexts : ∀ t ∈ rules.texts, ∀ x ∈ t, isLineEnd x = false)
    (hnext : rules.onlyComparesNextChar = true) {t t' : Text}
    (hlines : (lines t).map Line.content = (lines t').map Line.content) (context : Context) :
    let whole := { context with incomplete := false }
    let run (text : Text) (n : Nat) :=
      nextMany (surroundings rules.columns whole text) rules.rules n (start text whole)
    (∀ n, (run t n).1.map Result.withoutOffset = (run t' n).1.map Result.withoutOffset ∧
        (run t n).2.languages = (run t' n).2.languages) ∧
      (parse rules t whole).mapError Unread.line = (parse rules t' whole).mapError Unread.line := by
  intro whole run
  have hrules := RuleSet.ignoresLineEnds_of_compile hcompile htexts hnext
  have hstart : ReadingsAlike t t' (start t whole) (start t' whole) :=
    readingsAlike_start hlines whole
  have he : BothWhole t t' (surroundings rules.columns whole t)
      (surroundings rules.columns whole t') := ⟨rfl, rfl, rfl, rfl, rfl, rfl⟩
  constructor
  · intro n
    obtain ⟨hresults, hlast⟩ := alike_nextMany he hrules hstart n
    exact ⟨hresults.symm, hlast.languages.symm⟩
  · have hn : t.length < t.length + t'.length + 1 := by omega
    have hn' : t'.length < t.length + t'.length + 1 := by omega
    rw [mapError_parse rules t whole hn, mapError_parse rules t' whole hn',
      alike_recordsFrom he hrules hstart]

end Reading

namespace Rewrapped

def columns : ColumnSet :=
  ⟨[⟨['n', 'a', 'm', 'e'], .name, .empty⟩], 0⟩

def source : Text :=
  "* if(next_char != \"#\"), word(<name>), white_spaces_and_line_ends(), word();".toList

def rules : RuleSet :=
  ⟨[⟨[⟨.require, [.comparison (.state .nextChar) .notEqual (.text ['#'])]⟩,
    ⟨.word, [.operand (.column (.declared 0))]⟩, ⟨.whiteSpacesAndLineEnds, []⟩, ⟨.word, []⟩]⟩],
    columns⟩

theorem compile_source : RuleSet.compile source columns = .ok rules := by rfl

def context : Context :=
  { today := ⟨2024, 3, 10, by decide⟩ }

def short : Text :=
  "a\nb\n#".toList

def long : Text :=
  "a\r\nb\r\n#\r\n".toList

theorem parse_short_long :
    RuleSet.compile source columns = .ok rules ∧
      (lines short).map Line.content = (lines long).map Line.content ∧
      parse rules short context = .error ⟨4, 3⟩ ∧
      (parse rules long context).mapError Unread.line = .error 3 := by
  have hnoLineEnd : ∀ t ∈ rules.texts, t.any isLineEnd = false := by decide
  have htexts : ∀ t ∈ rules.texts, ∀ x ∈ t, isLineEnd x = false := by
    intro t ht x hx
    exact Bool.eq_false_iff.2 (List.any_eq_false.1 (hnoLineEnd t ht) x hx)
  have hlines : (lines short).map Line.content = (lines long).map Line.content := by decide
  have hshort : parse rules short context = .error ⟨4, 3⟩ := by rfl
  have hsame := (Reading.nextMany_lineEndings compile_source htexts rfl hlines context).2
  exact ⟨compile_source, hlines, hshort, hsame.symm.trans (congrArg _ hshort)⟩

end Rewrapped

end ListingRules.Listing
