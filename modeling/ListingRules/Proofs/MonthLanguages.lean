import ListingRules.Proofs.DateWrites

namespace ListingRules

namespace Language

def monthNames : RuleFunction → Language → List Text
  | .month3, english => names "jan feb mar apr may jun jul aug sep oct nov dec"
  | .month3, german => names "jan feb mär apr mai jun jul aug sep okt nov dez"
  | .month3, norwegian => names "jan feb mar apr mai jun jul aug sep okt nov des"
  | .month3, swedish => names "jan feb mar apr maj jun jul aug sep okt nov dec"
  | .monthTxt, german => names "Jan. Feb. März Apr. Mai Juni Juli Aug. Sept. Okt. Nov. Dez."
  | _, _ => []
where
  names (list : String) : List Text :=
    list.toList.splitOn ' '

def Spells (f : RuleFunction) (l : Language) (word : Text) (month : Nat) : Prop :=
  1 ≤ month ∧ ∃ name, (l.monthNames f)[month - 1]? = some name ∧ Text.sameLetters word name = true

end Language

namespace MonthName

theorem spelled_short : ∀ m ∈ short, ∀ l ∈ m.languages,
    1 ≤ m.month ∧ (l.monthNames .month3)[m.month - 1]? = some m.name := by
  decide

theorem spelled_long : ∀ m ∈ long, ∀ l ∈ m.languages,
    1 ≤ m.month ∧ (l.monthNames .monthTxt)[m.month - 1]? = some m.name := by
  decide

theorem spells_of_shortAt? {word : Text} {m : MonthName} {l : Language}
    (h : shortAt? word = some m) (hl : l ∈ m.languages) : l.Spells .month3 word m.month := by
  obtain ⟨hpos, hname⟩ := spelled_short m (List.mem_of_find?_eq_some h) l hl
  exact ⟨hpos, m.name, hname, by simpa using List.find?_some h⟩

theorem spells_of_longAt? {word : Text} {m : MonthName} {l : Language}
    (h : longAt? word = some m) (hl : l ∈ m.languages) :
    l.Spells .monthTxt (word.take m.name.length) m.month := by
  obtain ⟨hpos, hname⟩ := spelled_long m (List.mem_of_find?_eq_some h) l hl
  obtain ⟨⟨start, rest⟩, hstart⟩ : ∃ parts, Text.stripStart? m.name word = some parts :=
    Option.isSome_iff_exists.1 (by simpa using List.find?_some h)
  obtain ⟨rfl, hsame⟩ := Text.append_of_stripStart? hstart
  rw [← Text.length_eq_of_sameLetters hsame, List.take_left]
  exact ⟨hpos, m.name, hname, hsame⟩

end MonthName

namespace Listing

def Made.Accepts (e : Surroundings) (m : Made) (word : Text) (month : Nat) : Prop :=
  (m.call.function = .month3 ∨ m.call.function = .monthTxt) ∧
    ∃ i b d, m.call.params = [.operand (.column (.declared i))] ∧
      m.attempt.apply e m.call = .continues b ∧ m.attempt.place.Spans b.place word ∧
      b.row.cells[i]? = some (.date d) ∧ d.month = some month

section Names

variable {e : Surroundings} {a b : Attempt} {i : Nat}

theorem exists_of_setMonth {s : ColumnSet} {n : Nat} {place : Cursor} {left : Languages}
    {d : DateParts} {month : Nat}
    (h : ({ a with place, languages := left } : Attempt).setDate s
      (fun d => { d with month := some n }) (.declared i) = .continues b)
    (hcell : b.row.cells[i]? = some (.date d)) (hmonth : d.month = some month) :
    b.place = place ∧ month = n := by
  have hparts := Attempt.dateParts_of_setDate h rfl
  rw [Row.dateParts_eq hcell] at hparts
  obtain rfl : d = _ := hparts
  obtain ⟨_, _, _, _, _, _, _, _, rfl⟩ := Attempt.exists_of_modify h
  exact ⟨rfl, (Option.some.inj hmonth).symm⟩

theorem spells_of_accepts {m : Made} {word : Text} {month : Nat} (h : m.Accepts e word month)
    {l : Language} (hl : l ∈ languagesAfter m.call m.attempt) :
    l.Spells m.call.function word month := by
  obtain ⟨⟨f, ps⟩, a⟩ := m
  obtain ⟨hf, i, b, d, hparams, ho, hspans, hcell, hmonth⟩ := h
  obtain rfl : ps = [.operand (.column (.declared i))] := hparams
  simp only at hf ho hspans hl ⊢
  rcases hf with rfl | rfl
  · obtain ⟨read, hread, hset⟩ := Attempt.exists_of_takeMonth3 none ho
    obtain ⟨hplace, rfl⟩ := exists_of_setMonth hset hcell hmonth
    rw [Option.elim_none, MonthName.readShort?_eq, Option.map_eq_some_iff] at hread
    obtain ⟨m, hm, rfl⟩ := hread
    -- what the call has gone past is what it has looked up
    obtain rfl := hspans.unique (hplace ▸ Cursor.spans_advance 3 a.place)
    have hname : monthName? ⟨.month3, [.operand (.column (.declared i))]⟩ a = some m := hm
    rw [languagesAfter, hname] at hl
    exact MonthName.spells_of_shortAt? (Option.filter_eq_some_iff.1 hm).1
      (by simpa using (List.mem_filter.1 hl).2)
  · obtain ⟨⟨n, length, left⟩, hread, hset⟩ := Attempt.exists_of_takeMonthTxt none ho
    obtain ⟨hplace, rfl⟩ := exists_of_setMonth hset hcell hmonth
    have hlength := (MonthName.le_of_readLong? hread).2
    simp only [Option.elim_none, MonthName.readLong?_eq, Option.map_eq_some_iff,
      Prod.mk.injEq] at hread
    obtain ⟨m, hm, rfl, rfl, rfl⟩ := hread
    obtain rfl := hspans.unique (hplace ▸ Cursor.spans_advance m.name.length a.place)
    have hname : monthName? ⟨.monthTxt, [.operand (.column (.declared i))]⟩ a = some m := hm
    rw [languagesAfter, hname] at hl
    have hword := MonthName.spells_of_longAt? (Option.filter_eq_some_iff.1 hm).1
      (l := l) (by simpa using (List.mem_filter.1 hl).2)
    rwa [← List.take_append_of_le_length hlength, List.takeWhile_append_dropWhile] at hword

end Names

theorem languagesAfter_subset (call : Call) (a : Attempt) :
    languagesAfter call a ⊆ a.languages := by
  rw [languagesAfter_eq]
  exact List.filter_sublist.subset

theorem languagesAfter_ne_nil (call : Call) {a : Attempt} (h : a.languages ≠ []) :
    languagesAfter call a ≠ [] := by
  simp only [languagesAfter]
  cases hm : monthName? call a with
  | none => exact h
  | some m =>
      obtain ⟨l, hl, hm⟩ := List.any_eq_true.1 (Option.filter_eq_some_iff.1 hm).2
      exact List.ne_nil_of_mem (List.mem_filter.2 ⟨hl, hm⟩)

structure SoundAfter (e : Surroundings) (given : Languages) (calls : List Made)
    (left : Languages) : Prop where
  within : left ⊆ given
  shrinks : ∀ m ∈ calls, left ⊆ m.attempt.languages
  nonempty : given ≠ [] → left ≠ []
  spells : ∀ m ∈ calls, ∀ word month, m.Accepts e word month →
    ∀ l ∈ left, l.Spells m.call.function word month

theorem Narrows.soundAfter {e : Surroundings} {before after : Languages} {calls : List Made}
    (h : Narrows before calls after) : SoundAfter e before calls after := by
  induction h with
  | nil => exact ⟨List.Subset.refl _, by simp, id, by simp⟩
  | @cons call a calls left _ ih =>
      have hfirst := languagesAfter_subset call a
      refine ⟨List.Subset.trans ih.within hfirst, ?_,
        fun h => ih.nonempty (languagesAfter_ne_nil call h), ?_⟩
      · intro m hm
        rcases List.mem_cons.1 hm with rfl | hm
        · exact List.Subset.trans ih.within hfirst
        · exact ih.shrinks m hm
      · intro m hm word month haccepts l hl
        rcases List.mem_cons.1 hm with rfl | hm
        · exact spells_of_accepts haccepts (ih.within hl)
        · exact ih.spells m hm word month haccepts l hl

namespace Reading

/-- The languages are sound before each call that compiled rules make, and behind the last; and
reading on adds none. -/
theorem soundAfter_nextMany {source : Text} {columns : ColumnSet} {rules : RuleSet}
    (h : RuleSet.compile source columns = .ok rules) (text : Text) (context : Context) (n : Nat) :
    let e := surroundings rules.columns context text
    let calls := madeByNextMany e rules.rules n (start text context)
    let left := fun n => (nextMany e rules.rules n (start text context)).2.languages
    (∀ done m more, calls = done ++ m :: more →
        SoundAfter e context.languages done m.attempt.languages) ∧
      SoundAfter e context.languages calls (left n) ∧ ∀ k, left (n + k) ⊆ left n := by
  intro e calls left
  have hnarrows (k : Nat) (r : Reading) : Narrows r.languages (madeByNextMany e rules.rules k r)
      (nextMany e rules.rules k r).2.languages :=
    narrows_nextMany (fun rule hr => Rule.isChecked_of_compile h rfl hr) k r
  have hcalls : Narrows context.languages calls (left n) := hnarrows n (start text context)
  refine ⟨fun done m more hsplit => ?_, hcalls.soundAfter, fun k => ?_⟩
  · rw [hsplit] at hcalls
    exact hcalls.upTo.soundAfter
  · simp only [left, nextMany_add]
    exact (hnarrows k _).soundAfter (e := e).within

end Reading

namespace Narrowed

def columns : ColumnSet :=
  ⟨[⟨"name".toList, .name, .empty⟩, ⟨['d'], .generalDate, .empty⟩], 0⟩

def source : Text :=
  "* month_3(<d>), white_spaces(), word(<name>);\n".toList

def month : Call :=
  ⟨.month3, [.operand (.column (.declared 1))]⟩

def rules : RuleSet :=
  ⟨[⟨[month, ⟨.whiteSpaces, []⟩, ⟨.word, [.operand (.column (.declared 0))]⟩]⟩], columns⟩

theorem isDay_today : IsDay 2024 4 10 := by decide

def context : Context :=
  { today := ⟨2024, 4, 10, isDay_today⟩ }

def listing : Text :=
  "Mai x\nDez y\n".toList

def surroundings : Surroundings :=
  Reading.surroundings columns context listing

def calls : List Made :=
  Reading.madeByNextMany surroundings rules.rules 2 (Reading.start listing context)

def second : Made :=
  ⟨month, ⟨⟨"\nx iaM".toList, "Dez y\n".toList⟩, Row.empty columns, [.german, .norwegian]⟩⟩

theorem second_mem : second ∈ calls :=
  List.mem_of_getElem? (i := 3) (by rfl)

theorem second_accepts : second.Accepts surroundings "Dez".toList 12 :=
  ⟨.inl rfl, 1, ⟨⟨"zeD\nx iaM".toList, " y\n".toList⟩,
    ⟨[.blank, .date { month := some 12 }], false, false, false⟩, [.german]⟩, { month := some 12 },
    rfl, by rfl, ⟨rfl, rfl⟩, rfl, rfl⟩

theorem soundAfter_narrowed :
    RuleSet.compile source columns = .ok rules ∧
      SoundAfter surroundings Languages.all calls [.german] ∧
      Language.german.Spells .month3 "Dez".toList 12 := by
  have hcompile : RuleSet.compile source columns = .ok rules := by rfl
  have hleft : (Reading.nextMany surroundings rules.rules 2
      (Reading.start listing context)).2.languages = [.german] := by rfl
  have hsound : SoundAfter surroundings Languages.all calls [.german] :=
    hleft ▸ (Reading.soundAfter_nextMany hcompile listing context 2).2.1
  exact ⟨hcompile, hsound, hsound.spells second second_mem _ _ second_accepts .german (by simp)⟩

end Narrowed

end Listing

end ListingRules
