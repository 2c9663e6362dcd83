import ListingRules.Proofs.CellWrites
import ListingRules.Proofs.Filling
import ListingRules.Proofs.Passes
import ListingRules.Proofs.RecordValues
import ListingRules.Proofs.Tokens

namespace ListingRules

def Value.IsShownIn : Value → ColumnKind → Prop
  | empty, k => k = .extension ∨ k = .generalDate ∨ k = .generalTime ∨ k = .number
  | text _, k => k = .name ∨ k = .extension ∨ k = .text ∨ k = .fileType
  | number _, k => k = .size ∨ k = .number
  | date _, k => k = .date ∨ k = .generalDate
  | time _, k => k = .time ∨ k = .generalTime

theorem Value.Fits.isShownIn {v : Value} {k : ColumnKind} (h : v.Fits k) (hk : k ≠ .name) :
    v.IsShownIn k := by
  cases v with
  | empty => exact h.resolve_left hk
  | text t => exact .inr (.inr h)
  | number n => exact h.symm.imp_left And.left
  | date d => exact h.1
  | time t => exact h

namespace Listing

theorem extensionOf?_eq_some_iff {name t : Text} :
    extensionOf? name = some t ↔ ∃ stem, name = stem ++ '.' :: t ∧ '.' ∉ t := by
  constructor
  · intro h
    obtain ⟨hpoint, rfl⟩ := by simpa [extensionOf?] using h
    have hnone : '.' ∉ name.reverse.takeWhile (· != '.') := by
      intro hmem
      have hne := List.all_eq_true.1 List.all_takeWhile _ hmem
      simp at hne
    have hsplit := List.takeWhile_append_dropWhile (p := (· != '.')) (l := name.reverse)
    cases hrest : name.reverse.dropWhile (· != '.') with
    | nil =>
        rw [hrest, List.append_nil] at hsplit
        rw [hsplit] at hnone
        exact absurd (List.mem_reverse.2 hpoint) hnone
    | cons x rest =>
        obtain rfl : x = '.' := by
          simpa using stops_dropWhile (· != '.') name.reverse x (by simp [hrest])
        rw [hrest] at hsplit
        refine ⟨rest.reverse, ?_, by simpa using hnone⟩
        simpa using (congrArg List.reverse hsplit).symm
  · rintro ⟨stem, rfl, ht⟩
    have hlast : (t.reverse ++ '.' :: stem.reverse).takeWhile (· != '.') = t.reverse := by
      refine takeWhile_append_of_stops (fun x hx => ?_) (stops_cons rfl)
      simp only [bne_iff_ne, ne_eq]
      rintro rfl
      exact ht (List.mem_reverse.1 hx)
    simp [extensionOf?, hlast]

theorem shownValue_isShownIn {column : Column} (hempty : column.empty.Fits column.kind)
    (today : Date) (name : Text) (extension : Option Text) (cell : Cell) :
    (shownValue today name extension column cell).IsShownIn column.kind := by
  have hunwritten := hempty.isShownIn
  simp only [shownValue]
  split <;> rename_i hkind
  · exact .inl hkind
  · cases extension with
    | none => exact .inl hkind
    | some t => exact .inr (.inl hkind)
  · exact .inl hkind
  · rename_i n
    cases n with
    | none => exact .inr (.inr (.inr hkind))
    | some n => exact .inr hkind
  · exact .inr (.inr (.inl hkind))
  · exact .inl hkind
  · exact .inr hkind
  · split
    · exact .inl hkind
    · exact hunwritten (by simp [hkind])
  · split
    · exact .inr hkind
    · exact hunwritten (by simp [hkind])
  · exact hunwritten (by assumption)

theorem isSome_valueOfKind? {s : ColumnSet} {k : ColumnKind} {values : List Value}
    (hlength : values.length = s.columns.length) :
    (valueOfKind? s k values).isSome = true ↔ ∃ c ∈ s.columns, c.kind = k := by
  simp only [valueOfKind?, Option.isSome_map, List.find?_isSome, beq_iff_eq, Prod.exists]
  constructor
  · rintro ⟨c, v, hmem, hkind⟩
    exact ⟨c, (List.of_mem_zip hmem).1, hkind⟩
  · rintro ⟨c, hc, hkind⟩
    obtain ⟨i, hi, rfl⟩ := List.getElem_of_mem hc
    have hvalue : i < values.length := hlength ▸ hi
    have hzip : (s.columns.zip values)[i]? = some (s.columns[i], values[i]) :=
      List.getElem?_zip_eq_some.2 ⟨List.getElem?_eq_getElem hi, List.getElem?_eq_getElem hvalue⟩
    exact ⟨_, _, List.mem_of_getElem? hzip, hkind⟩

namespace FileRecord

def Shows (s : ColumnSet) (f : FileRecord) (k : ColumnKind) (v : Value) : Prop :=
  ∀ i column, s.get? i = some column → column.kind = k → f.values[i]? = some v

structure WellFormed (s : ColumnSet) (f : FileRecord) : Prop where
  length : f.values.length = s.columns.length
  kinds : ∀ i column v, s.get? i = some column → f.values[i]? = some v → v.IsShownIn column.kind
  name_ne_nil : f.name ≠ []
  name_bytes : Text.byteCount f.name ≤ 255
  name_shown : ∃ column, s.get? s.nameIndex = some column ∧ column.kind = .name ∧
    f.values[s.nameIndex]? = some (.text f.name)
  extension : ∀ t, f.extension = some t ↔
    f.isDir = false ∧ ∃ stem, f.name = stem ++ '.' :: t ∧ '.' ∉ t
  extension_shown : f.Shows s .extension (f.extension.elim .empty .text)
  modified : f.modified.isSome = true ↔ ∃ c ∈ s.columns, c.kind = .date ∨ c.kind = .time
  date_shown : ∀ m, f.modified = some m → f.Shows s .date (.date m.date)
  time_shown : ∀ m, f.modified = some m → f.Shows s .time (.time m.time)
  no_date : ∀ m, f.modified = some m → (∀ c ∈ s.columns, c.kind ≠ .date) → m.date = Date.earliest
  no_time : ∀ m, f.modified = some m → (∀ c ∈ s.columns, c.kind ≠ .time) → m.time = Time.midnight

end FileRecord

namespace Row

variable {s : ColumnSet} {r : Row} {today : Date}

theorem exists_value (hlength : r.cells.length = s.columns.length) {i : Nat} {column : Column}
    (hi : s.get? i = some column) (today : Date) :
    ∃ cell, (r.toRecord s today).values[i]? =
      some (shownValue today (r.shownName s) (r.shownExtension s) column cell) := by
  obtain ⟨hlt, -⟩ := List.getElem?_eq_some_iff.1 hi
  exact ⟨_, value_toRecord hi (List.getElem?_eq_getElem (hlength ▸ hlt)) today⟩

theorem shows_of_kind (hlength : r.cells.length = s.columns.length) {k : ColumnKind} {v : Value}
    (h : ∀ column cell, column.kind = k →
      shownValue today (r.shownName s) (r.shownExtension s) column cell = v) :
    (r.toRecord s today).Shows s k v := by
  intro i column hi hkind
  obtain ⟨cell, hvalue⟩ := exists_value hlength hi today
  rw [hvalue, h column cell hkind]

theorem shows_name (hlength : r.cells.length = s.columns.length) :
    (r.toRecord s today).Shows s .name (.text (r.shownName s)) :=
  shows_of_kind hlength fun column cell hkind => by simp [shownValue, hkind]

theorem shows_extension (hlength : r.cells.length = s.columns.length) :
    (r.toRecord s today).Shows s .extension ((r.shownExtension s).elim .empty .text) :=
  shows_of_kind hlength fun column cell hkind => by simp [shownValue, hkind]

theorem kind_of_value (hs : ColumnSet.WellKinded s.columns)
    (hlength : r.cells.length = s.columns.length) {i : Nat} {column : Column} {v : Value}
    (hi : s.get? i = some column) (hv : (r.toRecord s today).values[i]? = some v) :
    v.IsShownIn column.kind := by
  obtain ⟨cell, hvalue⟩ := exists_value hlength hi today
  obtain rfl := Option.some.inj (hv.symm.trans hvalue)
  exact shownValue_isShownIn (hs.fits column (List.mem_of_getElem? hi)) ..

theorem modified_toRecord (s : ColumnSet) (r : Row) (today : Date) :
    let f := r.toRecord s today
    let date := valueOfKind? s .date f.values
    let time := valueOfKind? s .time f.values
    f.modified.isSome = (date.isSome || time.isSome) ∧
      ∀ m, f.modified = some m →
        m.date = (match date with
          | some (.date d) => d
          | _ => Date.earliest) ∧
        m.time = (match time with
          | some (.time t) => t
          | _ => Time.midnight) := by
  intro f date time
  have hmodified : f.modified =
      if date.isNone && time.isNone then none else some ⟨_, _⟩ := rfl
  rw [hmodified]
  split
  · rename_i hnone
    simp only [Bool.and_eq_true, Option.isNone_iff_eq_none] at hnone
    simp [hnone]
  · rename_i hsome
    simp only [Bool.and_eq_true, Option.isNone_iff_eq_none, not_and_or] at hsome
    refine ⟨?_, fun m hm => ?_⟩
    · simpa [Option.isSome_iff_ne_none] using hsome
    · obtain rfl := Option.some.inj hm
      exact ⟨rfl, rfl⟩

theorem exists_valueOfKind (hs : ColumnSet.WellKinded s.columns)
    (hlength : r.cells.length = s.columns.length) {i : Nat} {column : Column}
    (hi : s.get? i = some column) (hunique : column.kind.isUnique = true) (today : Date) :
    ∃ v, v.IsShownIn column.kind ∧ (r.toRecord s today).values[i]? = some v ∧
      valueOfKind? s column.kind (r.toRecord s today).values = some v := by
  obtain ⟨cell, hvalue⟩ := exists_value hlength hi today
  exact ⟨_, kind_of_value hs hlength hi hvalue, hvalue, valueOfKind?_eq hs hi hunique hvalue⟩

theorem shows_of_valueOfKind (hs : ColumnSet.WellKinded s.columns)
    (hlength : r.cells.length = s.columns.length) {kind : ColumnKind} {v : Value}
    (hunique : kind.isUnique = true)
    (hv : ∀ u : Value, u.IsShownIn kind →
      valueOfKind? s kind (r.toRecord s today).values = some u → u = v) :
    (r.toRecord s today).Shows s kind v := by
  intro i column hi hkind
  subst hkind
  obtain ⟨u, hshown, hvalue, hof⟩ := exists_valueOfKind hs hlength hi hunique today
  rw [hvalue, hv u hshown hof]

theorem shows_date (hs : ColumnSet.WellKinded s.columns)
    (hlength : r.cells.length = s.columns.length) {m : Moment}
    (hm : (r.toRecord s today).modified = some m) :
    (r.toRecord s today).Shows s .date (.date m.date) := by
  refine shows_of_valueOfKind hs hlength (by rfl) fun u hshown hof => ?_
  have hdate := ((modified_toRecord s r today).2 m hm).1
  cases u with
  | date d => rw [hdate, hof]
  | _ => simp [Value.IsShownIn] at hshown

theorem shows_time (hs : ColumnSet.WellKinded s.columns)
    (hlength : r.cells.length = s.columns.length) {m : Moment}
    (hm : (r.toRecord s today).modified = some m) :
    (r.toRecord s today).Shows s .time (.time m.time) := by
  refine shows_of_valueOfKind hs hlength (by rfl) fun u hshown hof => ?_
  have htime := ((modified_toRecord s r today).2 m hm).2
  cases u with
  | time t => rw [htime, hof]
  | _ => simp [Value.IsShownIn] at hshown

theorem wellFormed_toRecord (hs : ColumnSet.WellKinded s.columns)
    (hname : ∃ column, s.get? s.nameIndex = some column ∧ column.kind = .name)
    (hlength : r.cells.length = s.columns.length) {name : Text}
    (htext : r.text? s.nameIndex = some name) (hne : name ≠ [])
    (hbytes : Text.byteCount name ≤ 255) (today : Date) : (r.toRecord s today).WellFormed s := by
  have hshown : r.shownName s = name := by simp [shownName, htext]
  obtain ⟨column, hi, hkind⟩ := hname
  have hmodified := modified_toRecord s r today
  have hvalues : (r.toRecord s today).values.length = s.columns.length :=
    length_values_toRecord hlength
  exact
    { length := hvalues
      kinds := fun i column v => kind_of_value hs hlength
      name_ne_nil := by
        change r.shownName s ≠ []
        rwa [hshown]
      name_bytes := by
        change Text.byteCount (r.shownName s) ≤ 255
        rwa [hshown]
      name_shown := ⟨column, hi, hkind, shows_name hlength _ column hi hkind⟩
      extension := fun t => by
        simp [toRecord, FileRecord.ofValues, extensionOf?_eq_some_iff]
      extension_shown := shows_extension hlength
      modified := by
        simp [hmodified.1, isSome_valueOfKind? hvalues, and_or_left, exists_or]
      date_shown := fun m => shows_date hs hlength
      time_shown := fun m => shows_time hs hlength
      no_date := fun m hm hno => by
        rw [(hmodified.2 m hm).1, valueOfKind?_eq_none hno]
      no_time := fun m hm hno => by
        rw [(hmodified.2 m hm).2, valueOfKind?_eq_none hno] }

end Row

section Names

variable {s : ColumnSet}

def NameShort (s : ColumnSet) (cells : List Cell) : Prop :=
  ∀ t, cells[s.nameIndex]? = some (.text t) → Text.byteCount t ≤ maxNameBytes

theorem nameShort_empty : NameShort s (Row.empty s).cells := by
  intro t ht
  obtain ⟨_, -, hblank⟩ := List.mem_map.1 (List.mem_of_getElem? ht)
  cases hblank

theorem Write.keeps_nameShort
    (hname : ∃ column, s.get? s.nameIndex = some column ∧ column.kind = .name) (c : ColumnRef)
    (w : Write) : w.Keeps s (NameShort s) c := by
  rintro i column old new cells rfl hi hold hnew hshort t ht
  by_cases hin : i = s.nameIndex
  · subst hin
    obtain ⟨_, hcolumn, hkind⟩ := hname
    obtain rfl := Option.some.inj (hi.symm.trans hcolumn)
    obtain ⟨hlt, -⟩ := List.getElem?_eq_some_iff.1 hold
    obtain rfl : new = .text t := by simpa [hlt] using ht
    rw [hkind] at hnew
    -- only a text leaves a text, and it is cut to what a name may have
    cases w with
    | text u =>
        obtain rfl : keptText .name u = t := by simpa [cell?] using hnew
        exact byteCount_keptText_le u
    | _ => simp [cell?] at hnew
  · rw [List.getElem?_set_ne hin] at ht
    exact hshort t ht

theorem hasEmptyName_of_applyRule {e : Surroundings} {place stop : Cursor} {rule : Rule} {row : Row}
    {before after : Languages} (h : applyRule e place before rule = .matched stop row after) :
    row.hasEmptyName e.columns = false := by
  simp only [applyRule] at h
  split at h
  · split at h
    · simp at h
    · rename_i hend
      injection h with _ hrow
      simp only [Bool.or_eq_true, Bool.not_eq_true', not_or, Bool.not_eq_true] at hend
      exact hrow ▸ hend.1
  · split at h <;> simp at h
  · simp at h
  · simp at h

theorem nameShort_of_applyRule {e : Surroundings} {place stop : Cursor} {rule : Rule} {row : Row}
    {before after : Languages}
    (hname : ∃ column, e.columns.get? e.columns.nameIndex = some column ∧ column.kind = .name)
    (h : applyRule e place before rule = .matched stop row after) :
    NameShort e.columns row.cells := by
  obtain ⟨c, ho⟩ := applyAll_of_applyRule h
  have hleaves : (applyAll e rule.calls ⟨place, Row.empty e.columns, before⟩).Leaves
      (NameShort e.columns) :=
    leaves_applyAll nameShort_empty fun _ _ c _ _ w _ _ => w.keeps_nameShort hname c
  rwa [ho] at hleaves

end Names

namespace Reading

/-- Each record that is read with compiled rules is well formed. -/
theorem wellFormed_of_nextMany {definitions : List ColumnDefinition} {columns : ColumnSet}
    (hcolumns : ColumnSet.ofDefinitions definitions = .ok columns) {source : Text}
    {rules : RuleSet} (h : RuleSet.compile source columns = .ok rules) (text : Text)
    (context : Context) (n : Nat) :
    let e := surroundings rules.columns context text
    ∀ f, .record f ∈ (nextMany e rules.rules n (start text context)).1 → f.WellFormed columns := by
  intro e f hf
  obtain rfl := RuleSet.columns_of_compile h
  obtain ⟨rule, hrule, place, stop, row, before, after, hmatch, hwritten, rfl⟩ :=
    match_of_record hf
  obtain ⟨name, htext⟩ := Option.isSome_iff_exists.1 hwritten
  obtain ⟨v, hchecked⟩ := RuleSet.checked_of_compile h hrule
  obtain ⟨c, ho⟩ := applyAll_of_applyRule hmatch
  have hkeeps := keeps_of_succeeds (succeeds_of_applyAll ho) hchecked Row.keeps_empty
  have hname := ColumnSet.get?_nameIndex hcolumns
  have hne : name ≠ [] := by
    rintro rfl
    simpa [Row.hasEmptyName, htext] using hasEmptyName_of_applyRule hmatch
  have hbytes : Text.byteCount name ≤ 255 :=
    nameShort_of_applyRule (e := e) hname hmatch name (Row.text?_eq_some_iff.1 htext)
  exact Row.wellFormed_toRecord (ColumnSet.wellKinded_of_definitions hcolumns) hname
    hkeeps.typed.length htext hne hbytes e.today

end Reading

namespace Dated

def definitions : List ColumnDefinition :=
  [⟨"name".toList, .name, none⟩, ⟨"ext".toList, .extension, none⟩, ⟨"size".toList, .size, none⟩,
   ⟨"date".toList, .date, none⟩, ⟨"links".toList, .number, none⟩]

def columns : ColumnSet :=
  ⟨[⟨"name".toList, .name, .empty⟩, ⟨"ext".toList, .extension, .empty⟩,
    ⟨"size".toList, .size, .number 0⟩, ⟨"date".toList, .date, .date Date.earliest⟩,
    ⟨"links".toList, .number, .empty⟩], 0⟩

def source : Text :=
  "* day(<date>), white_spaces(), month(<date>), white_spaces(), ".toList ++
    "year(<date>), white_spaces(), word(<name>);\n".toList

def rules : RuleSet :=
  ⟨[⟨[⟨.day, [.operand (.column (.declared 3))]⟩, ⟨.whiteSpaces, []⟩,
    ⟨.month, [.operand (.column (.declared 3))]⟩, ⟨.whiteSpaces, []⟩,
    ⟨.year, [.operand (.column (.declared 3))]⟩, ⟨.whiteSpaces, []⟩,
    ⟨.word, [.operand (.column (.declared 0))]⟩]⟩], columns⟩

theorem isDay_today : IsDay 2024 4 10 := by decide

def context : Context :=
  { today := ⟨2024, 4, 10, isDay_today⟩ }

def listing : Text :=
  "5 6 2023 a.txt\n".toList

def day : Date :=
  ⟨2023, 6, 5, by decide⟩

def record : FileRecord :=
  { name := "a.txt".toList, isDir := false, isHidden := false, isLink := false, size := 0
    modified := some ⟨day, Time.midnight⟩, extension := some "txt".toList
    values := [.text "a.txt".toList, .text "txt".toList, .number 0, .date day, .empty] }

theorem wellFormed_record :
    ColumnSet.ofDefinitions definitions = .ok columns ∧
      RuleSet.compile source columns = .ok rules ∧ record.WellFormed columns := by
  have hcolumns : ColumnSet.ofDefinitions definitions = .ok columns := by rfl
  have hcompile : RuleSet.compile source columns = .ok rules := by rfl
  have hrecord : (Reading.nextMany (Reading.surroundings rules.columns context listing) rules.rules
      1 (Reading.start listing context)).1 = [.record record] := by rfl
  exact ⟨hcolumns, hcompile,
    Reading.wellFormed_of_nextMany hcolumns hcompile listing context 1 record (by simp [hrecord])⟩

end Dated

end Listing

end ListingRules
