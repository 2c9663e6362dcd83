import ListingRules.Listing.Reading
import ListingRules.Proofs.Walk

namespace ListingRules

namespace MonthName

def narrow (m : MonthName) (languages : Languages) : Languages :=
  languages.filter (m.languages.contains ·)

def isUsedIn (languages : Languages) (m : MonthName) : Bool :=
  languages.any (m.languages.contains ·)

def shortAt? (word : Text) : Option MonthName :=
  short.find? fun m => Text.sameLetters word m.name

def longAt? (word : Text) : Option MonthName :=
  long.find? fun m => (Text.stripStart? m.name word).isSome

theorem meet?_languages (m : MonthName) (languages : Languages) :
    languages.meet? m.languages =
      if m.isUsedIn languages then some (m.narrow languages) else none := rfl

theorem readShort?_eq (word : Text) (languages : Languages) :
    readShort? word languages =
      ((shortAt? word).filter (isUsedIn languages)).map fun m =>
        (m.month, m.narrow languages) := by
  simp only [readShort?, shortAt?]
  cases short.find? fun m => Text.sameLetters word m.name with
  | none => rfl
  | some m =>
      by_cases hm : m.isUsedIn languages = true
      · simp [meet?_languages, Option.filter, hm]
      · simp [meet?_languages, Option.filter, hm]

theorem readLong?_eq (word : Text) (languages : Languages) :
    readLong? word languages =
      ((longAt? word).filter (isUsedIn languages)).map fun m =>
        (m.month, m.name.length, m.narrow languages) := by
  simp only [readLong?, longAt?]
  cases long.find? fun m => (Text.stripStart? m.name word).isSome with
  | none => rfl
  | some m =>
      by_cases hm : m.isUsedIn languages = true
      · simp [meet?_languages, Option.filter, hm]
      · simp [meet?_languages, Option.filter, hm]

theorem length_of_shortAt? {word : Text} {m : MonthName} (h : shortAt? word = some m) :
    word.length = 3 := by
  have hmem : m ∈ short := List.mem_of_find?_eq_some h
  have hlen : ∀ n ∈ short, n.name.length = 3 := by decide
  have hsame : Text.sameLetters word m.name = true := by simpa using List.find?_some h
  rw [Text.length_eq_of_sameLetters hsame, hlen m hmem]

theorem longAt?_nil : longAt? [] = none := rfl

end MonthName

namespace Languages

def sharing (languages : Languages) (names : List MonthName) : Languages :=
  languages.filter fun l => names.all (·.languages.contains l)

@[simp] theorem sharing_nil (languages : Languages) : languages.sharing [] = languages :=
  List.filter_eq_self.2 fun _ _ => rfl

theorem sharing_append (languages : Languages) (names more : List MonthName) :
    languages.sharing (names ++ more) = (languages.sharing names).sharing more := by
  simp [sharing, List.filter_filter, Bool.and_comm]

theorem sharing_eq_self_iff {languages : Languages} {names : List MonthName} :
    languages.sharing names = languages ↔
      ∀ m ∈ names, ∀ l ∈ languages, l ∈ m.languages := by
  simp only [sharing, List.filter_eq_self, List.all_eq_true, List.contains_iff_mem]
  exact ⟨fun h m hm l hl => h l hl m hm, fun h l hl m hm => h m hm l hl⟩

end Languages

namespace Listing

open Cursor (Walk)

def monthName? (call : Call) (a : Attempt) : Option MonthName :=
  let found := match call.function, call.params with
    | .month3, [_] => MonthName.shortAt? (a.place.ahead.take 3)
    | .monthTxt, [_] => MonthName.longAt? (a.place.ahead.takeWhile Text.isVisible)
    | _, _ => none
  found.filter (MonthName.isUsedIn a.languages)

def languagesAfter (call : Call) (a : Attempt) : Languages :=
  (monthName? call a).elim a.languages (·.narrow a.languages)

theorem languagesAfter_eq (call : Call) (a : Attempt) :
    languagesAfter call a = a.languages.sharing (monthName? call a).toList := by
  simp only [languagesAfter]
  cases monthName? call a with
  | none => simp
  | some m => simp [Languages.sharing, MonthName.narrow]

def Outcome.Leads (incomplete : Bool) (place : Cursor) (languages : Languages) : Outcome → Prop
  | .continues b => Walk place b.place ∧ b.languages = languages
  | .skipsRest b => Walk place b.place ∧ b.languages = languages ∧ incomplete = true
  | .fails left => left = languages
  | .stuck => True

theorem Outcome.Leads.andThen {incomplete : Bool} {place : Cursor} {languages : Languages}
    {o : Outcome} {f : Attempt → Outcome} (ho : o.Leads incomplete place languages)
    (hf : ∀ b, Walk place b.place → b.languages = languages →
      (f b).Leads incomplete place languages) :
    (o.andThen f).Leads incomplete place languages := by
  cases o with
  | continues b => exact hf b ho.1 ho.2
  | skipsRest b => exact ho
  | fails left => exact ho
  | stuck => exact trivial

theorem Outcome.exists_of_andThen {o : Outcome} {f : Attempt → Outcome} {b : Attempt}
    (h : o.andThen f = .continues b) : ∃ c, o = .continues c ∧ f c = .continues b := by
  cases o with
  | continues c => exact ⟨c, rfl, h⟩
  | _ => cases h

namespace Attempt

variable {e : Surroundings} {s : ColumnSet} {incomplete : Bool} {place : Cursor} {a : Attempt}

theorem leads_moveTo {c : Option Cursor} (h : ∀ d, c = some d → Walk place d) :
    (a.moveTo c).Leads incomplete place a.languages := by
  cases c with
  | none => exact rfl
  | some d => exact ⟨h d rfl, rfl⟩

theorem leads_modify {f : ColumnKind → Cell → Option Cell} {c : ColumnRef}
    (h : Walk place a.place) : (a.modify s f c).Leads incomplete place a.languages := by
  simp only [modify]
  split
  · split
    · split
      · exact ⟨h, rfl⟩
      · exact rfl
    · exact trivial
  · exact trivial

theorem leads_store {t : Text} {target : Option ColumnRef} (h : Walk place a.place) :
    (a.store s t target).Leads incomplete place a.languages := by
  simp only [store]
  split
  · exact ⟨h, rfl⟩
  · exact leads_modify h

theorem leads_takeToken {p : Char → Bool} {target : Option ColumnRef} :
    (a.takeToken s p target).Leads incomplete a.place a.languages := by
  simp only [takeToken]
  split
  · exact rfl
  · exact leads_store (a := { a with place := a.place.skipWhile p })
      (Cursor.walk_skipWhile p a.place)

theorem leads_takeChars {n : Int} {target : Option ColumnRef} :
    (a.takeChars s n target).Leads incomplete a.place a.languages := by
  simp only [takeChars]
  split
  · exact rfl
  · refine (leads_moveTo fun d hd => Cursor.walk_forward? hd).andThen fun b hb hl => ?_
    exact hl ▸ leads_store hb

theorem leads_takeTo {inclusive : Bool} {wanted : Text} {target : Option ColumnRef} :
    (a.takeTo s inclusive wanted target).Leads incomplete a.place a.languages := by
  simp only [takeTo]
  split
  · exact rfl
  · rename_i o _
    exact leads_store
      (a := { a with place := a.place.advance (o.before ++ o.found).length })
      (Cursor.walk_advance _ a.place)

theorem leads_takeNumber {positiveOnly : Bool} {read : Option (Int × Cursor)} {target : ColumnRef}
    (h : ∀ n d, read = some (n, d) → Walk a.place d) :
    (a.takeNumber s positiveOnly read target).Leads incomplete a.place a.languages := by
  simp only [takeNumber]
  split
  · rename_i n d
    split
    · exact rfl
    · exact leads_modify (a := { a with place := d }) (h n d rfl)
  · exact rfl

theorem leads_takeDatePart {f : Nat → Option (DateParts → DateParts)} {target : ColumnRef} :
    (a.takeDatePart s f target).Leads incomplete a.place a.languages := by
  simp only [takeDatePart]
  split
  · rename_i n d hd
    split
    · exact leads_modify (a := { a with place := d }) (Cursor.walk_digits? hd)
    · exact rfl
  · exact rfl

theorem leads_takeTime {target : ColumnRef} :
    (a.takeTime s target).Leads incomplete a.place a.languages := by
  simp only [takeTime]
  split
  · rename_i t d hd
    exact leads_modify (a := { a with place := d }) (Cursor.walk_time? hd)
  · exact rfl

theorem leads_takeYearOrTime {date time : ColumnRef} :
    (a.takeYearOrTime e date time).Leads incomplete a.place a.languages := by
  simp only [takeYearOrTime]
  split
  · rename_i y d hd
    exact leads_modify (a := { a with place := d }) (Cursor.walk_yearOrTime? hd)
  · rename_i t d hd
    refine (leads_modify (a := { a with place := d }) (Cursor.walk_yearOrTime? hd)).andThen
      fun b hb hl => ?_
    have hl : b.languages = a.languages := hl
    exact hl ▸ leads_modify hb
  · exact rfl

theorem leads_takeLink {name link : ColumnRef} :
    (a.takeLink s name link).Leads incomplete a.place a.languages := by
  simp only [takeLink]
  split
  · exact rfl
  · rename_i l _
    refine (leads_modify (a := { a with
        place := a.place.skipWhile (! Text.isLineEnd ·)
        row := { a.row with isDir := l.isDir } })
      (Cursor.walk_skipWhile _ a.place)).andThen fun b hb hl => ?_
    have hl : b.languages = a.languages := hl
    split
    · exact ⟨hb, hl⟩
    · exact hl ▸ leads_modify hb

theorem leads_takeDevice {target : ColumnRef} :
    (a.takeDevice s target).Leads incomplete a.place a.languages := by
  simp only [takeDevice]
  split
  · exact rfl
  · rename_i d hd
    exact leads_modify (a := { a with place := d }) (Cursor.walk_device? hd)

theorem leads_changeText {f : Text → Option Text} {target : ColumnRef} :
    (a.changeText s f target).Leads incomplete a.place a.languages := by
  simp only [changeText]
  split
  · exact trivial
  · split
    · exact leads_modify .refl
    · exact rfl

theorem leads_skipSpaces : (a.skipSpaces e).Leads e.incomplete a.place a.languages := by
  have hw : Walk a.place (a.place.skipWhile Text.isSpace) := Cursor.walk_skipWhile _ _
  simp only [skipSpaces]
  split
  · exact rfl
  · split
    · split
      · rename_i hi
        exact ⟨hw, rfl, hi⟩
      · exact rfl
    · exact ⟨hw, rfl⟩

theorem leads_elim {α : Type} {v : Option α} {f : α → Outcome} {languages : Languages}
    (h : ∀ x, (f x).Leads incomplete place languages) :
    (v.elim .stuck f).Leads incomplete place languages := by
  cases v with
  | none => exact trivial
  | some x => exact h x

theorem leads_flag {v : Option Bool} {f : Bool → Row} :
    (match v with
      | some b => Outcome.continues { a with row := f b }
      | none => .stuck).Leads incomplete a.place a.languages := by
  cases v with
  | none => exact trivial
  | some b => exact ⟨.refl, rfl⟩

theorem leads_assign {target : ColumnRef} {value : Param} :
    (a.assign e target value).Leads incomplete a.place a.languages := by
  have hm {f : ColumnKind → Cell → Option Cell} {c : ColumnRef} :
      (a.modify e.columns f c).Leads incomplete a.place a.languages := leads_modify .refl
  simp only [assign]
  split
  · exact leads_flag
  · exact leads_flag
  · exact leads_flag
  · split
    · exact leads_elim fun _ => hm
    · exact leads_elim fun _ => hm
    · exact leads_elim fun _ => hm
    · exact leads_elim fun _ => hm
    · exact trivial
  · exact trivial

theorem leads_setMonth {f : DateParts → DateParts} {target : ColumnRef} (h : Walk place a.place) :
    (if a.place.nextIsAlphabetic then Outcome.fails a.languages
      else a.setDate s f target).Leads incomplete place a.languages := by
  split
  · exact rfl
  · exact leads_modify h

theorem leads_takeMonth3 {target : ColumnRef} :
    (a.takeMonth3 s none target).Leads incomplete a.place
      (languagesAfter ⟨.month3, [.operand (.column target)]⟩ a) := by
  by_cases hlen : (a.place.ahead.take 3).length = 3
  · simp only [takeMonth3, hlen, ↓reduceIte, MonthName.readShort?_eq, languagesAfter, monthName?]
    cases (MonthName.shortAt? (a.place.ahead.take 3)).filter (MonthName.isUsedIn a.languages) with
    | none => exact rfl
    | some m =>
        exact leads_setMonth
          (a := { a with place := a.place.advance 3, languages := m.narrow a.languages })
          (Cursor.walk_advance 3 a.place)
  · have hm : MonthName.shortAt? (a.place.ahead.take 3) = none :=
      Option.eq_none_iff_forall_ne_some.2 fun m hm => hlen (MonthName.length_of_shortAt? hm)
    simp only [takeMonth3, hlen, ↓reduceIte, languagesAfter, monthName?, hm]
    exact rfl

theorem leads_takeMonth3_list {names : Text} {target : ColumnRef} :
    (a.takeMonth3 s (some names) target).Leads incomplete a.place a.languages := by
  by_cases hlen : (a.place.ahead.take 3).length = 3
  · simp only [takeMonth3, hlen, ↓reduceIte]
    cases MonthName.readShortFrom? names (a.place.ahead.take 3) with
    | none => exact rfl
    | some month =>
        exact leads_setMonth (a := { a with place := a.place.advance 3 })
          (Cursor.walk_advance 3 a.place)
  · simp only [takeMonth3, hlen, ↓reduceIte]
    exact rfl

theorem leads_takeMonthTxt {target : ColumnRef} :
    (a.takeMonthTxt s none target).Leads incomplete a.place
      (languagesAfter ⟨.monthTxt, [.operand (.column target)]⟩ a) := by
  cases hword : a.place.ahead.takeWhile Text.isVisible with
  | nil =>
      simp only [takeMonthTxt, hword, List.isEmpty_nil, ↓reduceIte, languagesAfter, monthName?,
        MonthName.longAt?_nil]
      exact rfl
  | cons x word =>
      simp only [takeMonthTxt, hword, List.isEmpty_cons, Bool.false_eq_true, ↓reduceIte,
        MonthName.readLong?_eq, languagesAfter, monthName?]
      cases (MonthName.longAt? (x :: word)).filter (MonthName.isUsedIn a.languages) with
      | none => exact rfl
      | some m =>
          exact leads_setMonth (a := { a with
              place := a.place.advance m.name.length
              languages := m.narrow a.languages })
            (Cursor.walk_advance m.name.length a.place)

theorem leads_takeMonthTxt_list {names : Text} {target : ColumnRef} :
    (a.takeMonthTxt s (some names) target).Leads incomplete a.place a.languages := by
  cases hword : a.place.ahead.takeWhile Text.isVisible with
  | nil =>
      simp only [takeMonthTxt, hword, List.isEmpty_nil, ↓reduceIte]
      exact rfl
  | cons x word =>
      simp only [takeMonthTxt, hword, List.isEmpty_cons, Bool.false_eq_true, ↓reduceIte]
      cases MonthName.readLongFrom? names (x :: word) with
      | none => exact rfl
      | some read =>
          exact leads_setMonth (a := { a with place := a.place.advance read.2 })
            (Cursor.walk_advance read.2 a.place)

theorem leads_apply (e : Surroundings) (call : Call) (a : Attempt) :
    (a.apply e call).Leads e.incomplete a.place (languagesAfter call a) := by
  obtain ⟨f, ps⟩ := call
  simp only [apply]
  split
  · exact ⟨Cursor.walk_skipWhile _ _, rfl⟩
  · exact ⟨Cursor.walk_skipWhile _ _, rfl⟩
  · exact leads_takeToken
  · split
    · exact rfl
    · exact leads_moveTo fun d hd => Cursor.walk_forward? hd
  · exact leads_skipSpaces
  · exact leads_takeToken
  · exact leads_takeToken
  · exact leads_takeToken
  · exact leads_takeToken
  · exact leads_takeNumber fun n d h => Cursor.walk_signedDigits? h
  · exact leads_takeNumber fun n d h => Cursor.walk_signedDigits? h
  · split
    · exact leads_takeNumber fun n d h => Cursor.walk_separatedDigits? h
    · exact trivial
  · exact leads_takeMonth3
  · exact leads_takeMonth3_list
  · exact leads_takeMonthTxt
  · exact leads_takeMonthTxt_list
  · exact leads_takeDatePart
  · exact leads_takeDatePart
  · exact leads_takeDatePart
  · exact leads_takeTime
  · exact leads_takeYearOrTime
  · exact leads_takeChars
  · exact leads_takeChars
  · exact leads_elim fun t => leads_takeTo
  · exact leads_elim fun t => leads_takeTo
  · exact leads_elim fun t => leads_takeTo
  · exact leads_takeLink
  · exact leads_takeDevice
  · split
    · exact ⟨.refl, rfl⟩
    · exact rfl
    · exact trivial
  · exact leads_assign
  · exact leads_changeText
  · exact leads_changeText
  · exact leads_changeText
  · split
    · exact rfl
    · exact leads_moveTo fun d hd => Cursor.walk_backward? hd
  · exact leads_elim fun t => leads_changeText
  · exact leads_changeText
  · exact trivial

end Attempt

def namesRead (e : Surroundings) : List Call → Attempt → List MonthName
  | [], _ => []
  | call :: more, a =>
      (monthName? call a).toList ++
        match a.apply e call with
        | .continues b => namesRead e more b
        | _ => []

theorem Outcome.Leads.trans {incomplete : Bool} {c d : Cursor} {languages : Languages} {o : Outcome}
    (h : Walk c d) (ho : o.Leads incomplete d languages) : o.Leads incomplete c languages := by
  cases o with
  | continues b => exact ⟨h.trans ho.1, ho.2⟩
  | skipsRest b => exact ⟨h.trans ho.1, ho.2⟩
  | fails left => exact ho
  | stuck => exact trivial

theorem leads_applyAll (e : Surroundings) (calls : List Call) (a : Attempt) :
    (applyAll e calls a).Leads e.incomplete a.place
      (a.languages.sharing (namesRead e calls a)) := by
  induction calls generalizing a with
  | nil => exact ⟨.refl, by simp [namesRead]⟩
  | cons call more ih =>
      have hcall := a.leads_apply e call
      rw [languagesAfter_eq] at hcall
      simp only [applyAll, namesRead]
      cases ho : a.apply e call with
      | continues b =>
          rw [ho] at hcall
          obtain ⟨hwalk, hl⟩ := hcall
          rw [Languages.sharing_append, ← hl]
          exact (ih b).trans hwalk
      | skipsRest b => simpa [ho] using hcall
      | fails left => simpa [ho] using hcall
      | stuck => exact trivial

theorem applyAll_singleton (e : Surroundings) (call : Call) (a : Attempt) :
    applyAll e [call] a = a.apply e call := by
  simp only [applyAll]
  cases a.apply e call <;> rfl

theorem applyAll_append (e : Surroundings) (calls more : List Call) (a : Attempt) :
    applyAll e (calls ++ more) a = (applyAll e calls a).andThen (applyAll e more) := by
  induction calls generalizing a with
  | nil => rfl
  | cons call calls ih =>
      simp only [List.cons_append, applyAll]
      cases a.apply e call with
      | continues b => exact ih b
      | skipsRest b => rfl
      | fails languages => rfl
      | stuck => rfl

theorem exists_of_applyAll_append {e : Surroundings} {calls more : List Call} {a b : Attempt}
    (h : applyAll e (calls ++ more) a = .continues b) :
    ∃ c, applyAll e calls a = .continues c ∧ applyAll e more c = .continues b := by
  rw [applyAll_append] at h
  exact Outcome.exists_of_andThen h

end Listing

end ListingRules
