import ListingRules.Proofs.DateWrites
import ListingRules.Proofs.KnownText
import ListingRules.Proofs.Occurrences

namespace ListingRules

open Text (isVisible)

namespace Text

def StartsWith (t start : Text) : Prop :=
  ∃ a b, t = a ++ b ∧ sameLetters a start = true

theorem isSome_stripStart?_iff {t start : Text} :
    (stripStart? start t).isSome = true ↔ StartsWith t start := by
  constructor
  · intro h
    obtain ⟨⟨a, b⟩, hs⟩ := Option.isSome_iff_exists.1 h
    obtain ⟨hab, hsame⟩ := append_of_stripStart? hs
    exact ⟨a, b, hab.symm, hsame⟩
  · rintro ⟨a, b, rfl, hsame⟩
    rw [stripStart?_append hsame]
    rfl

instance (t start : Text) : Decidable (StartsWith t start) :=
  decidable_of_iff _ isSome_stripStart?_iff

theorem startsWith_self (t : Text) : StartsWith t t :=
  ⟨t, [], (List.append_nil t).symm, sameLetters_refl t⟩

end Text

namespace MonthName

theorem find?_zipIdx_eq_some_iff {α : Type} {p : α → Bool} {l : List α} {a : α} {n : Nat} :
    l.zipIdx.find? (fun (b, _) => p b) = some (a, n) ↔
      l[n]? = some a ∧ p a = true ∧ ∀ b ∈ l.take n, p b = false := by
  rw [List.find?_eq_some_iff_getElem]
  simp only [List.getElem_zipIdx, Nat.zero_add, Prod.mk.injEq, Bool.not_eq_true']
  constructor
  · rintro ⟨hp, j, hj, ⟨rfl, rfl⟩, hbefore⟩
    refine ⟨by simp at hj; simp [hj], hp, fun b hb => ?_⟩
    obtain ⟨m, hm, rfl⟩ := List.mem_take_iff_getElem.1 hb
    exact hbefore m (by omega)
  · rintro ⟨hn, hp, hbefore⟩
    obtain ⟨hlt, rfl⟩ := List.getElem?_eq_some_iff.1 hn
    refine ⟨hp, n, by simpa using hlt, ⟨rfl, rfl⟩, fun j hj => ?_⟩
    exact hbefore _ (List.mem_take_iff_getElem.2 ⟨j, by omega, rfl⟩)

theorem readLongFrom?_eq_some_iff {names word : Text} {n length : Nat} :
    readLongFrom? names word = some (n + 1, length) ↔
      ∃ name, (splitList (· == ' ') names)[n]? = some name ∧ name.length = length ∧
        Text.StartsWith word name ∧
        ∀ other ∈ (splitList (· == ' ') names).take n, ¬ Text.StartsWith word other := by
  simp only [readLongFrom?, Option.bind_eq_bind, Option.bind_eq_some_iff, Prod.exists,
    Option.pure_def, Option.some.injEq, Prod.mk.injEq, Nat.add_right_cancel_iff,
    ← Text.isSome_stripStart?_iff, Bool.not_eq_true]
  constructor
  · rintro ⟨name, i, hfind, rfl, hlength⟩
    obtain ⟨hi, hstarts, hbefore⟩ :=
      (find?_zipIdx_eq_some_iff (p := fun name => (Text.stripStart? name word).isSome)).1 hfind
    exact ⟨name, hi, hlength, hstarts, hbefore⟩
  · rintro ⟨name, hi, hlength, hstarts, hbefore⟩
    exact ⟨name, n, (find?_zipIdx_eq_some_iff
      (p := fun name => (Text.stripStart? name word).isSome)).2 ⟨hi, hstarts, hbefore⟩,
      rfl, hlength⟩

theorem splitList_of_isLongMonthList {names : Text} (h : isLongMonthList names = true) :
    splitList (· == ' ') names = names.splitOn ' ' ∧ ∀ name ∈ names.splitOn ' ', name ≠ [] := by
  simp only [isLongMonthList, Bool.and_eq_true, beq_iff_eq, List.all_eq_true] at h
  obtain ⟨hlength, hne⟩ := h
  refine ⟨List.take_of_length_le (Nat.le_of_eq hlength), fun name hname => ?_⟩
  simpa using hne name hname

end MonthName

def Call.listedMonth (f : RuleFunction) (i : Nat) (names : Text) : Call :=
  ⟨f, [.operand (.column (.declared i)), .operand (.text names)]⟩

namespace Call

variable {s : ColumnSet} {w v : Written} {i : Nat} {names : Text}

theorem checkMonthList_of_check {call : Call} (h : call.check s w = .ok v) :
    call.checkMonthList = .ok () := by
  simp only [check, bind, Except.bind] at h
  split at h
  · split at h
    · cases h
    · assumption
  · cases h

theorem date_of_check {f : RuleFunction} (hf : f = .month3 ∨ f = .monthTxt)
    (h : (listedMonth f i names).check s w = .ok v) :
    s.operandType? (.declared i) = some .date := by
  obtain ⟨eff, haccepted, -, -⟩ := accepted_of_check h
  cases haccepted with
  | listedMonth _ _ hdate => exact hdate
  | takeTo hother => rcases hf with rfl | rfl <;> simp at hother
  | _ => simp at hf

theorem valid_of_monthList {valid : Text → Bool} {fault : SourceFault}
    (h : monthList valid fault (.operand (.text names)) = .ok ()) : valid names = true := by
  simp only [monthList] at h
  split at h
  · assumption
  · cases h

theorem isLongMonthList_of_check (h : (listedMonth .monthTxt i names).check s w = .ok v) :
    isLongMonthList names = true :=
  valid_of_monthList (checkMonthList_of_check h)

end Call

namespace Listing

variable {e : Surroundings} {f : Found} {i : Nat} {k : ColumnKind} {cell : Cell} {names : Text}

def Found.setMonth (f : Found) (i month : Nat) : Found :=
  f.set i (.date { f.row.dateParts i with month := some month })

theorem Row.Holds.setMonth {s : ColumnSet} (h : f.row.Holds s i k cell) (month : Nat)
    (c : Cursor) :
    (f.at c).setDate s (fun d => { d with month := some month }) (.declared i) =
      .continues ((f.setMonth i month).at c) := by
  rw [h.setDate, Found.setDate, Found.setMonth, Row.dateParts_eq h.cell]

theorem monthPart_of_takes {call : Call} {t rest : Text} {month : Nat}
    (ht : Takes e [call] t rest f (f.setMonth i month)) (htakes : call.Takes .date (.declared i))
    (hi : e.columns.operandType? (.declared i) = some .date)
    (hcell : f.row.Holds e.columns i k cell) :
    ∃ w, dateWrite? e ⟨call, f.at ⟨[], t ++ rest⟩⟩ = some w ∧
      (w.onParts (f.row.dateParts i)).month = some month := by
  have happly := ht []
  rw [applyAll_singleton] at happly
  obtain ⟨w, hw, hparts⟩ := Attempt.exists_dateWrite htakes hi happly
  refine ⟨w, hw, ?_⟩
  obtain ⟨hlt, -⟩ := List.getElem?_eq_some_iff.1 hcell.cell
  have hset : (f.setMonth i month).row.cells[i]? =
      some (.date { f.row.dateParts i with month := some month }) := by
    simp [Found.setMonth, Found.set, Row.set, hlt]
  have hmonth := congrArg DateParts.month (hparts.symm.trans (Row.dateParts_eq hset))
  exact hmonth

theorem takes_monthTxt_listed {name rest : Text} {month : Nat}
    (hcell : f.row.Holds e.columns i k cell) (hname : Text.IsWord name)
    (hread : MonthName.readLongFrom? names name = some (month, name.length))
    (hrest : Stops isVisible rest) :
    Takes e [.listedMonth .monthTxt i names] name rest f (f.setMonth i month) := by
  refine takes_of_apply fun behind => ?_
  have hletter : (⟨name.reverse ++ behind, rest⟩ : Cursor).nextIsAlphabetic = false :=
    Cursor.nextIsAlphabetic_of_stops hrest
  have hempty : name.isEmpty = false := List.isEmpty_eq_false_iff.2 hname.1
  simp only [Call.listedMonth, Attempt.apply, Attempt.takeMonthTxt, Found.at,
    takeWhile_append_of_stops hname.2 hrest, hempty, hread, Option.map_some, Bool.false_eq_true,
    ↓reduceIte, Cursor.advance_append, hletter]
  exact hcell.setMonth month _

/-- Where a name of an accepted list stands, it is taken and its month stored exactly if no name
that comes earlier in the list is a start of it. -/
theorem takes_monthTxt_iff {source : Text} {columns : ColumnSet} {rules : RuleSet} {rule : Rule}
    (hcompile : RuleSet.compile source columns = .ok rules) (he : e.columns = rules.columns)
    (hr : rule ∈ rules.rules) (hc : .listedMonth .monthTxt i names ∈ rule.calls)
    (hrow : f.row.Typed e.columns) {n : Nat} {name rest : Text}
    (hname : (names.splitOn ' ')[n]? = some name) (hvisible : ∀ x ∈ name, isVisible x = true)
    (hrest : Stops isVisible rest) :
    Takes e [.listedMonth .monthTxt i names] name rest f (f.setMonth i (n + 1)) ↔
      ∀ other ∈ (names.splitOn ' ').take n, ¬ Text.StartsWith name other := by
  obtain ⟨u, hchecked⟩ := Rule.isChecked_of_compile hcompile he hr
  obtain ⟨w, v, hcheck⟩ := hchecked.exists_check_of_mem hc
  have hi := Call.date_of_check (.inr rfl) hcheck
  obtain ⟨hsplit, hnonempty⟩ :=
    MonthName.splitList_of_isLongMonthList (Call.isLongMonthList_of_check hcheck)
  obtain ⟨k, cell, hcell⟩ := hrow.holds hi
  constructor
  · intro ht
    obtain ⟨write, hwrite, hmonth⟩ :=
      monthPart_of_takes ht (.listedMonth names (.inr rfl)) hi hcell
    simp only [dateWrite?, Call.listedMonth, Found.at, takeWhile_append_of_stops hvisible hrest]
      at hwrite
    obtain ⟨⟨month, length⟩, hread, rfl⟩ := Option.map_eq_some_iff.1 hwrite
    obtain rfl : month = n + 1 := Option.some.inj hmonth
    obtain ⟨_, -, -, -, hbefore⟩ := MonthName.readLongFrom?_eq_some_iff.1 hread
    rwa [hsplit] at hbefore
  · intro hbefore
    refine takes_monthTxt_listed hcell ⟨hnonempty name (List.mem_of_getElem? hname), hvisible⟩
      (MonthName.readLongFrom?_eq_some_iff.2 ?_) hrest
    rw [hsplit]
    exact ⟨name, hname, rfl, Text.startsWith_self name, hbefore⟩

namespace NamedMonths

def columns : ColumnSet :=
  ⟨[⟨"name".toList, .name, .empty⟩, ⟨['d'], .generalDate, .empty⟩], 0⟩

def source (function names : Text) : Text :=
  "* ".toList ++ function ++ "(<d>, \"".toList ++ names ++
    "\"), white_spaces(), day(<d>), white_spaces(), year(<d>), white_spaces(), word(<name>);".toList

def rule (f : RuleFunction) (names : Text) : Rule :=
  ⟨[.listedMonth f 1 names, callOn .whiteSpaces [], callOn .day [1], callOn .whiteSpaces [],
    callOn .year [1], callOn .whiteSpaces [], callOn .word [0]]⟩

def rules (f : RuleFunction) (names : Text) : RuleSet :=
  ⟨[rule f names], columns⟩

theorem isDay_today : IsDay 2024 4 10 := by decide

def context : Context :=
  { today := ⟨2024, 4, 10, isDay_today⟩ }

def surroundings (listing : Text) : Surroundings :=
  Reading.surroundings columns context listing

def start : Found :=
  ⟨Row.empty columns, Languages.all⟩

def numerals : Text :=
  "I II III IV V VI VII VIII IX X XI XII".toList

set_option maxRecDepth 4000 in
theorem compile_numerals : RuleSet.compile (source "month_txt".toList numerals) columns =
    .ok (rules .monthTxt numerals) := by rfl

/-- The names differ, but the second is taken for the first. -/
theorem parse_numerals :
    RuleSet.compile (source "month_txt".toList numerals) columns = .ok (rules .monthTxt numerals) ∧
      (numerals.splitOn ' ').Pairwise (fun a b => Text.sameLetters a b = false) ∧
      (numerals.splitOn ' ')[1]? = some "II".toList ∧
      parse (rules .monthTxt numerals) "II 3 2020 x\n".toList context = .error ⟨0, 1⟩ :=
  ⟨compile_numerals, by decide, by rfl, by rfl⟩

theorem takes_numerals :
    let e := surroundings "V 3 2020 x\n".toList
    let month := .listedMonth .monthTxt 1 numerals
    Takes e [month] "V".toList " 3 2020 x\n".toList start (start.setMonth 1 5) ∧
      ¬ Takes e [month] "VI".toList " 3 2020 x\n".toList start (start.setMonth 1 6) := by
  intro e month
  have hrest : Stops isVisible " 3 2020 x\n".toList := stops_cons (by decide)
  have hrule : rule .monthTxt numerals ∈ (rules .monthTxt numerals).rules :=
    List.mem_singleton_self _
  have hmonth : month ∈ (rule .monthTxt numerals).calls := List.mem_cons_self
  have hfifth : (numerals.splitOn ' ')[4]? = some "V".toList := by rfl
  have hsixth : (numerals.splitOn ' ')[5]? = some "VI".toList := by rfl
  have hfive : Text.IsWord "V".toList := by decide
  have hsix : Text.IsWord "VI".toList := by decide
  have htaken := takes_monthTxt_iff (e := e) (f := start) compile_numerals rfl hrule hmonth
    Row.typed_empty hfifth hfive.2 hrest
  have hlost := takes_monthTxt_iff (e := e) (f := start) compile_numerals rfl hrule hmonth
    Row.typed_empty hsixth hsix.2 hrest
  exact ⟨htaken.2 (by decide), fun h => hlost.1 h "V".toList (by decide) (by decide)⟩

end NamedMonths

end Listing

end ListingRules
