import ListingRules.Proofs.KnownText

namespace ListingRules

open Character (isAlphabetic)
open Cursor (isSign)

structure Grouping where
  lead : Text
  sign : Option Char
  run : Text
  rest : Text
  deriving DecidableEq, Repr

namespace Grouping

def isPart (separators : Text) (x : Char) : Bool :=
  x.isDigit || List.contains separators x

def taken (g : Grouping) : Text :=
  g.lead ++ (g.sign.toList ++ g.run)

def hasDigit (g : Grouping) : Bool :=
  g.run.any Char.isDigit

def count (g : Grouping) : Nat :=
  Decimal.value (g.run.filter Char.isDigit)

def number (g : Grouping) : Int :=
  if g.sign = some '-' then -(g.count : Int) else g.count

structure Splits (g : Grouping) (separators ahead : Text) : Prop where
  text : g.taken ++ g.rest = ahead
  lead : ∀ x ∈ g.lead, List.contains separators x = true
  sign : ∀ x ∈ g.sign, isSign x = true
  run : ∀ x ∈ g.run, isPart separators x = true
  pastLead : Stops (List.contains separators) (g.sign.toList ++ (g.run ++ g.rest))
  unsigned : g.sign = none → Stops isSign (g.run ++ g.rest)
  pastRun : Stops (isPart separators) g.rest

def IsNumber (g : Grouping) : Prop :=
  (g.hasDigit = true ∧ g.count ≤ Decimal.maxNumber) ∧ Stops isAlphabetic g.rest

instance (g : Grouping) : Decidable g.IsNumber :=
  inferInstanceAs (Decidable (_ ∧ _))

def IsBare (g : Grouping) : Prop :=
  g.taken ≠ [] ∧ g.hasDigit = false ∧ Stops isAlphabetic g.rest

theorem count_of_not_hasDigit {g : Grouping} (h : g.hasDigit = false) : g.count = 0 := by
  have hnone : g.run.filter Char.isDigit = [] := by
    simpa [hasDigit, List.filter_eq_nil_iff] using h
  rw [count, hnone]
  rfl

theorem accepted_iff {g : Grouping} :
    ((g.taken ≠ [] ∧ g.count ≤ Decimal.maxNumber) ∧ Stops isAlphabetic g.rest ↔ g.IsNumber) ↔
      ¬ g.IsBare := by
  cases hdigit : g.hasDigit with
  | false =>
      have hfits : g.count ≤ Decimal.maxNumber := count_of_not_hasDigit hdigit ▸ Nat.zero_le _
      simp [IsNumber, IsBare, hdigit, hfits]
  | true =>
      have htaken : g.taken ≠ [] := by
        intro hnil
        simp only [taken, List.append_eq_nil_iff] at hnil
        simp [hasDigit, hnil.2.2] at hdigit
      simp [IsNumber, IsBare, hdigit, htaken]

def ofText (separators ahead : Text) : Grouping :=
  let signed := ahead.dropWhile (List.contains separators)
  let sign := signed.head?.filter isSign
  let unsigned := signed.drop sign.toList.length
  { lead := ahead.takeWhile (List.contains separators)
    sign
    run := unsigned.takeWhile (isPart separators)
    rest := unsigned.dropWhile (isPart separators) }

section Unique

variable {g : Grouping} {separators ahead : Text}

theorem toList_filter_head?_append (p : Char → Bool) (t : Text) :
    (t.head?.filter p).toList ++ t.drop (t.head?.filter p).toList.length = t := by
  cases t with
  | nil => rfl
  | cons x t => cases hx : p x <;> simp [hx, Option.filter]

theorem splits_ofText (separators ahead : Text) :
    (ofText separators ahead).Splits separators ahead where
  text := by
    simp only [taken, ofText, List.append_assoc, List.takeWhile_append_dropWhile,
      toList_filter_head?_append]
  lead := fun x hx => List.all_eq_true.1 List.all_takeWhile x hx
  sign := fun x hx => (Option.mem_filter_iff.1 hx).2
  run := fun x hx => List.all_eq_true.1 List.all_takeWhile x hx
  pastLead := by
    simp only [ofText, List.takeWhile_append_dropWhile, toList_filter_head?_append]
    exact stops_dropWhile _ _
  unsigned := by
    intro hnone x hx
    simp only [ofText] at hnone
    simp only [ofText, hnone, List.takeWhile_append_dropWhile, Option.toList_none, List.length_nil,
      List.drop_zero] at hx
    rw [Option.mem_def.1 hx] at hnone
    simpa [Option.filter] using hnone
  pastRun := stops_dropWhile _ _

theorem Splits.eq_ofText (h : g.Splits separators ahead) : g = ofText separators ahead := by
  obtain ⟨lead, sign, run, rest⟩ := g
  obtain ⟨rfl, hlead, hsign, hrun, hpastLead, hunsigned, hpastRun⟩ := h
  simp only at hlead hsign hrun hpastLead hunsigned hpastRun
  have hhead : (sign.toList ++ (run ++ rest)).head?.filter isSign = sign := by
    cases sign with
    | none =>
        cases ht : (run ++ rest).head? with
        | none => simp [ht]
        | some x => simp [ht, Option.filter, hunsigned rfl x ht]
    | some x => simp [Option.filter, hsign x rfl]
  simp only [ofText, taken, List.append_assoc, takeWhile_append_of_stops hlead hpastLead,
    dropWhile_append_of_stops hlead hpastLead, hhead, List.drop_left',
    takeWhile_append_of_stops hrun hpastRun, dropWhile_append_of_stops hrun hpastRun]

theorem splits_iff : g.Splits separators ahead ↔ g = ofText separators ahead :=
  ⟨Splits.eq_ofText, fun h => h ▸ splits_ofText separators ahead⟩

theorem Splits.any_head? (h : g.Splits separators ahead) :
    ahead.head?.any (fun x => isSign x || isPart separators x) = decide (g.taken ≠ []) := by
  have hpart {x : Char} (hx : x ∈ g.taken) : (isSign x || isPart separators x) = true := by
    simp only [taken, List.mem_append, Option.mem_toList] at hx
    rcases hx with hx | hx | hx
    · rw [isPart, h.lead x hx, Bool.or_true, Bool.or_true]
    · simp [h.sign x hx]
    · simp [h.run x hx]
  rw [← h.text]
  cases htaken : g.taken with
  | nil =>
      simp only [taken, List.append_eq_nil_iff, Option.toList_eq_nil_iff] at htaken
      obtain ⟨-, hsign, hrun⟩ := htaken
      have hunsigned := h.unsigned hsign
      rw [hrun, List.nil_append] at hunsigned
      have hstops : Stops (fun x => isSign x || isPart separators x) g.rest :=
        fun x hx => by simp [hunsigned x hx, h.pastRun x hx]
      simpa using stops_iff.1 hstops
  | cons x t => simpa using hpart (htaken ▸ List.mem_cons_self)

theorem Splits.run_ne_nil_iff (h : g.Splits [] ahead) : g.run ≠ [] ↔ g.hasDigit = true := by
  have hdigit : ∀ x ∈ g.run, x.isDigit = true := fun x hx => by simpa [isPart] using h.run x hx
  rw [hasDigit, List.any_eq_true]
  constructor
  · intro hne
    obtain ⟨x, hx⟩ := List.exists_mem_of_ne_nil g.run hne
    exact ⟨x, hx, hdigit x hx⟩
  · rintro ⟨x, hx, -⟩
    exact List.ne_nil_of_mem hx

end Unique

end Grouping

namespace Cursor

open Grouping (isPart)

variable {g : Grouping} {separators : Text}

def past (c : Cursor) (g : Grouping) : Cursor :=
  ⟨g.taken.reverse ++ c.behind, g.rest⟩

theorem skipWhile_of_splits {c : Cursor}
    (hs : ∀ x ∈ separators, isSign x = false ∧ x.isDigit = false)
    (h : g.Splits separators c.ahead) :
    c.skipWhile (fun x => !isSign x && !x.isDigit && List.contains separators x) =
      ⟨g.lead.reverse ++ c.behind, g.sign.toList ++ (g.run ++ g.rest)⟩ := by
  obtain ⟨behind, ahead⟩ := c
  have hahead : ahead = g.lead ++ (g.sign.toList ++ (g.run ++ g.rest)) :=
    h.text.symm.trans (by simp [Grouping.taken])
  have hlead : ∀ x ∈ g.lead, (!isSign x && !x.isDigit && List.contains separators x) = true := by
    intro x hx
    have hmem := h.lead x hx
    obtain ⟨hsign, hdigit⟩ := hs x (by simpa using hmem)
    rw [hsign, hdigit, hmem]
    rfl
  rw [hahead]
  exact skipWhile_append behind hlead (h.pastLead.mono fun x hx => (Bool.and_eq_true_iff.1 hx).2)

theorem separatedDigits?_of_splits {c : Cursor}
    (hs : ∀ x ∈ separators, isSign x = false ∧ x.isDigit = false)
    (h : g.Splits separators c.ahead) :
    c.separatedDigits? separators =
      if g.taken ≠ [] ∧ g.count ≤ Decimal.maxNumber then some (g.number, c.past g) else none := by
  have hstart := h.any_head?
  have hskip := skipWhile_of_splits hs h
  have hsign := sign_append g.sign h.sign h.unsigned (g.lead.reverse ++ c.behind)
  have hrun : (g.run ++ g.rest).takeWhile (isPart separators) = g.run :=
    takeWhile_append_of_stops h.run h.pastRun
  have hpast : (⟨g.sign.toList.reverse ++ (g.lead.reverse ++ c.behind), g.run ++ g.rest⟩ :
      Cursor).skipWhile (isPart separators) = c.past g := by
    rw [skipWhile_append _ h.run h.pastRun]
    simp [past, Grouping.taken]
  have hcount : Decimal.value (g.run.filter Char.isDigit) = g.count := rfl
  have hnumber : (if decide (g.sign = some '-') = true then -(g.count : Int) else g.count) =
      g.number := by simp [Grouping.number]
  unfold isSign isPart at hstart
  unfold isSign at hskip
  unfold isPart at hrun hpast
  simp only [separatedDigits?]
  rw [hstart, hskip, hsign]
  simp only
  rw [hrun, hpast, hcount, hnumber]
  by_cases htaken : g.taken = []
  · simp [guard, htaken]
  · by_cases hfits : g.count ≤ Decimal.maxNumber <;> simp [guard, htaken, hfits]

theorem signedDigits?_of_splits {c : Cursor} (h : g.Splits [] c.ahead) :
    c.signedDigits? =
      if g.run ≠ [] ∧ g.count ≤ Decimal.maxNumber then some (g.number, c.past g) else none := by
  have hlead : g.lead = [] :=
    List.eq_nil_iff_forall_not_mem.2 fun x hx => by simpa using h.lead x hx
  have hdigit : ∀ x ∈ g.run, x.isDigit = true := fun x hx => by simpa [isPart] using h.run x hx
  have hstops : Stops Char.isDigit g.rest := h.pastRun.mono fun x hx => by simp [isPart, hx]
  have hahead : c.ahead = g.sign.toList ++ (g.run ++ g.rest) :=
    h.text.symm.trans (by simp [Grouping.taken, hlead])
  have hfilter : g.run.filter Char.isDigit = g.run := List.filter_eq_self.2 hdigit
  have hread : Decimal.read? g.run =
      if g.run ≠ [] ∧ g.count ≤ Decimal.maxNumber then some g.count else none := by
    have hall : g.run.all Char.isDigit = true := List.all_eq_true.2 hdigit
    by_cases hrun : g.run = []
    · simp [Decimal.read?, hrun]
    · simp [Decimal.read?, Grouping.count, hfilter, hrun, hall]
  obtain ⟨behind, ahead⟩ := c
  simp only at hahead
  subst hahead
  simp only [signedDigits?, sign_append g.sign h.sign h.unsigned, digits?,
    takeWhile_append_of_stops hdigit hstops, skipWhile_append _ hdigit hstops, hread]
  by_cases haccepted : g.run ≠ [] ∧ g.count ≤ Decimal.maxNumber
  · simp [haccepted, Grouping.number, past, Grouping.taken, hlead]
  · simp [haccepted]

end Cursor

namespace Listing

variable {e : Surroundings} {a : Attempt} {i : Nat} {cell : Cell} {g : Grouping}
  {separators : Text} {o : Operand}

def Attempt.stores (a : Attempt) (i : Nat) (g : Grouping) (accepted : Prop) [Decidable accepted] :
    Outcome :=
  if accepted then
    .continues { a with place := a.place.past g, row := a.row.set i (.number (some g.number)) }
  else .fails a.languages

theorem stores_eq_iff {p q : Prop} [Decidable p] [Decidable q] :
    a.stores i g p = a.stores i g q ↔ (p ↔ q) := by
  by_cases hp : p <;> by_cases hq : q <;> simp [Attempt.stores, hp, hq]

theorem takeNumber_eq {p : Prop} [Decidable p]
    (hcell : a.row.Holds e.columns i .number cell) :
    a.takeNumber e.columns false (if p then some (g.number, a.place.past g) else none)
        (.declared i) =
      a.stores i g (p ∧ Stops isAlphabetic g.rest) := by
  obtain ⟨column, hcolumn, hkind⟩ := Option.map_eq_some_iff.1 hcell.kind
  by_cases hp : p
  · by_cases hstops : Stops isAlphabetic g.rest
    · have hletter : (a.place.past g).nextIsAlphabetic = false :=
        Cursor.nextIsAlphabetic_eq_false_iff.2 hstops
      simp [Attempt.takeNumber, Attempt.stores, hp, hstops, hletter, Attempt.setNumber,
        Attempt.modify, hcolumn, hcell.cell, hkind, keptNumber?]
    · have hletter : (a.place.past g).nextIsAlphabetic = true :=
        eq_true_of_ne_false fun h => hstops (Cursor.nextIsAlphabetic_eq_false_iff.1 h)
      simp [Attempt.takeNumber, Attempt.stores, hp, hstops, hletter]
  · simp [Attempt.takeNumber, Attempt.stores, hp]

theorem apply_numberWithSeparators (hcell : a.row.Holds e.columns i .number cell)
    (ho : textOf? a o = some separators)
    (hs : ∀ x ∈ separators, isSign x = false ∧ x.isDigit = false)
    (h : g.Splits separators a.place.ahead) :
    a.apply e ⟨.numberWithSeparators, [.operand (.column (.declared i)), .operand o]⟩ =
      a.stores i g ((g.taken ≠ [] ∧ g.count ≤ Decimal.maxNumber) ∧ Stops isAlphabetic g.rest) := by
  simp only [Attempt.apply, ho, Cursor.separatedDigits?_of_splits hs h]
  exact takeNumber_eq hcell

theorem apply_number (hcell : a.row.Holds e.columns i .number cell)
    (h : g.Splits [] a.place.ahead) :
    a.apply e (callOn .number [i]) =
      a.stores i g ((g.run ≠ [] ∧ g.count ≤ Decimal.maxNumber) ∧ Stops isAlphabetic g.rest) := by
  simp only [callOn, List.map, Attempt.apply, Cursor.signedDigits?_of_splits h]
  exact takeNumber_eq hcell

/-- Where something is taken, the digits in it are not too many and no letter follows, a number is
read, be it without digits. So it is one exactly if the text ahead is not bare, and without
separators it is read as a plain number is in the same case. -/
theorem numberWithSeparators_iff (hrow : a.row.Typed e.columns)
    (hkind : (e.columns.get? i).map (·.kind) = some .number)
    (ho : textOf? a o = some separators)
    (hs : ∀ x ∈ separators, isSign x = false ∧ x.isDigit = false) :
    let separated :=
      a.apply e ⟨.numberWithSeparators, [.operand (.column (.declared i)), .operand o]⟩
    ∃ g : Grouping, (∀ other : Grouping, other.Splits separators a.place.ahead ↔ other = g) ∧
      separated = a.stores i g
        ((g.taken ≠ [] ∧ g.count ≤ Decimal.maxNumber) ∧ Stops isAlphabetic g.rest) ∧
      (separated = a.stores i g g.IsNumber ↔ ¬ g.IsBare) ∧
      (separators = [] → (separated = a.apply e (callOn .number [i]) ↔ ¬ g.IsBare)) := by
  intro separated
  obtain ⟨column, hcolumn, -⟩ := Option.map_eq_some_iff.1 hkind
  obtain ⟨cell, hcell, -⟩ := hrow.exists_cell hcolumn
  have hcell : a.row.Holds e.columns i .number cell := ⟨hkind, hcell⟩
  have hsplits := Grouping.splits_ofText separators a.place.ahead
  have hseparated : separated = _ := apply_numberWithSeparators hcell ho hs hsplits
  refine ⟨.ofText separators a.place.ahead, fun other => Grouping.splits_iff, hseparated, ?_, ?_⟩
  · rw [hseparated, stores_eq_iff]
    exact Grouping.accepted_iff
  · rintro rfl
    rw [hseparated, apply_number hcell hsplits, stores_eq_iff, hsplits.run_ne_nil_iff]
    exact Grouping.accepted_iff

namespace Separated

def columns : ColumnSet :=
  ⟨[⟨"name".toList, .name, .empty⟩, ⟨['n'], .number, .empty⟩], 0⟩

def source : Text :=
  "* number_with_separators(<n>, \",\"), white_spaces(), word(<name>);\n".toList

def call (separators : Text) : Call :=
  ⟨.numberWithSeparators, [.operand (.column (.declared 1)), .operand (.text separators)]⟩

def rules : RuleSet :=
  ⟨[⟨[call [','], callOn .whiteSpaces [], callOn .word [0]]⟩], columns⟩

theorem isDay_today : IsDay 2024 4 10 := by decide

def context : Context :=
  { today := ⟨2024, 4, 10, isDay_today⟩ }

def record : FileRecord :=
  { name := ['x'], isDir := false, isHidden := false, isLink := false, size := 0
    modified := none, extension := none, values := [.text ['x'], .number 0] }

/-- A separator alone is read as zero. -/
theorem parse_separator :
    RuleSet.compile source columns = .ok rules ∧
      (Grouping.ofText [','] ", x\n".toList).hasDigit = false ∧
      parse rules ", x\n".toList context = .ok [record] :=
  ⟨by rfl, by rfl, by rfl⟩

def surroundings (listing : Text) : Surroundings :=
  Reading.surroundings columns context listing

def attempt (listing : Text) : Attempt :=
  ⟨Cursor.ofText listing, Row.empty columns, Languages.all⟩

theorem numberWithSeparators_minus :
    let thousands := "-1,234 x\n".toList
    let minus := "- x\n".toList
    (attempt thousands).apply (surroundings thousands) (call [',']) =
        .continues ⟨⟨"432,1-".toList, " x\n".toList⟩,
          { cells := [.blank, .number (some (-1234))] }, Languages.all⟩ ∧
      (attempt minus).apply (surroundings minus) (call []) ≠
        (attempt minus).apply (surroundings minus) (callOn .number [1]) := by
  intro thousands minus
  have hcomma : ∀ x ∈ [','], isSign x = false ∧ x.isDigit = false := by
    intro x hx
    obtain rfl := List.mem_singleton.1 hx
    exact ⟨rfl, rfl⟩
  obtain ⟨g, hg, hread, -, -⟩ := numberWithSeparators_iff (e := surroundings thousands)
    (a := attempt thousands) (i := 1) (o := .text [',']) Row.typed_empty rfl rfl hcomma
  obtain ⟨k, hk, -, -, hplain⟩ := numberWithSeparators_iff (e := surroundings minus)
    (a := attempt minus) (i := 1) (o := .text []) Row.typed_empty rfl rfl (by simp)
  obtain rfl := (hg _).1 (Grouping.splits_ofText _ _)
  obtain rfl := (hk _).1 (Grouping.splits_ofText _ _)
  refine ⟨hread.trans (by rfl), fun hsame => (hplain rfl).1 hsame ⟨by decide, by rfl, ?_⟩⟩
  exact stops_iff.2 (by rfl)

end Separated

end Listing

end ListingRules
