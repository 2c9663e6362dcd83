import ListingRules.Proofs.RowTyping

namespace ListingRules

namespace Bytewise

/-- What a rule has written to a cell. A year that was guessed may be one too high, and whatever is
written to the date later does not take that back. -/
structure Filled where
  day : Bool := false
  month : Bool := false
  year : Bool := false
  yearCorrection : Bool := false
  time : Bool := false
  value : Bool := false
  deriving DecidableEq, Repr

namespace Filled

def date (f : Filled) : Bool :=
  f.day && f.month && f.year

/-- A part as the check of the rules names it. The value of a time has a flag of its own. -/
def has (f : Filled) (t : OperandType) : Part → Bool
  | .day => f.day
  | .month => f.month
  | .year => f.year
  | .value => if t = .time then f.time else f.value

end Filled

structure Cell where
  filled : Filled := {}
  text : Text := []
  number : Option Int := none
  day : Nat := 0
  month : Nat := 0
  year : Int := 0
  time : Time := Time.midnight
  deriving DecidableEq, Repr

namespace Cell

def setText (t : Text) (c : Cell) : Cell :=
  { c with text := t, filled.value := true }

def setNumber (n : Option Int) (c : Cell) : Cell :=
  { c with number := n, filled.value := true }

def setDay (n : Nat) (c : Cell) : Cell :=
  { c with day := n, filled.day := true }

def setMonth (n : Nat) (c : Cell) : Cell :=
  { c with month := n, filled.month := true }

def setYear (n : Int) (c : Cell) : Cell :=
  { c with year := n, filled.year := true }

def guessYear (n : Int) (c : Cell) : Cell :=
  { c.setYear n with filled.yearCorrection := true }

def setDate (day month : Nat) (year : Int) (c : Cell) : Cell :=
  ((c.setDay day).setMonth month).setYear year

def setTime (t : Time) (c : Cell) : Cell :=
  { c with time := t, filled.time := true }

end Cell

structure Row where
  cells : List Cell
  isDir : Bool := false
  isHidden : Bool := false
  isLink : Bool := false
  deriving DecidableEq, Repr

namespace Row

def empty (s : ColumnSet) : Row :=
  { cells := s.columns.map fun _ => {} }

def set (r : Row) (i : Nat) (c : Cell) : Row :=
  { r with cells := r.cells.set i c }

-- The column of the name holds texts in every set that definitions make, see
-- nameCell_of_definitions. A set of another making has no name to read.
def nameCell (s : ColumnSet) (r : Row) : Cell :=
  if s.operandType? (.declared s.nameIndex) = some .text then r.cells[s.nameIndex]?.getD {} else {}

def hasName (s : ColumnSet) (r : Row) : Bool :=
  (r.nameCell s).filled.value

def hasEmptyName (s : ColumnSet) (r : Row) : Bool :=
  (r.nameCell s).filled.value && (r.nameCell s).text.isEmpty

def HasPart (s : ColumnSet) (r : Row) (i : Nat) (part : Part) : Prop :=
  ∃ t c, s.operandType? (.declared i) = some t ∧ r.cells[i]? = some c ∧ c.filled.has t part = true

end Row

def ofCell : Listing.Cell → Cell
  | .blank => {}
  | .text t => { text := t, filled := { value := true } }
  | .number n => { number := n, filled := { value := true } }
  | .date d =>
      { day := d.day.getD 0, month := d.month.getD 0, year := d.year.getD 0
        filled :=
          { day := d.day.isSome, month := d.month.isSome, year := d.year.isSome
            yearCorrection := d.yearIsGuess } }
  | .time t => { time := t, filled := { time := true } }

def ofRow (r : Listing.Row) : Row :=
  { cells := r.cells.map ofCell, isDir := r.isDir, isHidden := r.isHidden, isLink := r.isLink }

end Bytewise

namespace Listing.Cell

theorem Fits.cases {t : OperandType} {cell : Cell} (h : cell.Fits (some t)) :
    cell = .blank ∨ cell.type? = some t := by
  cases cell with
  | blank => exact .inl rfl
  | text x => exact .inr (h .text rfl).symm
  | number n => exact .inr (h .number rfl).symm
  | date d => exact .inr (h .date rfl).symm
  | time x => exact .inr (h .time rfl).symm

end Listing.Cell

namespace Bytewise

section Cells

variable {cell : Listing.Cell} {t : OperandType}

theorem setText_ofCell (h : cell.Fits (some .text)) (x : Text) :
    (ofCell cell).setText x = ofCell (.text x) := by
  rcases h.cases with rfl | htype
  · rfl
  · cases cell <;> cases htype
    rfl

theorem setNumber_ofCell (h : cell.Fits (some .number)) (n : Option Int) :
    (ofCell cell).setNumber n = ofCell (.number n) := by
  rcases h.cases with rfl | htype
  · rfl
  · cases cell <;> cases htype
    rfl

theorem setTime_ofCell (h : cell.Fits (some .time)) (x : Time) :
    (ofCell cell).setTime x = ofCell (.time x) := by
  rcases h.cases with rfl | htype
  · rfl
  · cases cell <;> cases htype
    rfl

theorem ofCell_dateParts (h : cell.Fits (some .date)) :
    ofCell (.date cell.dateParts) = ofCell cell := by
  rcases h.cases with rfl | htype
  · rfl
  · cases cell <;> cases htype
    rfl

theorem has_ofCell (h : cell.Fits (some t)) (part : Part) :
    (ofCell cell).filled.has t part = cell.filled.has part := by
  rcases h.cases with rfl | htype
  · cases part <;> simp [ofCell, Filled.has, Listing.Cell.filled, Parts.has]
  · cases cell <;> cases htype <;> cases part <;> rfl

theorem date_filled_ofCell (d : Listing.DateParts) (today : Date) :
    (ofCell (.date d)).filled.date = (d.resolve? today).isSome := by
  obtain ⟨day, month, year, guess⟩ := d
  cases day <;> cases month <;> cases year <;> rfl

end Cells

section Rows

variable {s : ColumnSet} {row : Listing.Row} {i : Nat} {part : Part}

theorem ofRow_empty (s : ColumnSet) : ofRow (Listing.Row.empty s) = Row.empty s := by
  simp [ofRow, Listing.Row.empty, Row.empty, ofCell]

theorem ofRow_set (row : Listing.Row) (i : Nat) (cell : Listing.Cell) :
    ofRow (row.set i cell) = (ofRow row).set i (ofCell cell) := by
  simp [ofRow, Listing.Row.set, Row.set, List.map_set]

theorem getElem?_ofRow (row : Listing.Row) (i : Nat) :
    (ofRow row).cells[i]? = row.cells[i]?.map ofCell :=
  List.getElem?_map

theorem nameCell_ofRow (h : row.Typed s) :
    (ofRow row).nameCell s = ofCell ((row.text? s.nameIndex).elim .blank .text) := by
  simp only [Row.nameCell, getElem?_ofRow, Listing.Row.text?]
  cases hcell : row.cells[s.nameIndex]? with
  | none => split <;> rfl
  | some cell =>
      obtain ⟨hlt, -⟩ := List.getElem?_eq_some_iff.1 hcell
      have hlt : s.nameIndex < s.columns.length := h.length ▸ hlt
      have hcolumn : s.get? s.nameIndex = some s.columns[s.nameIndex] :=
        List.getElem?_eq_getElem hlt
      have hfits := h.fits _ _ _ hcolumn hcell
      have htype : s.operandType? (.declared s.nameIndex) =
          s.columns[s.nameIndex].kind.operandType? := by
        simp [ColumnSet.operandType?, hcolumn]
      rw [htype]
      split
      · rename_i htext
        rw [htext] at hfits
        rcases hfits.cases with rfl | hcelltype
        · rfl
        · cases cell <;> cases hcelltype
          rfl
      · rename_i htext
        cases cell with
        | text x => exact absurd (hfits .text rfl) htext
        | _ => rfl

theorem nameCell_of_definitions {ds : List ColumnDefinition}
    (h : ColumnSet.ofDefinitions ds = .ok s) (r : Row) :
    r.nameCell s = r.cells[s.nameIndex]?.getD {} := by
  obtain ⟨c, hc, hkind⟩ := ColumnSet.get?_nameIndex h
  exact if_pos (by simp [ColumnSet.operandType?, hc, hkind, ColumnKind.operandType?])

theorem hasName_ofRow (h : row.Typed s) :
    (ofRow row).hasName s = (row.text? s.nameIndex).isSome := by
  rw [Row.hasName, nameCell_ofRow h]
  cases row.text? s.nameIndex <;> rfl

theorem hasEmptyName_ofRow (h : row.Typed s) :
    (ofRow row).hasEmptyName s = row.hasEmptyName s := by
  rw [Row.hasEmptyName, nameCell_ofRow h, Listing.Row.hasEmptyName]
  cases row.text? s.nameIndex with
  | none => rfl
  | some t => cases t <;> rfl

theorem text_nameCell_ofRow (h : row.Typed s) :
    ((ofRow row).nameCell s).text = (row.text? s.nameIndex).getD [] := by
  rw [nameCell_ofRow h]
  cases row.text? s.nameIndex <;> rfl

theorem hasPart_ofRow (h : row.Typed s) (hpart : (row.filled i).has part = true) :
    (ofRow row).HasPart s i part := by
  cases hcell : row.cells[i]? with
  | none => simp [Listing.Row.filled, hcell, Listing.Cell.filled, Parts.has_nothing] at hpart
  | some cell =>
      obtain ⟨hlt, -⟩ := List.getElem?_eq_some_iff.1 hcell
      have hlt : i < s.columns.length := h.length ▸ hlt
      have hcolumn : s.get? i = some s.columns[i] := List.getElem?_eq_getElem hlt
      simp only [Listing.Row.filled, hcell, Option.getD_some] at hpart
      have hfits := h.fits _ _ _ hcolumn hcell
      obtain ⟨t, ht⟩ : ∃ t, cell.type? = some t := by
        cases cell with
        | blank => simp [Listing.Cell.filled, Parts.has_nothing] at hpart
        | _ => exact ⟨_, rfl⟩
      have htype : s.operandType? (.declared i) = some t := by
        simpa [ColumnSet.operandType?, hcolumn] using hfits t ht
      refine ⟨t, ofCell cell, htype, by simp [getElem?_ofRow, hcell], ?_⟩
      rw [has_ofCell (fun u hu => ht.symm.trans hu), hpart]

end Rows

end Bytewise

end ListingRules
