import ListingRules.Proofs.Bytewise.Device
import ListingRules.Proofs.KnownText
import ListingRules.Proofs.RecordValues

namespace ListingRules

open Character (isAlphabetic)
open Text (byteCount isBlank isLineEnd isVisible)

namespace Text

def IsDigits (t : Text) : Prop :=
  t ≠ [] ∧ ∀ x ∈ t, x.isDigit = true

instance (t : Text) : Decidable (IsDigits t) :=
  decidable_of_iff (t ≠ [] ∧ t.all Char.isDigit = true) (by simp [IsDigits])

theorem IsDigits.any_head? {t : Text} (h : IsDigits t) (rest : Text) :
    (t ++ rest).head?.any Char.isDigit = true := by
  obtain ⟨hne, hdigits⟩ := h
  cases t with
  | nil => exact absurd rfl hne
  | cons x t => exact hdigits x List.mem_cons_self

theorem IsDigits.stops_isBlank {t : Text} (h : IsDigits t) (rest : Text) :
    Stops isBlank (t ++ rest) :=
  IsWord.stops_isBlank ⟨h.1, fun x hx => isVisible_of_isDigit (h.2 x hx)⟩ rest

theorem isDigits_takeWhile {t : Text} (h : t.head?.any Char.isDigit = true) :
    IsDigits (t.takeWhile Char.isDigit) := by
  refine ⟨?_, fun x hx => List.all_eq_true.1 List.all_takeWhile x hx⟩
  cases t with
  | nil => cases h
  | cons x t =>
      have hx : x.isDigit = true := h
      simp [hx]

theorem isDigit_eq_false_of_isBlank {x : Char} (h : isBlank x = true) : x.isDigit = false := by
  cases hx : x.isDigit with
  | false => rfl
  | true => simp [isBlank_eq_false_of_isVisible (isVisible_of_isDigit hx)] at h

end Text

namespace Cursor

theorem Spans.eq_advance {c d : Cursor} {t : Text} (h : Spans c d t) : d = c.advance t.length := by
  obtain ⟨behind, ahead⟩ := c
  obtain ⟨dbehind, dahead⟩ := d
  obtain rfl : ahead = t ++ dahead := h.1
  obtain rfl : dbehind = t.reverse ++ behind := h.2
  exact advance_append.symm

end Cursor

structure DeviceNumbers where
  major : Text
  gap : Text
  space : Text
  minor : Text
  rest : Text
  deriving DecidableEq, Repr

namespace DeviceNumbers

def shown (p : DeviceNumbers) : Text :=
  p.major ++ (p.gap ++ ',' :: (p.space ++ p.minor))

/-- The minor number has all the digits that are there, and no letter follows them. -/
structure Cuts (p : DeviceNumbers) (line : Text) : Prop where
  text : p.shown ++ p.rest = line
  major : p.major.IsDigits
  gap : ∀ x ∈ p.gap, isBlank x = true
  space : ∀ x ∈ p.space, isBlank x = true
  minor : p.minor.IsDigits
  longest : Stops Char.isDigit p.rest
  unlettered : Stops isAlphabetic p.rest

section Reader

variable {p : DeviceNumbers} {c d : Cursor}

theorem Cuts.device? (h : p.Cuts c.ahead) : c.device? = some (c.advance p.shown.length) := by
  obtain ⟨behind, ahead⟩ := c
  obtain rfl : p.shown ++ p.rest = ahead := h.text
  have hgap : Stops Char.isDigit (p.gap ++ ',' :: (p.space ++ (p.minor ++ p.rest))) :=
    Stops.append (fun x hx => Text.isDigit_eq_false_of_isBlank (h.gap x (List.mem_of_mem_head? hx)))
      (stops_cons (by decide))
  have hcomma : Stops isBlank (',' :: (p.space ++ (p.minor ++ p.rest))) := stops_cons (by decide)
  have hspace := h.minor.stops_isBlank p.rest
  have hletter (b : Text) : (⟨b, p.rest⟩ : Cursor).nextIsAlphabetic = false :=
    Cursor.nextIsAlphabetic_eq_false_iff.2 h.unlettered
  rw [Cursor.advance_append]
  simp only [shown, List.append_assoc, List.cons_append, Cursor.device?, guard,
    h.major.any_head?, ↓reduceIte, Cursor.skipWhile_append behind h.major.2 hgap,
    Cursor.skipWhile_append _ h.gap hcomma, Cursor.expect?, List.head?_cons, Cursor.next_cons,
    Option.pure_def, Option.bind_eq_bind, Option.bind_some,
    Cursor.skipWhile_append _ h.space hspace, h.minor.any_head?,
    Cursor.skipWhile_append _ h.minor.2 h.longest, hletter, Bool.not_false]
  simp

theorem exists_cuts_of_device? (h : c.device? = some d) :
    ∃ p : DeviceNumbers, p.Cuts c.ahead ∧ d = c.advance p.shown.length := by
  simp only [Cursor.device?, Option.bind_eq_bind, Option.bind_eq_some_iff, Option.guard_eq_some',
    Option.pure_def, Option.some.injEq, exists_const, Bool.not_eq_true'] at h
  obtain ⟨hmajor, c₁, hcomma, hminor, hletter, rfl⟩ := h
  let c₀ := c.skipWhile Char.isDigit
  let c₂ := c₁.skipWhile isBlank
  let d := c₂.skipWhile Char.isDigit
  let p : DeviceNumbers := ⟨c.ahead.takeWhile Char.isDigit, c₀.ahead.takeWhile isBlank,
    c₁.ahead.takeWhile isBlank, c₂.ahead.takeWhile Char.isDigit, d.ahead⟩
  have hblank (t : Text) : ∀ x ∈ t.takeWhile isBlank, isBlank x = true :=
    fun x hx => List.all_eq_true.1 List.all_takeWhile x hx
  have hspans : Cursor.Spans c d p.shown :=
    (Cursor.spans_skipWhile _ c).trans ((Cursor.spans_skipWhile _ c₀).trans
      ((Cursor.spans_expect? hcomma).trans ((Cursor.spans_skipWhile _ c₁).trans
        (Cursor.spans_skipWhile _ c₂))))
  exact ⟨p, {
    text := hspans.1.symm
    major := Text.isDigits_takeWhile hmajor
    gap := hblank _
    space := hblank _
    minor := Text.isDigits_takeWhile hminor
    longest := stops_dropWhile _ _
    unlettered := Cursor.nextIsAlphabetic_eq_false_iff.1 hletter }, hspans.eq_advance⟩

theorem Cuts.isLineEnd_eq_false {line : Text} (h : p.Cuts line) :
    ∀ x ∈ p.shown, isLineEnd x = false := by
  have hdigit {t : Text} (ht : t.IsDigits) : ∀ x ∈ t, isLineEnd x = false := fun x hx =>
    Text.isLineEnd_eq_false_of_isVisible (Text.isVisible_of_isDigit (ht.2 x hx))
  have hblank {t : Text} (ht : ∀ x ∈ t, isBlank x = true) : ∀ x ∈ t, isLineEnd x = false :=
    fun x hx => by simpa [isBlank] using (Bool.and_eq_true_iff.1 (ht x hx)).2
  have hcomma : isLineEnd ',' = false := by decide
  simpa only [shown, List.forall_mem_append, List.forall_mem_cons] using
    ⟨hdigit h.major, hblank h.gap, hcomma, hblank h.space, hdigit h.minor⟩

theorem Cuts.onLine (h : p.Cuts c.ahead) :
    Cuts { p with rest := p.rest.takeWhile (! isLineEnd ·) } c.restOfLine := by
  have hline := h.isLineEnd_eq_false
  exact {
    text := by
      rw [Cursor.restOfLine, ← h.text, List.takeWhile_append_of_pos (by simpa using hline)]
      rfl
    major := h.major
    gap := h.gap
    space := h.space
    minor := h.minor
    longest := h.longest.takeWhile _
    unlettered := h.unlettered.takeWhile _ }

theorem Cuts.ofLine (h : p.Cuts c.restOfLine) :
    Cuts { p with rest := p.rest ++ c.ahead.dropWhile (! isLineEnd ·) } c.ahead := by
  have hend := stops_dropWhile (! isLineEnd ·) c.ahead
  have hvisible {x : Char} (hx : isVisible x = true) : (! isLineEnd x) = true := by
    simp [Text.isLineEnd_eq_false_of_isVisible hx]
  exact {
    text := by
      have htext : p.shown ++ (p.rest ++ c.ahead.dropWhile (! isLineEnd ·)) = c.ahead := by
        rw [← List.append_assoc, h.text]
        exact List.takeWhile_append_dropWhile
      exact htext
    major := h.major
    gap := h.gap
    space := h.space
    minor := h.minor
    longest := h.longest.append (hend.mono fun _ hx => hvisible (Text.isVisible_of_isDigit hx))
    unlettered :=
      h.unlettered.append (hend.mono fun _ hx => hvisible (Text.isVisible_of_isAlphabetic hx)) }

theorem device?_eq_some_iff :
    c.device? = some d ↔
      ∃ p : DeviceNumbers, p.Cuts c.restOfLine ∧ d = c.advance p.shown.length := by
  constructor
  · intro h
    obtain ⟨p, hp, rfl⟩ := exists_cuts_of_device? h
    exact ⟨_, hp.onLine, rfl⟩
  · rintro ⟨p, hp, rfl⟩
    exact hp.ofLine.device?

theorem device?_eq_none_iff : c.device? = none ↔ ∀ p : DeviceNumbers, ¬ p.Cuts c.restOfLine := by
  rw [Option.eq_none_iff_forall_ne_some]
  simp only [ne_eq, device?_eq_some_iff, not_exists, not_and]
  exact ⟨fun h p hp => h _ p hp rfl, fun h d p hp => (h p hp).elim⟩

theorem Cuts.spans (h : p.Cuts c.restOfLine) :
    Cursor.Spans c (c.advance p.shown.length) p.shown :=
  Cursor.spans_append h.ofLine.text.symm

end Reader

end DeviceNumbers

namespace Bytewise.Window

theorem device_eq_some_iff {c : Cursor} {stop : Nat} :
    device ⟨c.text, 0⟩ c.offset = .ok (some stop) ↔
      ∃ p : DeviceNumbers, p.Cuts c.restOfLine ∧ stop = c.offset + byteCount p.shown := by
  rw [(sees_text c).device, Except.ok.injEq, Option.map_eq_some_iff]
  simp only [DeviceNumbers.device?_eq_some_iff]
  constructor
  · rintro ⟨d, ⟨p, hp, rfl⟩, rfl⟩
    exact ⟨p, hp, hp.spans.offset_eq⟩
  · rintro ⟨p, hp, rfl⟩
    exact ⟨_, ⟨p, hp, rfl⟩, hp.spans.offset_eq⟩

end Bytewise.Window

namespace Listing

theorem exists_callOn_of_accepted {s : ColumnSet} {call : Call} {eff : Effect}
    (h : Call.Accepted s call eff) (hf : call.function = .unixDevice) :
    ∃ i, call = callOn .unixDevice [i] ∧ s.operandType? (.declared i) = some .text := by
  cases h with
  | @token f c _ htype =>
      obtain rfl : f = .unixDevice := hf
      cases c with
      | declared i => exact ⟨i, rfl, htype⟩
      | _ => cases htype
  | _ => simp_all

def storedText (s : ColumnSet) (i : Nat) (t : Text) : Text :=
  if i = s.nameIndex then Text.takeBytes maxNameBytes t else t

theorem keptText_eq_storedText {ds : List ColumnDefinition} {s : ColumnSet} {i : Nat}
    {k : ColumnKind} (hs : ColumnSet.ofDefinitions ds = .ok s)
    (hi : (s.get? i).map (·.kind) = some k) (t : Text) : keptText k t = storedText s i t := by
  by_cases hname : i = s.nameIndex
  · obtain ⟨column, hcolumn, hkind⟩ := ColumnSet.get?_nameIndex hs
    subst hname
    obtain rfl : column.kind = k := by simpa [hcolumn] using hi
    rw [keptText, if_pos hkind, storedText, if_pos rfl]
  · rw [keptText, if_neg (ColumnSet.kind_ne_name hs hi hname), storedText, if_neg hname]

def Attempt.withDevice (a : Attempt) (s : ColumnSet) (i : Nat) (p : DeviceNumbers) : Attempt :=
  { a with
    place := a.place.advance p.shown.length
    row := a.row.set i (.text (storedText s i p.shown)) }

variable {e : Surroundings} {a : Attempt} {s : ColumnSet} {i : Nat} {k : ColumnKind} {cell : Cell}
  {p : DeviceNumbers}

theorem takeDevice_of_cuts (hcell : a.row.Holds s i k cell) (h : p.Cuts a.place.restOfLine) :
    a.takeDevice s (.declared i) =
      .continues { a with
        place := a.place.advance p.shown.length
        row := a.row.set i (.text (keptText k p.shown)) } := by
  have hdevice := h.ofLine.device?
  have htoken := (Bytewise.onLine_device? hdevice).spans.unique h.spans
  simp only [Attempt.takeDevice, hdevice, htoken]
  exact Row.Holds.setText (f := ⟨a.row, a.languages⟩) hcell p.shown _

theorem takeDevice_of_not_cuts (s : ColumnSet) (target : ColumnRef)
    (h : ∀ p : DeviceNumbers, ¬ p.Cuts a.place.restOfLine) :
    a.takeDevice s target = .fails a.languages := by
  rw [Attempt.takeDevice, DeviceNumbers.device?_eq_none_iff.2 h]

/-- A call for device numbers goes on where they stand on the rest of the line, and fails where
they do not. It stores what is shown of them, and goes to behind the minor number. -/
theorem unixDevice_iff {ds : List ColumnDefinition} {e : Surroundings} {a : Attempt} {call : Call}
    {eff : Effect} (hcolumns : ColumnSet.ofDefinitions ds = .ok e.columns)
    (hrow : a.row.Typed e.columns) (hcall : Call.Accepted e.columns call eff)
    (hfunction : call.function = .unixDevice) :
    let line := a.place.restOfLine
    ∃ i, call = callOn .unixDevice [i] ∧
      (∀ b, a.apply e call = .continues b ↔
        ∃ p : DeviceNumbers, p.Cuts line ∧ b = a.withDevice e.columns i p) ∧
      (a.apply e call = .fails a.languages ↔ ∀ p : DeviceNumbers, ¬ p.Cuts line) ∧
      ∀ stop, Bytewise.Window.device ⟨a.place.text, 0⟩ a.place.offset = .ok (some stop) ↔
        ∃ p : DeviceNumbers, p.Cuts line ∧ stop = a.place.offset + byteCount p.shown := by
  intro line
  obtain ⟨i, rfl, htype⟩ := exists_callOn_of_accepted hcall hfunction
  obtain ⟨k, cell, hcell⟩ := hrow.holds htype
  have hwith {p : DeviceNumbers} (hp : p.Cuts line) :
      a.apply e (callOn .unixDevice [i]) = .continues (a.withDevice e.columns i p) := by
    rw [Attempt.withDevice, ← keptText_eq_storedText hcolumns hcell.kind]
    exact takeDevice_of_cuts hcell hp
  have hwithout (hnone : ∀ p : DeviceNumbers, ¬ p.Cuts line) :
      a.apply e (callOn .unixDevice [i]) = .fails a.languages :=
    takeDevice_of_not_cuts e.columns _ hnone
  refine ⟨i, rfl, fun b => ⟨fun hb => ?_, ?_⟩, ⟨fun hfails p hp => ?_, hwithout⟩,
    fun stop => Bytewise.Window.device_eq_some_iff⟩
  · by_cases hnone : ∀ p : DeviceNumbers, ¬ p.Cuts line
    · rw [hwithout hnone] at hb
      cases hb
    · obtain ⟨p, hp⟩ := not_forall_not.1 hnone
      exact ⟨p, hp, Outcome.continues.inj (hb.symm.trans (hwith hp))⟩
  · rintro ⟨p, hp, rfl⟩
    exact hwith hp
  · rw [hwith hp] at hfails
    cases hfails

namespace Devices

def definitions : List ColumnDefinition :=
  [⟨"name".toList, .name, none⟩, ⟨"device".toList, .text, none⟩]

def columns : ColumnSet :=
  ⟨[⟨"name".toList, .name, .empty⟩, ⟨"device".toList, .text, .text []⟩], 0⟩

theorem isDay_today : IsDay 2024 4 10 := by decide

def context : Context :=
  { today := ⟨2024, 4, 10, isDay_today⟩ }

def surroundings (listing : Text) : Surroundings :=
  Reading.surroundings columns context listing

def attempt (listing : Text) : Attempt :=
  ⟨Cursor.ofText listing, Row.empty columns, Languages.all⟩

theorem unixDevice_blanks :
    let listing := "4 ,\t65: x\n".toList
    let a := attempt listing
    let p : DeviceNumbers := ⟨['4'], [' '], ['\t'], ['6', '5'], ": x".toList⟩
    a.apply (surroundings listing) (callOn .unixDevice [1]) =
        .continues (a.withDevice columns 1 p) ∧
      Bytewise.Window.device ⟨listing, 0⟩ 0 = .ok (some 6) := by
  intro listing a p
  have hblank {x : Char} (hx : isBlank x = true) : ∀ y ∈ [x], isBlank y = true :=
    List.forall_mem_singleton.2 hx
  have hcuts : p.Cuts a.place.restOfLine :=
    ⟨by rfl, by decide, hblank (by decide), hblank (by decide), by decide, by decide, by decide⟩
  have hcall : Call.Accepted columns (callOn .unixDevice [1]) _ := .token (.inr (.inr rfl)) rfl
  obtain ⟨i, hi, hgoes, -, hstop⟩ := unixDevice_iff (e := surroundings listing) (a := a)
    (show ColumnSet.ofDefinitions definitions = .ok columns by rfl) Row.typed_empty hcall rfl
  obtain rfl : 1 = i := by simpa [callOn] using hi
  exact ⟨(hgoes _).2 ⟨p, hcuts, rfl⟩, (hstop 6).2 ⟨p, hcuts, by rfl⟩⟩

end Devices

end Listing

end ListingRules
