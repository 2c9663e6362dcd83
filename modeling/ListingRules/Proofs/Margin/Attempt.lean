import ListingRules.Listing.Attempt
import ListingRules.Proofs.Margin.Reader
import ListingRules.Proofs.Walk

namespace ListingRules

open Text (isLineEnd isBlank isSpace isVisible)

namespace Character

theorem le_toNat_shifted {table : List Shift} {c : Char} {n : Nat} (hc : n ≤ c.toNat)
    (h : ∀ s ∈ table, (n : Int) ≤ s.stretch.first + s.distance ∧
      ((s.stretch.last : Int) + s.distance < 0xD800 ∨
        0xDFFF < (s.stretch.first : Int) + s.distance ∧
          (s.stretch.last : Int) + s.distance < 0x110000)) :
    n ≤ (shifted table c).toNat := by
  simp only [shifted]
  split
  · rename_i s hs
    obtain ⟨hle, hrange⟩ := h s (List.mem_of_find?_eq_some hs)
    have hin : s.stretch.contains c.toNat = true := by simpa using List.find?_some hs
    simp only [Stretch.contains, Bool.and_eq_true, decide_eq_true_eq] at hin
    have hvalid : (c.toNat + s.distance).toNat.isValidChar := by
      simp only [Nat.isValidChar]
      omega
    have hto : (Char.ofNat (c.toNat + s.distance).toNat).toNat =
        (c.toNat + s.distance).toNat := by
      rw [Char.ofNat, dif_pos hvalid]
      rfl
    omega
  · exact hc

theorem eq_of_sameLetter {x y : Char} (hx : isSpace x = true) (h : sameLetter x y = true) :
    y = x := by
  have hle : x.toNat ≤ 32 := of_decide_eq_true hx
  have hsmall : x.toLower = x := by
    have hall : ∀ n < 33, (Char.ofNat n).toLower = Char.ofNat n := by decide
    simpa [Char.ofNat_toNat] using hall x.toNat (Nat.lt_succ_of_le hle)
  have hxl : lower x = [x] := by
    rw [lower, if_pos (Nat.lt_of_le_of_lt hle (by decide)), hsmall]
  have hy := (sameLetter_iff.1 h).symm
  rw [hxl] at hy
  by_cases hascii : y.toNat < 0x80
  · have hall : ∀ n < 0x80, isSpace (Char.ofNat n).toLower = true →
        (Char.ofNat n).toLower = Char.ofNat n := by decide
    simp only [lower, if_pos hascii] at hy
    have hlower : y.toLower = x := List.head_eq_of_cons_eq hy
    have hself := hall y.toNat hascii
    rw [Char.ofNat_toNat, hlower] at hself
    exact (hself hx).symm
  · simp only [lower, if_neg hascii] at hy
    split at hy
    · simp at hy
    · have hlarge : 0x61 ≤ (shifted smallForms y).toNat :=
        le_toNat_shifted (by omega) (by decide +kernel)
      rw [List.head_eq_of_cons_eq hy] at hlarge
      omega

end Character

namespace Text

theorem mem_of_sameLetters {a b : Text} {x : Char} (h : sameLetters a b = true) (ha : x ∈ a)
    (hx : isSpace x = true) : x ∈ b := by
  induction a generalizing b with
  | nil => simp at ha
  | cons c a ih =>
      cases b with
      | nil => simp [sameLetters] at h
      | cons d b =>
          simp only [sameLetters, Bool.and_eq_true] at h
          rcases List.mem_cons.1 ha with rfl | ha
          · exact Character.eq_of_sameLetter hx h.1 ▸ List.mem_cons_self
          · exact List.mem_cons_of_mem d (ih h.2 ha)

end Text

namespace MonthName

theorem eq_false_of_mem_splitOnP {p : Char → Bool} {t l : Text} {x : Char}
    (hl : l ∈ t.splitOnP p) (hx : x ∈ l) : p x = false := by
  induction t generalizing l with
  | nil =>
      rw [List.splitOnP_nil, List.mem_singleton] at hl
      simp [hl] at hx
  | cons c t ih =>
      rw [List.splitOnP_cons_eq_if_modifyHead] at hl
      split at hl
      · rcases List.mem_cons.1 hl with rfl | hl
        · simp at hx
        · exact ih hl hx
      · rename_i hc
        cases hs : t.splitOnP p with
        | nil => simp [hs] at hl
        | cons first more =>
            rw [hs] at hl ih
            rcases List.mem_cons.1 hl with rfl | hl
            · rcases List.mem_cons.1 hx with rfl | hx
              · simpa using hc
              · exact ih List.mem_cons_self hx
            · exact ih (List.mem_cons_of_mem first hl) hx

theorem readShort?_of_space {word : Text} {x : Char} (languages : Languages) (hx : x ∈ word)
    (hspace : isSpace x = true) : readShort? word languages = none := by
  have hshort : ∀ m ∈ short, m.name.any isSpace = false := by decide
  have hnone : short.find? (fun m => Text.sameLetters word m.name) = none := by
    rw [List.find?_eq_none]
    intro m hm hsame
    have hmem := Text.mem_of_sameLetters hsame hx hspace
    exact absurd hspace (List.any_eq_false.1 (hshort m hm) x hmem)
  simp [readShort?, hnone]

theorem readShortFrom?_of_space {names word : Text} {x : Char} (hx : x ∈ word)
    (hspace : isSpace x = true) : readShortFrom? names word = none := by
  simp only [readShortFrom?, Option.map_eq_none_iff, List.findIdx?_eq_none_iff]
  intro name hname
  rw [Bool.eq_false_iff]
  intro hsame
  have hmem := Text.mem_of_sameLetters hsame hx hspace
  simp [eq_false_of_mem_splitOnP (List.mem_of_mem_take hname) hmem] at hspace

end MonthName

namespace Listing

def Attempt.within (m : Margin) (a : Attempt) : Attempt :=
  { a with place := a.place.within m }

def Outcome.within (m : Margin) : Outcome → Outcome
  | continues a => continues (a.within m)
  | skipsRest a => skipsRest (a.within m)
  | fails languages => fails languages
  | stuck => stuck

theorem Outcome.andThen_within {m : Margin} {f g : Attempt → Outcome}
    (h : ∀ a, f (a.within m) = (g a).within m) (o : Outcome) :
    (o.within m).andThen f = (o.andThen g).within m := by
  cases o with
  | continues a => exact h a
  | skipsRest a => rfl
  | fails languages => rfl
  | stuck => rfl

namespace Attempt

variable {s : ColumnSet} {a : Attempt} {target : ColumnRef}

@[simp] theorem place_within (m : Margin) (a : Attempt) :
    (a.within m).place = a.place.within m := rfl

@[simp] theorem row_within (m : Margin) (a : Attempt) : (a.within m).row = a.row := rfl

@[simp] theorem languages_within (m : Margin) (a : Attempt) :
    (a.within m).languages = a.languages := rfl

theorem moveTo_within (m : Margin) (a : Attempt) (c : Option Cursor) :
    (a.within m).moveTo (c.map (Cursor.within m)) = (a.moveTo c).within m := by
  cases c <;> rfl

theorem modify_within (m : Margin) (f : ColumnKind → Cell → Option Cell) (c : ColumnRef)
    (a : Attempt) : (a.within m).modify s f c = (a.modify s f c).within m := by
  simp only [modify, within]
  split
  · split
    · split <;> rfl
    · rfl
  · rfl

theorem store_within (m : Margin) (t : Text) (target : Option ColumnRef) (a : Attempt) :
    (a.within m).store s t target = (a.store s t target).within m := by
  cases target with
  | none => rfl
  | some c =>
      simp only [store]
      exact modify_within m _ c a

theorem takeToken_within {p : Char → Bool} (hp : Inner p) (m : Margin) (target : Option ColumnRef)
    (a : Attempt) : (a.within m).takeToken s p target = (a.takeToken s p target).within m := by
  simp only [takeToken, place_within, Cursor.takeWhile_within hp, Cursor.skipWhile_within hp]
  split
  · rfl
  · exact store_within m _ target { a with place := a.place.skipWhile p }

theorem length_le_of_forward? {p : Char → Bool} {n : Nat} {c d : Cursor}
    (h : Cursor.forward? p n c = some d) : n ≤ c.ahead.length := by
  induction n generalizing c with
  | zero => exact Nat.zero_le _
  | succ n ih =>
      obtain ⟨b, t⟩ := c
      cases t with
      | nil => simp [Cursor.forward?] at h
      | cons x t =>
          simp only [Cursor.forward?] at h
          split at h
          · exact Nat.succ_le_succ (ih h)
          · simp at h

theorem takeChars_within (m : Margin) (n : Int) (target : Option ColumnRef) (a : Attempt) :
    (a.within m).takeChars s n target = (a.takeChars s n target).within m := by
  simp only [takeChars, place_within, Cursor.forward?_within inner_notLineEnd]
  split
  · rfl
  · cases hd : a.place.forward? (! isLineEnd ·) n.toNat with
    | none => rfl
    | some d =>
        simp only [Cursor.ahead_within, List.take_append_of_le_length (length_le_of_forward? hd)]
        exact store_within m _ target { a with place := d }

theorem takeTo_within (m : Margin) (inclusive : Bool) (wanted : Text) (target : Option ColumnRef)
    (a : Attempt) :
    (a.within m).takeTo s inclusive wanted target =
      (a.takeTo s inclusive wanted target).within m := by
  simp only [takeTo, place_within, Cursor.restOfLine_within]
  split
  · rfl
  · rename_i o ho
    have hpast : o.before ++ o.found <+: a.place.ahead :=
      (List.prefix_append _ o.after).trans
        ((Text.append_of_find? ho).1 ▸ List.takeWhile_prefix _)
    rw [Cursor.advance_within m hpast.length_le]
    exact store_within m _ target
      { a with place := a.place.advance (o.before ++ o.found).length }

theorem takeNumber_within (m : Margin) (positiveOnly : Bool) (read : Option (Int × Cursor))
    (target : ColumnRef) (a : Attempt) :
    (a.within m).takeNumber s positiveOnly (read.map (Cursor.readWithin m)) target =
      (a.takeNumber s positiveOnly read target).within m := by
  cases read with
  | none => rfl
  | some r =>
      obtain ⟨n, c⟩ := r
      simp only [takeNumber, Option.map_some, Cursor.readWithin, Cursor.nextIsAlphabetic_within]
      split
      · rfl
      · exact modify_within m _ target { a with place := c }

theorem setMonth_within (m : Margin) (f : DateParts → DateParts) (target : ColumnRef)
    (a : Attempt) :
    (if (a.place.within m).nextIsAlphabetic then Outcome.fails a.languages
      else (a.within m).setDate s f target) =
    (if a.place.nextIsAlphabetic then Outcome.fails a.languages
      else a.setDate s f target).within m := by
  rw [Cursor.nextIsAlphabetic_within]
  split
  · rfl
  · exact modify_within m _ target a

theorem exists_lineEnd_of_take {m : Margin} {t : Text} {n : Nat} (hshort : t.length < n)
    (hlen : ((t ++ m.after).take n).length = n) :
    ∃ x ∈ (t ++ m.after).take n, isLineEnd x = true := by
  cases h : m.after with
  | nil =>
      rw [h, List.append_nil, List.length_take] at hlen
      omega
  | cons x u =>
      refine ⟨x, ?_, by simpa using m.stops_after x (by simp [h])⟩
      obtain ⟨k, hk⟩ : ∃ k, n - t.length = k + 1 := ⟨n - t.length - 1, by omega⟩
      simp [List.take_append, hk]

theorem takeMonth3_of_short {m : Margin} {names : Option Text} (hshort : a.place.ahead.length < 3) :
    (a.within m).takeMonth3 s names target = .fails a.languages := by
  by_cases hlen : ((a.within m).place.ahead.take 3).length = 3
  · obtain ⟨x, hx, hend⟩ := exists_lineEnd_of_take hshort hlen
    have hspace := Text.isSpace_of_isLineEnd hend
    simp only [takeMonth3, if_pos hlen]
    cases names with
    | none => simp only [place_within, Cursor.ahead_within, languages_within,
        MonthName.readShort?_of_space _ hx hspace]
    | some names => simp only [place_within, Cursor.ahead_within, languages_within,
        MonthName.readShortFrom?_of_space hx hspace, Option.map_none]
  · simp only [takeMonth3, if_neg hlen]
    rfl

theorem takeMonth3_within (m : Margin) (names : Option Text) (target : ColumnRef) (a : Attempt) :
    (a.within m).takeMonth3 s names target = (a.takeMonth3 s names target).within m := by
  by_cases hlen : 3 ≤ a.place.ahead.length
  · simp only [takeMonth3, place_within, languages_within, Cursor.ahead_within,
      List.take_append_of_le_length hlen, Cursor.advance_within m hlen]
    split
    · rfl
    · rename_i month languages _
      exact setMonth_within m _ target { a with place := a.place.advance 3, languages }
  · have hshort : (a.place.ahead.take 3).length ≠ 3 := by
      rw [List.length_take]
      omega
    rw [takeMonth3_of_short (Nat.lt_of_not_le hlen)]
    simp only [takeMonth3, if_neg hshort]
    rfl

theorem length_le_of_readMonth {names : Option Text} {word : Text} {languages left : Languages}
    {month length : Nat}
    (h : (match names with
      | some list => (MonthName.readLongFrom? list word).map fun (m, n) => (m, n, languages)
      | none => MonthName.readLong? word languages) = some (month, length, left)) :
    length ≤ word.length := by
  cases names with
  | none => exact (MonthName.le_of_readLong? h).2
  | some list =>
      simp only [Option.map_eq_some_iff, Prod.exists, Prod.mk.injEq] at h
      obtain ⟨_, _, hread, rfl, rfl, -⟩ := h
      exact (MonthName.le_of_readLongFrom? hread).2

theorem takeMonthTxt_within (m : Margin) (names : Option Text) (target : ColumnRef)
    (a : Attempt) :
    (a.within m).takeMonthTxt s names target = (a.takeMonthTxt s names target).within m := by
  simp only [takeMonthTxt, place_within, languages_within,
    Cursor.takeWhile_within inner_isVisible]
  split
  · rfl
  · rename_i month length languages hread
    have hword : (a.place.ahead.takeWhile isVisible).length ≤ a.place.ahead.length :=
      (List.takeWhile_prefix _).length_le
    have hle : length ≤ a.place.ahead.length :=
      Nat.le_trans (length_le_of_readMonth (Option.ite_none_left_eq_some.1 hread).2) hword
    simp only [Cursor.advance_within m hle]
    exact setMonth_within m _ target { a with place := a.place.advance length, languages }

theorem takeDatePart_within (m : Margin) (f : Nat → Option (DateParts → DateParts))
    (target : ColumnRef) (a : Attempt) :
    (a.within m).takeDatePart s f target = (a.takeDatePart s f target).within m := by
  simp only [takeDatePart, place_within, Cursor.digits?_within]
  cases a.place.digits? with
  | none => rfl
  | some r =>
      obtain ⟨n, c⟩ := r
      simp only [Option.map_some, Cursor.readWithin, Cursor.nextIsAlphabetic_within]
      split
      · exact modify_within m _ target { a with place := c }
      · rfl

theorem takeTime_within (m : Margin) (target : ColumnRef) (a : Attempt) :
    (a.within m).takeTime s target = (a.takeTime s target).within m := by
  simp only [takeTime, place_within, Cursor.time?_within]
  cases a.place.time? with
  | none => rfl
  | some r => exact modify_within m _ target { a with place := r.2 }

theorem takeYearOrTime_within (m : Margin) (e : Surroundings) (date time : ColumnRef)
    (a : Attempt) :
    (a.within m).takeYearOrTime e date time = (a.takeYearOrTime e date time).within m := by
  simp only [takeYearOrTime, place_within, Cursor.yearOrTime?_within]
  cases a.place.yearOrTime? with
  | none => rfl
  | some r =>
      obtain ⟨read, c⟩ := r
      cases read with
      | year y => exact modify_within m _ date { a with place := c }
      | time t =>
          have hdate := modify_within (s := e.columns) m
            (fun _ cell => some (.date
              { cell.dateParts with year := some e.today.year, yearIsGuess := true }))
            date { a with place := c }
          exact (congrArg (Outcome.andThen · _) hdate).trans
            (Outcome.andThen_within (fun b => modify_within m _ time b) _)

theorem takeLink_within (m : Margin) (name link : ColumnRef) (a : Attempt) :
    (a.within m).takeLink s name link = (a.takeLink s name link).within m := by
  simp only [takeLink, place_within, Cursor.restOfLine_within,
    Cursor.skipWhile_within inner_notLineEnd]
  split
  · rfl
  · rename_i l _
    have hname := modify_within (s := s) m (fun k _ => some (.text (keptText k l.name))) name
      { a with
        place := a.place.skipWhile (! isLineEnd ·)
        row := { a.row with isDir := l.isDir } }
    refine (congrArg (Outcome.andThen · _) hname).trans
      (Outcome.andThen_within (fun b => ?_) _)
    cases l.target with
    | none => rfl
    | some t => exact modify_within m _ link b

theorem takeDevice_within (m : Margin) (target : ColumnRef) (a : Attempt) :
    (a.within m).takeDevice s target = (a.takeDevice s target).within m := by
  simp only [takeDevice, place_within, Cursor.device?_within, Cursor.restOfLine_within,
    Cursor.behind_within, List.length_append]
  cases a.place.device? with
  | none => rfl
  | some c =>
      simp only [Option.map_some, Cursor.behind_within, List.length_append,
        Nat.add_sub_add_right]
      exact modify_within m _ target { a with place := c }

theorem changeText_within (m : Margin) (f : Text → Option Text) (target : ColumnRef)
    (a : Attempt) :
    (a.within m).changeText s f target = (a.changeText s f target).within m := by
  have htext : textOf? (a.within m) (.column target) = textOf? a (.column target) := by
    cases target <;> rfl
  simp only [changeText, htext]
  split
  · rfl
  · split
    · exact modify_within m _ target a
    · rfl

end Attempt

structure SeesSame (m n : Margin) (e e' : Surroundings) (call : Call) (a : Attempt) : Prop where
  columns : e'.columns = e.columns
  today : e'.today = e.today
  params : ∀ p ∈ call.params, Param.eval? e' (a.within n) p = Param.eval? e (a.within m) p
  texts : ∀ o, .operand o ∈ call.params → textOf? (a.within n) o = textOf? (a.within m) o
  separators : ∀ target o, call = ⟨.numberWithSeparators, [target, .operand o]⟩ →
    ∀ t ∈ textOf? (a.within m) o, ∀ x ∈ t, isLineEnd x = false
  staysOnLine : call.function ≠ .whiteSpacesAndLineEnds

def Outcome.SameIn (m n : Margin) (x y : Outcome) : Prop :=
  ∃ o : Outcome, x = o.within m ∧ y = o.within n

theorem Outcome.SameIn.of_within {f : Attempt → Outcome} {m n : Margin} {a : Attempt}
    (h : ∀ k, f (a.within k) = (f a).within k) :
    SameIn m n (f (a.within m)) (f (a.within n)) :=
  ⟨f a, h m, h n⟩

namespace Attempt

variable {m n : Margin} {e e' : Surroundings} {call : Call} {a : Attempt}

theorem sameIn_elim {α : Type} {v w : Option α} {f g : α → Outcome} (hv : w = v)
    (h : ∀ x, v = some x → Outcome.SameIn m n (f x) (g x)) :
    Outcome.SameIn m n (v.elim .stuck f) (w.elim .stuck g) := by
  subst hv
  cases w with
  | none => exact ⟨.stuck, rfl, rfl⟩
  | some x => exact h x rfl

theorem sameIn_flag {v : Option Bool} {f : Bool → Row} :
    Outcome.SameIn m n
      (match v with
        | some b => .continues { a.within m with row := f b }
        | none => .stuck)
      (match v with
        | some b => .continues { a.within n with row := f b }
        | none => .stuck) := by
  cases v with
  | none => exact ⟨.stuck, rfl, rfl⟩
  | some b => exact ⟨.continues { a with row := f b }, rfl, rfl⟩

theorem sameIn_assign {target : ColumnRef} {value : Param} (hcolumns : e'.columns = e.columns)
    (hvalue : Param.eval? e' (a.within n) value = Param.eval? e (a.within m) value)
    (htext : ∀ o, value = .operand o → textOf? (a.within n) o = textOf? (a.within m) o) :
    Outcome.SameIn m n ((a.within m).assign e target value)
      ((a.within n).assign e' target value) := by
  have hset {f : ColumnKind → Cell → Option Cell} {c : ColumnRef} :
      Outcome.SameIn m n ((a.within m).modify e.columns f c) ((a.within n).modify e.columns f c) :=
    .of_within fun k => modify_within k f c a
  simp only [assign, hvalue]
  cases target with
  | isDir => exact sameIn_flag
  | isHidden => exact sameIn_flag
  | isLink => exact sameIn_flag
  | declared i =>
      cases value with
      | comparison l op r => exact ⟨.stuck, rfl, rfl⟩
      | operand o =>
          simp only [hcolumns]
          cases e.columns.operandType? (.declared i) with
          | none => exact ⟨.stuck, rfl, rfl⟩
          | some type =>
              cases type with
              | boolean => exact ⟨.stuck, rfl, rfl⟩
              | text => exact sameIn_elim (htext o rfl) fun _ _ => hset
              | number => exact sameIn_elim rfl fun _ _ => hset
              | date => exact sameIn_elim rfl fun _ _ => hset
              | time => exact sameIn_elim rfl fun _ _ => hset

theorem sameIn_takeTo {s : ColumnSet} {o : Operand} (inclusive : Bool) (target : Option ColumnRef)
    (h : textOf? (a.within n) o = textOf? (a.within m) o) :
    Outcome.SameIn m n
      ((textOf? (a.within m) o).elim .stuck fun t => (a.within m).takeTo s inclusive t target)
      ((textOf? (a.within n) o).elim .stuck fun t => (a.within n).takeTo s inclusive t target) :=
  sameIn_elim h fun t _ => .of_within fun k => takeTo_within k inclusive t target a

theorem sameIn_require {p : Param}
    (h : Param.eval? e' (a.within n) p = Param.eval? e (a.within m) p) :
    Outcome.SameIn m n ((a.within m).apply e ⟨.require, [p]⟩)
      ((a.within n).apply e' ⟨.require, [p]⟩) := by
  simp only [apply, h]
  cases Param.eval? e (a.within m) p with
  | none => exact ⟨.stuck, rfl, rfl⟩
  | some b =>
      cases b with
      | true => exact ⟨.continues a, rfl, rfl⟩
      | false => exact ⟨.fails a.languages, rfl, rfl⟩

theorem sameIn_separated {s : ColumnSet} {o : Operand} {target : ColumnRef}
    (h : textOf? (a.within n) o = textOf? (a.within m) o)
    (hinner : ∀ t ∈ textOf? (a.within m) o, ∀ x ∈ t, isLineEnd x = false) :
    Outcome.SameIn m n
      (match textOf? (a.within m) o with
        | some t =>
            (a.within m).takeNumber s false ((a.within m).place.separatedDigits? t) target
        | none => .stuck)
      (match textOf? (a.within n) o with
        | some t =>
            (a.within n).takeNumber s false ((a.within n).place.separatedDigits? t) target
        | none => .stuck) := by
  rw [h]
  cases ht : textOf? (a.within m) o with
  | none => exact ⟨.stuck, rfl, rfl⟩
  | some t =>
      refine .of_within (f := fun a => a.takeNumber s false (a.place.separatedDigits? t) target)
        fun k => ?_
      simp only [place_within, Cursor.separatedDigits?_within (hinner t ht)]
      exact takeNumber_within k false _ target a

theorem sameIn_apply (h : SeesSame m n e e' call a) :
    Outcome.SameIn m n ((a.within m).apply e call) ((a.within n).apply e' call) := by
  obtain ⟨f, ps⟩ := call
  obtain ⟨_, _, _, _⟩ := e
  obtain ⟨columns, today, _, _⟩ := e'
  obtain rfl := h.columns
  obtain rfl := h.today
  have hskip {p : Char → Bool} (hp : Inner p) :
      Outcome.SameIn m n
        (.continues { a.within m with place := (a.within m).place.skipWhile p })
        (.continues { a.within n with place := (a.within n).place.skipWhile p }) := by
    refine .of_within (f := fun a => .continues { a with place := a.place.skipWhile p })
      fun k => ?_
    simp only [place_within, Cursor.skipWhile_within hp]
    rfl
  have hmove {j : Int} {f : Cursor → Option Cursor}
      (hf : ∀ k, f (a.place.within k) = (f a.place).map (Cursor.within k)) :
      Outcome.SameIn m n
        (if j < 0 then .fails a.languages else (a.within m).moveTo (f (a.within m).place))
        (if j < 0 then .fails a.languages else (a.within n).moveTo (f (a.within n).place)) := by
    split
    · exact ⟨.fails a.languages, rfl, rfl⟩
    · refine .of_within (f := fun a => a.moveTo (f a.place)) fun k => ?_
      rw [place_within, hf]
      exact moveTo_within k a (f a.place)
  have hnumber (positiveOnly : Bool) (target : ColumnRef) :
      Outcome.SameIn m n
        ((a.within m).takeNumber columns positiveOnly (a.within m).place.signedDigits? target)
        ((a.within n).takeNumber columns positiveOnly (a.within n).place.signedDigits? target) := by
    refine .of_within
      (f := fun a => a.takeNumber columns positiveOnly a.place.signedDigits? target) fun k => ?_
    rw [place_within, Cursor.signedDigits?_within]
    exact takeNumber_within k positiveOnly _ target a
  have hto {o : Operand} (ho : .operand o ∈ ps) (inclusive : Bool) (target : Option ColumnRef) :=
    sameIn_takeTo (s := columns) inclusive target (h.texts o ho)
  have hchange (f : Text → Option Text) (target : ColumnRef) :
      Outcome.SameIn m n ((a.within m).changeText columns f target)
        ((a.within n).changeText columns f target) :=
    .of_within fun k => changeText_within k f target a
  simp only [apply]
  split
  · exact hskip inner_isBlank
  · exact hskip ⟨by decide, by decide⟩
  · exact .of_within fun k => takeToken_within inner_isBlank k _ a
  · exact hmove fun k => Cursor.forward?_within inner_isBlank k _ _
  · exact absurd rfl h.staysOnLine
  · exact .of_within fun k => takeToken_within inner_notLineEnd k _ a
  · exact .of_within fun k => takeToken_within inner_notLineEnd k _ a
  · exact .of_within fun k => takeToken_within inner_isVisible k _ a
  · exact .of_within fun k => takeToken_within inner_isVisible k _ a
  · exact hnumber false _
  · exact hnumber true _
  · exact sameIn_separated (h.texts _ (by simp)) (h.separators _ _ rfl)
  · exact .of_within fun k => takeMonth3_within k none _ a
  · exact .of_within fun k => takeMonth3_within k (some _) _ a
  · exact .of_within fun k => takeMonthTxt_within k none _ a
  · exact .of_within fun k => takeMonthTxt_within k (some _) _ a
  · exact .of_within fun k => takeDatePart_within k _ _ a
  · exact .of_within fun k => takeDatePart_within k _ _ a
  · exact .of_within fun k => takeDatePart_within k _ _ a
  · exact .of_within fun k => takeTime_within k _ a
  · exact .of_within fun k => takeYearOrTime_within k _ _ _ a
  · exact .of_within fun k => takeChars_within k _ none a
  · exact .of_within fun k => takeChars_within k _ (some _) a
  · exact hto List.mem_cons_self true none
  · exact hto (List.mem_cons_of_mem _ List.mem_cons_self) true (some _)
  · exact hto (List.mem_cons_of_mem _ List.mem_cons_self) false (some _)
  · exact .of_within fun k => takeLink_within k _ _ a
  · exact .of_within fun k => takeDevice_within k _ a
  · exact sameIn_require (h.params _ (by simp))
  · exact sameIn_assign rfl (h.params _ (by simp)) fun o ho => h.texts o (by simp [ho])
  · exact hchange _ _
  · exact hchange _ _
  · exact hchange _ _
  · exact hmove fun k => Cursor.backward?_within k _ _
  · exact sameIn_elim (h.texts _ (by simp)) fun more _ => hchange _ _
  · exact hchange _ _
  · exact ⟨.stuck, rfl, rfl⟩

end Attempt

end Listing

end ListingRules
