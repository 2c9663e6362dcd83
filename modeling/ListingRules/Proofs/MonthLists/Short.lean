import ListingRules.Proofs.Bytewise.Bytes
import ListingRules.Proofs.Margin.Attempt
import ListingRules.Proofs.MonthLists.Long

namespace ListingRules

open Text (byteCount isSpace isVisible splitAtByte?)
open Character (isAlphabetic)

namespace MonthName

def nameAt? (names : Text) (n : Nat) : Option Text := do
  let (_, rest) ← splitAtByte? (4 * n) names
  let (name, _) ← splitAtByte? 3 rest
  return name

def shortNames (names : Text) : List Text :=
  (List.range 12).filterMap (nameAt? names)

inductive Spaced : List Text → Text → Prop
  | last {name : Text} : byteCount name = 3 → Spaced [name] name
  | cons {name t : Text} {x : Char} {names : List Text} :
      byteCount name = 3 → isSpace x = true → Spaced names t →
      Spaced (name :: names) (name ++ x :: t)

theorem utf8Size_of_isSpace {x : Char} (h : isSpace x = true) : x.utf8Size = 1 := by
  have hle : x.toNat ≤ 32 := of_decide_eq_true h
  exact Bytewise.utf8Size_of_isAscii (Nat.lt_of_le_of_lt hle (by decide))

theorem exists_spaced {t : Text} {k : Nat} (hcount : byteCount t = 4 * k + 3)
    (hspace : ∀ i < k, ∃ b, Bytewise.byteAt? t (4 * i + 3) = some b ∧ b.toNat ≤ 32) :
    ∃ names, names.length = k + 1 ∧ Spaced names t := by
  induction k generalizing t with
  | zero => exact ⟨[t], rfl, .last hcount⟩
  | succ k ih =>
      obtain ⟨b, hb, hle⟩ := hspace 0 (Nat.zero_lt_succ k)
      obtain ⟨name, x, u, rfl, hname, hx, rfl⟩ := Bytewise.exists_of_byteAt? hb (by omega)
      rw [Bytewise.toNat_toUInt8 hx] at hle
      have hsize := Bytewise.utf8Size_of_isAscii hx
      simp only [Text.byteCount_append, Text.byteCount_cons] at hcount
      have hrest : ∀ i < k, ∃ b, Bytewise.byteAt? u (4 * i + 3) = some b ∧ b.toNat ≤ 32 := by
        intro i hi
        have hshift : 4 * (i + 1) + 3 = byteCount (name ++ [x]) + (4 * i + 3) := by
          simp only [Text.byteCount_append, Text.byteCount_cons, Text.byteCount_nil]
          omega
        have hat := hspace (i + 1) (Nat.succ_lt_succ hi)
        rwa [hshift, List.append_cons, Bytewise.byteAt?_append] at hat
      obtain ⟨names, hlength, hu⟩ := ih (by omega) hrest
      exact ⟨name :: names, by simp [hlength], .cons hname (decide_eq_true hle) hu⟩

theorem exists_spaced_of_isShortMonthList {names : Text} (h : isShortMonthList names = true) :
    ∃ list, list.length = 12 ∧ Spaced list names := by
  simp only [isShortMonthList, Bool.and_eq_true, beq_iff_eq, List.all_eq_true, List.mem_range,
    decide_eq_true_eq] at h
  obtain ⟨hlength, hspace⟩ := h
  refine exists_spaced (k := 11) ((Bytewise.length_bytes names).symm.trans hlength)
    fun i hi => ?_
  have hlt : 4 * i + 3 < (names.flatMap String.utf8EncodeChar).length := by omega
  have hle := hspace i hi
  rw [List.getElem?_eq_getElem hlt] at hle
  exact ⟨_, List.getElem?_eq_getElem hlt, UInt8.le_iff_toNat_le.1 hle⟩

theorem nameAt?_eq_some_iff {names name : Text} {n : Nat} :
    nameAt? names n = some name ↔
      ∃ before after, before ++ (name ++ after) = names ∧ byteCount before = 4 * n ∧
        byteCount name = 3 := by
  simp only [nameAt?, Option.bind_eq_bind, Option.bind_eq_some_iff, Prod.exists,
    Text.splitAtByte?_eq_some_iff, Option.pure_def, Option.some.injEq]
  constructor
  · rintro ⟨before, rest, ⟨rfl, hbefore⟩, _, after, ⟨rfl, hname⟩, rfl⟩
    exact ⟨before, after, rfl, hbefore, hname⟩
  · rintro ⟨before, after, rfl, hbefore, hname⟩
    exact ⟨before, name ++ after, ⟨rfl, hbefore⟩, name, after, ⟨rfl, hname⟩, rfl⟩

theorem filterMap_range_eq {α : Type} {f : Nat → Option α} {l : List α}
    (h : ∀ n < l.length, f n = l[n]?) : (List.range l.length).filterMap f = l := by
  induction l generalizing f with
  | nil => rfl
  | cons a l ih =>
      have hfirst : f 0 = some a := h 0 (by simp)
      have hmore : ∀ n < l.length, (f ∘ Nat.succ) n = l[n]? :=
        fun n hn => h (n + 1) (Nat.succ_lt_succ hn)
      rw [List.length_cons, List.range_succ_eq_map, List.filterMap_cons_some hfirst,
        List.filterMap_map, ih hmore]

namespace Spaced

variable {list : List Text} {t : Text}

theorem nameAt?_eq (h : Spaced list t) {n : Nat} (hn : n < list.length) :
    nameAt? t n = list[n]? := by
  induction h generalizing n with
  | @last name hname =>
      obtain rfl : n = 0 := by simpa using hn
      exact nameAt?_eq_some_iff.2 ⟨[], [], by simp, rfl, hname⟩
  | @cons name t x names hname hx _ ih =>
      cases n with
      | zero => exact nameAt?_eq_some_iff.2 ⟨[], x :: t, rfl, rfl, hname⟩
      | succ n =>
          have hlt : n < names.length := Nat.lt_of_succ_lt_succ hn
          have hsome := (ih hlt).trans (List.getElem?_eq_getElem hlt)
          obtain ⟨before, after, rfl, hbefore, hlater⟩ := nameAt?_eq_some_iff.1 hsome
          rw [List.getElem?_cons_succ, List.getElem?_eq_getElem hlt]
          refine nameAt?_eq_some_iff.2 ⟨name ++ x :: before, after, by simp, ?_, hlater⟩
          simp only [Text.byteCount_append, Text.byteCount_cons, utf8Size_of_isSpace hx]
          omega

theorem shortNames_eq (h : Spaced list t) (hlength : list.length = 12) : shortNames t = list := by
  rw [shortNames, ← hlength]
  exact filterMap_range_eq fun n hn => h.nameAt?_eq hn

theorem byteCount_eq (h : Spaced list t) : ∀ name ∈ list, byteCount name = 3 := by
  induction h with
  | last hname => simpa using hname
  | cons hname _ _ ih => simpa using ⟨hname, ih⟩

theorem splitOnP_eq (h : Spaced list t) (hvisible : ∀ name ∈ list, ∀ x ∈ name, isVisible x = true) :
    t.splitOnP isSpace = list := by
  have hspace {name : Text} (hname : ∀ x ∈ name, isVisible x = true) :
      ∀ x ∈ name, isSpace x = false := fun x hx => by simpa [isVisible] using hname x hx
  induction h with
  | last _ => exact List.splitOnP_eq_singleton (hspace (hvisible _ List.mem_cons_self))
  | @cons name t x names _ hx _ ih =>
      rw [List.splitOnP_append_cons_of_forall_mem (hspace (hvisible name List.mem_cons_self)) x hx,
        ih fun other hother => hvisible other (List.mem_cons_of_mem name hother)]

end Spaced

theorem isVisible_of_readShortFrom? {names word : Text} {month : Nat}
    (h : readShortFrom? names word = some month) : ∀ x ∈ word, isVisible x = true := by
  intro x hx
  by_contra hspace
  have hnone : readShortFrom? names word = none :=
    readShortFrom?_of_space hx (by simpa [isVisible] using hspace)
  simp [hnone] at h

theorem readShortFrom?_of_pairwise {names name : Text} {list : List Text} {n : Nat}
    (hsplit : splitList isSpace names = list)
    (hdiffer : list.Pairwise fun a b => Text.sameLetters a b = false)
    (hname : list[n]? = some name) : readShortFrom? names name = some (n + 1) := by
  obtain ⟨hn, rfl⟩ := List.getElem?_eq_some_iff.1 hname
  have hfind : list.findIdx? (Text.sameLetters list[n]) = some n := by
    refine List.findIdx?_eq_some_iff_getElem.2 ⟨hn, Text.sameLetters_refl _, fun j hj => ?_⟩
    rw [Text.sameLetters_comm, List.pairwise_iff_getElem.1 hdiffer j n (by omega) hn hj]
    exact Bool.false_ne_true
  rw [readShortFrom?, hsplit, hfind]
  rfl

end MonthName

theorem Call.isShortMonthList_of_check {s : ColumnSet} {w v : Written} {i : Nat} {names : Text}
    (h : (listedMonth .month3 i names).check s w = .ok v) : isShortMonthList names = true :=
  valid_of_monthList (checkMonthList_of_check h)

namespace Listing

variable {e : Surroundings} {f : Found} {i : Nat} {k : ColumnKind} {cell : Cell} {names : Text}

theorem takes_month3_listed {name rest : Text} {month : Nat}
    (hcell : f.row.Holds e.columns i k cell) (hlength : name.length = 3)
    (hread : MonthName.readShortFrom? names name = some month)
    (hrest : Stops isAlphabetic rest) :
    Takes e [.listedMonth .month3 i names] name rest f (f.setMonth i month) := by
  refine takes_of_apply fun behind => ?_
  have hletter : (⟨name.reverse ++ behind, rest⟩ : Cursor).nextIsAlphabetic = false :=
    Cursor.nextIsAlphabetic_eq_false_iff.2 hrest
  have htake : (name ++ rest).take 3 = name := by rw [← hlength, List.take_left]
  have hplace : Cursor.advance 3 ⟨behind, name ++ rest⟩ = ⟨name.reverse ++ behind, rest⟩ := by
    rw [← hlength, Cursor.advance_append]
  simp only [Call.listedMonth, Attempt.apply, Attempt.takeMonth3, Found.at, htake, hlength, hread,
    Option.map_some, ↓reduceIte, hplace, hletter, Bool.false_eq_true]
  exact hcell.setMonth month _

theorem visible_of_takes_month3 {name rest : Text} {month : Nat}
    (ht : Takes e [.listedMonth .month3 i names] name rest f (f.setMonth i month))
    (hi : e.columns.operandType? (.declared i) = some .date)
    (hcell : f.row.Holds e.columns i k cell) :
    ∀ x ∈ (name ++ rest).take 3, isVisible x = true := by
  obtain ⟨write, hwrite, -⟩ := monthPart_of_takes ht (.listedMonth names (.inl rfl)) hi hcell
  obtain ⟨_, hread, -⟩ := Option.map_eq_some_iff.1 hwrite
  exact MonthName.isVisible_of_readShortFrom? hread

/-- In an accepted list the pieces of three bytes that start at each fourth byte are whole
characters. If they differ, each of them is read as the name of its month, whatever follows but a
letter, exactly if they all have three visible characters. -/
theorem takes_month3_iff {source : Text} {columns : ColumnSet} {rules : RuleSet} {rule : Rule}
    (hcompile : RuleSet.compile source columns = .ok rules) (he : e.columns = rules.columns)
    (hr : rule ∈ rules.rules) (hc : .listedMonth .month3 i names ∈ rule.calls)
    (hrow : f.row.Typed e.columns) :
    let twelve := MonthName.shortNames names
    twelve.length = 12 ∧
      (twelve.Pairwise (fun a b => Text.sameLetters a b = false) →
        ((∀ n name rest, twelve[n]? = some name → Stops isAlphabetic rest →
            Takes e [.listedMonth .month3 i names] name rest f (f.setMonth i (n + 1))) ↔
          ∀ name ∈ twelve, name.length = 3 ∧ ∀ x ∈ name, isVisible x = true)) := by
  intro twelve
  obtain ⟨u, hchecked⟩ := Rule.isChecked_of_compile hcompile he hr
  obtain ⟨w, v, hcheck⟩ := hchecked.exists_check_of_mem hc
  have hi := Call.date_of_check (.inl rfl) hcheck
  obtain ⟨k, cell, hcell⟩ := hrow.holds hi
  obtain ⟨list, hlength, hspaced⟩ :=
    MonthName.exists_spaced_of_isShortMonthList (Call.isShortMonthList_of_check hcheck)
  have htwelve : twelve = list := hspaced.shortNames_eq hlength
  rw [htwelve]
  refine ⟨hlength, fun hdiffer =>
    ⟨fun ht name hname => ?_, fun hshort n name rest hname hrest => ?_⟩⟩
  · obtain ⟨n, hn⟩ := List.getElem?_of_mem hname
    have hstops : Stops isAlphabetic [' '] := stops_cons (by decide)
    have hvisible := visible_of_takes_month3 (ht n name [' '] hn hstops) hi hcell
    -- a name of fewer characters would be read with the space behind it
    have hthree : 3 ≤ name.length := by
      by_contra hlt
      have hspace : ' ' ∈ (name ++ [' ']).take 3 := by
        rw [List.take_of_length_le (by simp; omega)]
        simp
      exact absurd (hvisible ' ' hspace) (by decide)
    have hcount := hspaced.byteCount_eq name hname
    have hle := Text.length_le_byteCount name
    have hname3 : name.length = 3 := by omega
    rw [← hname3, List.take_left] at hvisible
    exact ⟨hname3, hvisible⟩
  · have hsplit : MonthName.splitList isSpace names = list := by
      rw [MonthName.splitList, hspaced.splitOnP_eq fun other hother => (hshort other hother).2]
      exact List.take_of_length_le (Nat.le_of_eq hlength)
    exact takes_month3_listed hcell (hshort name (List.mem_of_getElem? hname)).1
      (MonthName.readShortFrom?_of_pairwise hsplit hdiffer hname) hrest

namespace NamedMonths

def english : Text :=
  "jan feb mar apr may jun jul aug sep oct nov dec".toList

def broken : Text :=
  "j n feb mar apr may jun jul aug sep oct nov dec".toList

set_option maxRecDepth 8000 in
theorem compile_english : RuleSet.compile (source "month_3".toList english) columns =
    .ok (rules .month3 english) := by rfl

set_option maxRecDepth 8000 in
theorem compile_broken : RuleSet.compile (source "month_3".toList broken) columns =
    .ok (rules .month3 broken) := by rfl

theorem isDay_march : IsDay 2020 3 3 := by decide

def record : FileRecord :=
  { name := ['x'], isDir := false, isHidden := false, isLink := false, size := 0
    modified := none, extension := none, values := [.text ['x'], .date ⟨2020, 3, 3, isDay_march⟩] }

/-- As the first name has a space in it, the second is read as that of March. -/
theorem parse_broken :
    RuleSet.compile (source "month_3".toList broken) columns = .ok (rules .month3 broken) ∧
      (MonthName.shortNames broken).Pairwise (fun a b => Text.sameLetters a b = false) ∧
      (MonthName.shortNames broken)[0]? = some "j n".toList ∧
      (MonthName.shortNames broken)[1]? = some "feb".toList ∧
      parse (rules .month3 broken) "feb 3 2020 x\n".toList context = .ok [record] :=
  ⟨compile_broken, by decide, by rfl, by rfl, by rfl⟩

theorem takes_english :
    let e := surroundings "feb 3 2020 x\n".toList
    Takes e [.listedMonth .month3 1 english] "feb".toList " 3 2020 x\n".toList start
        (start.setMonth 1 2) ∧
      ¬ ∀ n name rest, (MonthName.shortNames broken)[n]? = some name → Stops isAlphabetic rest →
        Takes e [.listedMonth .month3 1 broken] name rest start (start.setMonth 1 (n + 1)) := by
  intro e
  have hmem (names : Text) : rule .month3 names ∈ (rules .month3 names).rules :=
    List.mem_singleton_self _
  have hcall (names : Text) : .listedMonth .month3 1 names ∈ (rule .month3 names).calls :=
    List.mem_cons_self
  have hall := takes_month3_iff (e := e) (f := start) compile_english rfl (hmem english)
    (hcall english) Row.typed_empty
  have hnone := takes_month3_iff (e := e) (f := start) compile_broken rfl (hmem broken)
    (hcall broken) Row.typed_empty
  constructor
  · have hshort : (MonthName.shortNames english).all
        (fun name => name.length == 3 && name.all isVisible) = true := by decide
    refine (hall.2 (by decide)).2 (fun name hname => ?_) 1 _ _ (by rfl) (stops_cons (by decide))
    simpa using List.all_eq_true.1 hshort name hname
  · intro h
    have hfirst := (hnone.2 (by decide)).1 h "j n".toList (by decide)
    exact absurd (hfirst.2 ' ' (by decide)) (by decide)

end NamedMonths

end Listing

end ListingRules
