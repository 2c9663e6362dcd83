import ListingRules.Listing.Reading
import ListingRules.Proofs.Bytewise.Bytes
import ListingRules.Proofs.NonemptyLines

namespace ListingRules

namespace Bytewise

theorem any_utf8EncodeChar (c : Char) :
    (String.utf8EncodeChar c).any isVisibleByte = Text.isVisible c := by
  by_cases hc : IsAscii c
  · rw [encode_of_isAscii hc, ← lead_of_isAscii hc, List.any_cons, isVisibleByte_lead]
    exact Bool.or_false _
  · have hlead := isVisibleByte_of_le (le_lead hc)
    rw [← isVisibleByte_lead, hlead, List.any_eq_true]
    have hpos : 0 < (String.utf8EncodeChar c).length := by
      rw [String.length_utf8EncodeChar]
      exact c.utf8Size_pos
    obtain ⟨b, bs, hb⟩ := List.exists_cons_of_length_pos hpos
    exact ⟨b, by simp [hb], isVisibleByte_of_le (le_of_mem_encode hc (by simp [hb]))⟩

theorem any_bytes (t : Text) : (bytes t).any isVisibleByte = t.any Text.isVisible := by
  induction t with
  | nil => rfl
  | cons c t ih => rw [bytes_cons, List.any_append, any_utf8EncodeChar, ih, List.any_cons]

end Bytewise

namespace Listing

open Text (isVisible byteCount)
open Bytewise (bytes isVisibleByte)

namespace Line

def isSeen (l : Line) : Bool :=
  (bytes l.text).any isVisibleByte

theorem Precedes.isSeen_eq {l : Line} {rest : Text} (h : l.Precedes rest) :
    l.isSeen = l.content.any isVisible := by
  rw [isSeen, Bytewise.any_bytes, h.any_isVisible]

def span (l : Line) (start : Nat) : Span :=
  ⟨start, l.spanStop start⟩

theorem byteCount_pos_of_isSeen {l : Line} (h : l.isSeen = true) : 0 < byteCount l.text := by
  refine Nat.pos_of_ne_zero fun hzero => ?_
  have hnil : l.text = [] := Text.byteCount_eq_zero_iff.1 hzero
  simp [isSeen, hnil, bytes] at h

end Line

def seenSpans (start : Nat) : List Line → List Span
  | [] => []
  | l :: more =>
      let later := seenSpans (start + byteCount l.text) more
      if l.isSeen then l.span start :: later else later

section Spans

variable {start : Nat} {l : Line} {ls before after : List Line}

theorem seenSpans_append (start : Nat) (a b : List Line) :
    seenSpans start (a ++ b) =
      seenSpans start a ++ seenSpans (start + byteCount (a.flatMap Line.text)) b := by
  induction a generalizing start with
  | nil => rfl
  | cons l a ih =>
      simp only [List.cons_append, seenSpans, ih, List.flatMap_cons, Text.byteCount_append,
        Nat.add_assoc]
      split <;> rfl

theorem seenSpans_eq_nil_iff : seenSpans start ls = [] ↔ ∀ l ∈ ls, l.isSeen = false := by
  induction ls generalizing start with
  | nil => simp [seenSpans]
  | cons l ls ih =>
      cases hl : l.isSeen with
      | true => simp [seenSpans, hl]
      | false => simpa [seenSpans, hl] using ih

theorem length_seenSpans (start : Nat) (ls : List Line) :
    (seenSpans start ls).length = ls.countP Line.isSeen := by
  induction ls generalizing start with
  | nil => rfl
  | cons l ls ih =>
      cases hl : l.isSeen with
      | true => simp [seenSpans, hl, ih]
      | false => simp [seenSpans, hl, ih]

theorem start_le_of_mem_seenSpans {s : Span} (h : s ∈ seenSpans start ls) : start ≤ s.start := by
  induction ls generalizing start with
  | nil => cases h
  | cons l ls ih =>
      simp only [seenSpans] at h
      split at h
      · rcases List.mem_cons.1 h with rfl | hs
        · exact Nat.le_refl _
        · exact Nat.le_trans (Nat.le_add_right _ _) (ih hs)
      · exact Nat.le_trans (Nat.le_add_right _ _) (ih h)

theorem pairwise_seenSpans (start : Nat) (ls : List Line) :
    (seenSpans start ls).Pairwise fun a b => a.start < b.start := by
  induction ls generalizing start with
  | nil => exact .nil
  | cons l ls ih =>
      simp only [seenSpans]
      split
      · rename_i hl
        refine .cons (fun s hs => ?_) (ih _)
        have hle := start_le_of_mem_seenSpans hs
        have hpos := l.byteCount_pos_of_isSeen hl
        simp only [Line.span]
        omega
      · exact ih _

theorem head?_eq_getLast?_iff :
    (∃ s, (seenSpans start ls).head? = some s ∧ (seenSpans start ls).getLast? = some s) ↔
      ls.countP Line.isSeen = 1 := by
  rw [← length_seenSpans start, List.length_eq_one_iff]
  have hpairwise := pairwise_seenSpans start ls
  constructor
  · rintro ⟨s, hhead, hlast⟩
    obtain ⟨more, hmore⟩ := List.head?_eq_some_iff.1 hhead
    rw [hmore] at hpairwise hlast ⊢
    cases more with
    | nil => exact ⟨s, rfl⟩
    | cons x more =>
        rw [List.getLast?_cons_cons] at hlast
        have hlt := (List.pairwise_cons.1 hpairwise).1 s (List.mem_of_getLast? hlast)
        exact absurd hlt (Nat.lt_irrefl _)
  · rintro ⟨s, hs⟩
    exact ⟨s, by simp [hs], by simp [hs]⟩

theorem seenSpans_first (hbefore : ∀ m ∈ before, m.isSeen = false) (hl : l.isSeen = true) :
    (seenSpans start (before ++ l :: after)).head? =
      some (l.span (start + byteCount (before.flatMap Line.text))) := by
  rw [seenSpans_append, seenSpans_eq_nil_iff.2 hbefore]
  simp [seenSpans, hl]

theorem seenSpans_last (hafter : ∀ m ∈ after, m.isSeen = false) (hl : l.isSeen = true) :
    (seenSpans start (before ++ l :: after)).getLast? =
      some (l.span (start + byteCount (before.flatMap Line.text))) := by
  rw [seenSpans_append, seenSpans, seenSpans_eq_nil_iff.2 hafter]
  simp [hl]

theorem exists_first (h : ∃ l ∈ ls, l.isSeen = true) :
    ∃ before l after, ls = before ++ l :: after ∧ (∀ m ∈ before, m.isSeen = false) ∧
      l.isSeen = true := by
  obtain ⟨l, hl⟩ := Option.isSome_iff_exists.1 (List.find?_isSome.2 h)
  obtain ⟨hseen, before, after, hls, hbefore⟩ := List.find?_eq_some_iff_append.1 hl
  exact ⟨before, l, after, hls, fun m hm => by simpa using hbefore m hm, hseen⟩

theorem exists_last (h : ∃ l ∈ ls, l.isSeen = true) :
    ∃ before l after, ls = before ++ l :: after ∧ (∀ m ∈ after, m.isSeen = false) ∧
      l.isSeen = true := by
  have hrev : ∃ l ∈ ls.reverse, l.isSeen = true := by simpa using h
  obtain ⟨after, l, before, hls, hafter, hl⟩ := exists_first hrev
  refine ⟨before.reverse, l, after.reverse, ?_, fun m hm => hafter m (List.mem_reverse.1 hm), hl⟩
  simpa using congrArg List.reverse hls

theorem exists_isSeen_of_ne_nil (h : seenSpans start ls ≠ []) : ∃ l ∈ ls, l.isSeen = true := by
  refine Decidable.byContradiction fun hno => h (seenSpans_eq_nil_iff.2 fun l hl => ?_)
  exact Bool.eq_false_iff.2 fun hseen => hno ⟨l, hl, hseen⟩

end Spans

section Scans

variable {u v : Text}

theorem firstNonemptyFrom_eq (t : Text) (start : Nat) :
    firstNonemptyFrom start start false t = (seenSpans start (lines t)).head? := by
  induction t using Line.induction generalizing start with
  | nil => rfl
  | line l rest hl ih =>
      rw [firstNonemptyFrom_line hl, hl.lines_eq, seenSpans, hl.isSeen_eq, ih]
      split <;> rfl

theorem lastNonemptyFrom_eq {size : Nat} (h : v ≠ [] → Parted u v)
    (hsize : byteCount (u ++ v) = size) :
    ∃ stop, (v = [] → stop = size + 1) ∧
      lastNonemptyFrom (size + 1) size false (u ++ v).reverse =
        (seenSpans (byteCount u) (lines v)).getLast?.or
          (lastNonemptyFrom stop (byteCount u) false u.reverse) := by
  induction v using Line.induction generalizing u with
  | nil =>
      rw [List.append_nil] at hsize ⊢
      exact ⟨_, fun _ => rfl, by rw [hsize]; rfl⟩
  | line l rest hl ih =>
      have hu : Parted u (l.text ++ rest) := h (by simp [hl.text_ne_nil])
      have hne : l.text ++ rest ≠ [] := by simp [hl.text_ne_nil]
      rw [← List.append_assoc] at hsize ⊢
      obtain ⟨stop, hstop, hscan⟩ := ih (hl.append_parted u) hsize
      rw [hscan, hl.lines_eq, lastNonemptyFrom_line hl hu, Text.byteCount_append u l.text,
        Nat.add_sub_cancel, seenSpans, hl.isSeen_eq]
      cases hcontent : l.content.any isVisible with
      | false => exact ⟨_, fun hnil => absurd hnil hne, rfl⟩
      | true =>
          have hspan : (if l.ending = [] then stop else byteCount u + byteCount l.text) =
              l.spanStop (byteCount u) := by
            rw [Line.spanStop]
            split
            · rename_i hnil
              obtain rfl := hl.rest_eq_nil hnil
              rw [hstop rfl, ← hsize]
              simp
            · rfl
          refine ⟨stop, fun hnil => absurd hnil hne, ?_⟩
          rw [lastNonemptyFrom_border fun x hx => (hu x hx).1, hspan]
          cases hlater : (seenSpans (byteCount u + byteCount l.text) (lines rest)).getLast? <;>
            simp [hlater, List.getLast?_cons, Line.span]

theorem first_ofText (t : Text) :
    (NonemptyLines.ofText t).first = (seenSpans 0 (lines t)).head? :=
  firstNonemptyFrom_eq t 0

theorem last_ofText (t : Text) :
    (NonemptyLines.ofText t).last = (seenSpans 0 (lines t)).getLast? := by
  obtain ⟨stop, -, hscan⟩ := lastNonemptyFrom_eq (u := []) (v := t) (fun _ => by simp [Parted]) rfl
  rw [List.nil_append] at hscan
  exact hscan.trans (by simp [lastNonemptyFrom])

theorem seenSpans_lines_eq_nil_iff {t : Text} :
    seenSpans 0 (lines t) = [] ↔ ∀ b ∈ bytes t, b ≤ ' '.toUInt8 := by
  have hbytes : bytes t = (lines t).flatMap fun l => bytes l.text := by
    rw [bytes, ← flatMap_text_lines t, List.flatMap_assoc, flatMap_text_lines]
    rfl
  simp only [seenSpans_eq_nil_iff, hbytes, List.mem_flatMap, Line.isSeen, List.any_eq_false,
    isVisibleByte, decide_eq_true_eq, UInt8.not_lt, forall_exists_index, and_imp]
  exact ⟨fun h b l hl hb => h l hl b hb, fun h l hl b hb => h b l hl hb⟩

end Scans

def Line.Holds (l : Line) (before : List Line) (c : Cursor) : Prop :=
  let start := byteCount (before.flatMap Line.text)
  start ≤ c.offset ∧ (c.offset < start + byteCount l.text ∨ l.ending = [] ∧ c.ahead = [])

theorem after_eq_nil_of_ending {t : Text} {before after : List Line} {l : Line}
    (h : lines t = before ++ l :: after) (hl : l.ending = []) : after = [] := by
  induction t using Line.induction generalizing before with
  | nil => simp [lines] at h
  | line m rest hm ih =>
      rw [hm.lines_eq] at h
      cases before with
      | nil =>
          obtain ⟨rfl, hrest⟩ := List.cons.inj h
          rw [← hrest, hm.rest_eq_nil hl]
          rfl
      | cons _ before => exact ih (List.cons.inj h).2

theorem Span.contains_iff {s : Span} {offset : Nat} :
    s.contains offset = true ↔ s.start ≤ offset ∧ offset < s.stop := by
  simp [Span.contains]

theorem contains_span_iff {c : Cursor} {before after : List Line} {l : Line}
    (h : lines c.text = before ++ l :: after) :
    (l.span (byteCount (before.flatMap Line.text))).contains c.offset = true ↔
      l.Holds before c := by
  have hsize := congrArg byteCount (flatMap_text_lines c.text)
  rw [h] at hsize
  simp only [List.flatMap_append, List.flatMap_cons, Text.byteCount_append, Cursor.text,
    Text.byteCount_reverse] at hsize
  have hahead : c.ahead = [] ↔ byteCount c.ahead = 0 := Text.byteCount_eq_zero_iff.symm
  rw [Span.contains_iff]
  simp only [Line.span, Line.spanStop, Line.Holds, hahead]
  split
  · rename_i hnil
    obtain rfl := after_eq_nil_of_ending h hnil
    simp only [List.flatMap_nil, Text.byteCount_nil] at hsize
    simp only [Cursor.offset, hnil, true_and]
    omega
  · rename_i hne
    simp [hne]

section Found

variable {c : Cursor} {before after : List Line} {l : Line}

theorem first_of_lines (h : lines c.text = before ++ l :: after)
    (hbefore : ∀ m ∈ before, m.isSeen = false) (hl : l.isSeen = true) :
    (NonemptyLines.ofText c.text).first =
      some (l.span (byteCount (before.flatMap Line.text))) := by
  rw [first_ofText, h, seenSpans_first hbefore hl, Nat.zero_add]

theorem last_of_lines (h : lines c.text = before ++ l :: after)
    (hafter : ∀ m ∈ after, m.isSeen = false) (hl : l.isSeen = true) :
    (NonemptyLines.ofText c.text).last =
      some (l.span (byteCount (before.flatMap Line.text))) := by
  rw [last_ofText, h, seenSpans_last hafter hl, Nat.zero_add]

theorem any_contains_iff {found : Option Span} {picks : List Line → Line → List Line → Prop}
    (hpicks : ∀ before l after, lines c.text = before ++ l :: after → picks before l after →
      found = some (l.span (byteCount (before.flatMap Line.text))))
    (hfound : found ≠ none →
      ∃ before l after, lines c.text = before ++ l :: after ∧ picks before l after) :
    found.any (·.contains c.offset) = true ↔
      ∃ before l after, lines c.text = before ++ l :: after ∧ picks before l after ∧
        l.Holds before c := by
  constructor
  · intro hany
    obtain ⟨before, l, after, h, hl⟩ := hfound (by rintro rfl; cases hany)
    rw [hpicks before l after h hl, Option.any_some, contains_span_iff h] at hany
    exact ⟨before, l, after, h, hl, hany⟩
  · rintro ⟨before, l, after, h, hl, hholds⟩
    rw [hpicks before l after h hl, Option.any_some, contains_span_iff h]
    exact hholds

end Found

/-- The two scans find the first and the last of the lines that are seen, and the conditions on the
place of an attempt ask about these lines. -/
theorem nonemptyLines_of_lines (s : ColumnSet) (context : Context) (a : Attempt) :
    let t := a.place.text
    let found := NonemptyLines.ofText t
    let e := Reading.surroundings s context t
    (found.first = (seenSpans 0 (lines t)).head? ∧
      found.last = (seenSpans 0 (lines t)).getLast?) ∧
    ((found.first = none ↔ ∀ b ∈ bytes t, b ≤ ' '.toUInt8) ∧
      (found.last = none ↔ ∀ b ∈ bytes t, b ≤ ' '.toUInt8)) ∧
    (boolOf? e a (.state .firstNonemptyLine) = some true ↔
      ∃ before l after, lines t = before ++ l :: after ∧ ((∀ m ∈ before, m.isSeen = false) ∧
        l.isSeen = true) ∧ l.Holds before a.place) ∧
    (boolOf? e a (.state .lastNonemptyLine) = some true ↔
      ∃ before l after, lines t = before ++ l :: after ∧ ((∀ m ∈ after, m.isSeen = false) ∧
        l.isSeen = true) ∧ l.Holds before a.place) ∧
    ((∃ span, found.first = some span ∧ found.last = some span) ↔
      (lines t).countP Line.isSeen = 1) := by
  intro t found e
  have hfirst : found.first = (seenSpans 0 (lines t)).head? := first_ofText t
  have hlast : found.last = (seenSpans 0 (lines t)).getLast? := last_ofText t
  refine ⟨⟨hfirst, hlast⟩, ⟨?_, ?_⟩, ?_, ?_, ?_⟩
  · rw [hfirst, List.head?_eq_none_iff, seenSpans_lines_eq_nil_iff]
  · rw [hlast, List.getLast?_eq_none_iff, seenSpans_lines_eq_nil_iff]
  · refine Option.some_inj.trans (any_contains_iff ?_ fun (hne : found.first ≠ none) => ?_)
    · exact fun before l after h hl => first_of_lines h hl.1 hl.2
    · rw [hfirst, ne_eq, List.head?_eq_none_iff] at hne
      exact exists_first (exists_isSeen_of_ne_nil hne)
  · refine Option.some_inj.trans (any_contains_iff ?_ fun (hne : found.last ≠ none) => ?_)
    · exact fun before l after h hl => last_of_lines h hl.1 hl.2
    · rw [hlast, ne_eq, List.getLast?_eq_none_iff] at hne
      exact exists_last (exists_isSeen_of_ne_nil hne)
  · rw [hfirst, hlast]
    exact head?_eq_getLast?_iff

example : NonemptyLines.ofText "\n  \ntotal 4\r\nfile\n\n".toList =
    ⟨some ⟨4, 13⟩, some ⟨13, 18⟩⟩ := by
  decide

end Listing

end ListingRules
