import ListingRules.Proofs.WholeLines

namespace ListingRules.Listing

open Text (isLineEnd isVisible byteCount)

theorem isVisible_of_isLineEnd {c : Char} (h : isLineEnd c = true) : isVisible c = false := by
  simp [isVisible, Text.isSpace_of_isLineEnd h]

namespace Line

variable {l : Line} {rest : Text}

theorem Precedes.any_isVisible (h : l.Precedes rest) :
    l.text.any isVisible = l.content.any isVisible := by
  have hending : l.ending.any isVisible = false := by
    rcases h.ending with ⟨hnil, -⟩ | hlf | hcrlf | ⟨hcr, -⟩
    · simp [hnil]
    · rw [hlf]; decide
    · rw [hcrlf]; decide
    · rw [hcr]; decide
  rw [text, List.any_append, hending, Bool.or_false]

theorem byteCount_text (l : Line) :
    byteCount l.text = byteCount l.content + byteCount l.ending := by
  simp [text]

theorem byteCount_ending_pos (h : l.ending ≠ []) : 0 < byteCount l.ending :=
  Nat.pos_of_ne_zero fun h0 => h (Text.byteCount_eq_zero_iff.1 h0)

def spanStop (l : Line) (start : Nat) : Nat :=
  if l.ending = [] then start + byteCount l.text + 1 else start + byteCount l.text

theorem lt_spanStop {start offset : Nat} (h : offset ≤ start + byteCount l.content) :
    offset < l.spanStop start := by
  rw [spanStop, byteCount_text]
  split
  · omega
  · rename_i hne
    have hpos := byteCount_ending_pos hne
    omega

end Line

section First

variable {start offset : Nat} {nonempty : Bool} {u v : Text}

theorem firstNonemptyFrom_content {a : Text} (ha : ∀ x ∈ a, isLineEnd x = false) (t : Text) :
    firstNonemptyFrom start offset nonempty (a ++ t) =
      firstNonemptyFrom start (offset + byteCount a) (nonempty || a.any isVisible) t := by
  induction a generalizing offset nonempty with
  | nil => simp
  | cons c a ih =>
      have hc := ha c List.mem_cons_self
      have hcr : ∀ t', c = '\r' → a ++ t = '\n' :: t' → False := by
        rintro t' rfl
        simp [isLineEnd] at hc
      rw [List.cons_append, firstNonemptyFrom.eq_3 start offset nonempty c (a ++ t) hcr,
        if_neg (by simp [hc]), ih fun x hx => ha x (List.mem_cons_of_mem c hx)]
      simp [Bool.or_assoc, Nat.add_assoc]

theorem firstNonemptyFrom_lineEnd {c : Char} {t : Text} (hc : isLineEnd c = true)
    (h : ¬(c = '\r' ∧ t.head? = some '\n')) :
    firstNonemptyFrom start offset nonempty (c :: t) =
      if nonempty then some ⟨start, offset + 1⟩
      else firstNonemptyFrom (offset + 1) (offset + 1) false t := by
  have hcr : ∀ t', c = '\r' → t = '\n' :: t' → False := by
    rintro t' rfl rfl
    exact h ⟨rfl, rfl⟩
  exact (firstNonemptyFrom.eq_3 start offset nonempty c t hcr).trans (if_pos hc)

theorem firstNonemptyFrom_line {l : Line} {rest : Text} (h : l.Precedes rest) (start : Nat) :
    firstNonemptyFrom start start false (l.text ++ rest) =
      if l.content.any isVisible then some ⟨start, l.spanStop start⟩
      else firstNonemptyFrom (start + byteCount l.text) (start + byteCount l.text) false rest := by
  have hlfBytes : byteCount ['\n'] = 1 := by decide
  have hcrBytes : byteCount ['\r'] = 1 := by decide
  have hbothBytes : byteCount ['\r', '\n'] = 2 := by decide
  rw [Line.text, List.append_assoc, firstNonemptyFrom_content h.content, Bool.false_or,
    Line.spanStop, Line.byteCount_text]
  rcases h.ending with ⟨hnil, -, rfl⟩ | hlf | hcrlf | ⟨hcr, hrest⟩
  · simp [hnil, firstNonemptyFrom]
  · rw [hlf, List.singleton_append, firstNonemptyFrom_lineEnd rfl (by simp)]
    simp only [Text.byteCount_append, hlfBytes, reduceCtorEq, ↓reduceIte, Nat.add_assoc]
  · rw [hcrlf]
    simp only [List.cons_append, List.nil_append, firstNonemptyFrom, Text.byteCount_append,
      hbothBytes, reduceCtorEq, ↓reduceIte, Nat.add_assoc]
  · rw [hcr, List.singleton_append, firstNonemptyFrom_lineEnd rfl fun hlf => hrest hlf.2]
    simp only [Text.byteCount_append, hcrBytes, reduceCtorEq, ↓reduceIte, Nat.add_assoc]

theorem le_start_of_firstNonemptyFrom {t : Text} {s : Span} (hle : start ≤ offset)
    (h : firstNonemptyFrom start offset nonempty t = some s) : start ≤ s.start := by
  fun_induction firstNonemptyFrom start offset nonempty t with
  | case1 => obtain rfl := Option.some.inj h; exact Nat.le_refl _
  | case2 => simp at h
  | case3 => obtain rfl := Option.some.inj h; exact Nat.le_refl _
  | case4 start offset nonempty t hn ih =>
      have := ih (Nat.le_refl _) h
      omega
  | case5 => obtain rfl := Option.some.inj h; exact Nat.le_refl _
  | case6 start offset nonempty c t hcr hc hn ih =>
      have := ih (Nat.le_refl _) h
      omega
  | case7 start offset nonempty c t hcr hc ih => exact ih (by omega) h

theorem firstNonemptyFrom_append (h : Parted u v) (start : Nat) :
    (u.any isVisible = true ∧ ∃ s, firstNonemptyFrom start start false (u ++ v) = some s ∧
        s.stop ≤ start + byteCount u) ∨
      (u.any isVisible = false ∧ firstNonemptyFrom start start false (u ++ v) =
        firstNonemptyFrom (start + byteCount u) (start + byteCount u) false v) := by
  induction u using Line.induction generalizing start with
  | nil => exact .inr ⟨rfl, rfl⟩
  | line l rest hl ih =>
      have hne := hl.ending_ne_nil h
      rw [List.append_assoc, firstNonemptyFrom_line (hl.append h), List.any_append,
        hl.any_isVisible, Text.byteCount_append]
      cases hcontent : l.content.any isVisible with
      | true =>
          refine .inl ⟨rfl, _, if_pos rfl, ?_⟩
          simp only [Line.spanStop, if_neg hne]
          omega
      | false =>
          rw [if_neg Bool.false_ne_true, Bool.false_or, ← Nat.add_assoc]
          exact ih h.of_append _

theorem first_contains {before rest : Text} {l : Line} (hl : l.Precedes rest)
    (hb : Parted before (l.text ++ rest)) (hlow : byteCount before ≤ offset)
    (hhigh : offset ≤ byteCount before + byteCount l.content) :
    (firstNonemptyFrom 0 0 false (before ++ (l.text ++ rest))).any (·.contains offset) =
      (!before.any isVisible && l.content.any isVisible) := by
  rcases firstNonemptyFrom_append hb 0 with ⟨hseen, s, hs, hstop⟩ | ⟨hseen, hs⟩
  · have hout : ¬ offset < s.stop := by omega
    simp [hs, hseen, Span.contains, hout]
  · rw [hs, Nat.zero_add, firstNonemptyFrom_line hl, hseen]
    cases hcontent : l.content.any isVisible with
    | true =>
        have hlt := Line.lt_spanStop hhigh
        simp [Span.contains, hlow, hlt]
    | false =>
        cases hlater : firstNonemptyFrom (byteCount before + byteCount l.text)
            (byteCount before + byteCount l.text) false rest with
        | none => simp
        | some s =>
            have hstart := le_start_of_firstNonemptyFrom (Nat.le_refl _) hlater
            have hne : l.ending ≠ [] := fun hnil => by
              simp [hl.rest_eq_nil hnil, firstNonemptyFrom] at hlater
            have hpos := Line.byteCount_ending_pos hne
            rw [Line.byteCount_text] at hstart
            have hout : ¬ s.start ≤ offset := by omega
            simp [Span.contains, hout]

end First

section Last

variable {stop offset : Nat} {nonempty : Bool} {u v : Text}

theorem lastNonemptyFrom_content {a : Text} (ha : ∀ x ∈ a, isLineEnd x = false) (w : Text) :
    lastNonemptyFrom stop offset nonempty (a ++ w) =
      lastNonemptyFrom stop (offset - byteCount a) (nonempty || a.any isVisible) w := by
  induction a generalizing offset nonempty with
  | nil => simp
  | cons c a ih =>
      have hc := ha c List.mem_cons_self
      have hlf : ∀ w', c = '\n' → a ++ w = '\r' :: w' → False := by
        rintro w' rfl
        simp [isLineEnd] at hc
      rw [List.cons_append, lastNonemptyFrom.eq_3 stop offset nonempty c (a ++ w) hlf,
        if_neg (by simp [hc]), ih fun x hx => ha x (List.mem_cons_of_mem c hx)]
      simp [Bool.or_assoc, Nat.sub_sub]

theorem lastNonemptyFrom_lineEnd {c : Char} {w : Text} (hc : isLineEnd c = true)
    (h : ¬(c = '\n' ∧ w.head? = some '\r')) :
    lastNonemptyFrom stop offset nonempty (c :: w) =
      if nonempty then some ⟨offset, stop⟩ else lastNonemptyFrom offset (offset - 1) false w := by
  have hlf : ∀ w', c = '\n' → w = '\r' :: w' → False := by
    rintro w' rfl rfl
    exact h ⟨rfl, rfl⟩
  exact (lastNonemptyFrom.eq_3 stop offset nonempty c w hlf).trans (if_pos hc)

theorem lastNonemptyFrom_ending {l : Line} {rest w : Text} (h : l.Precedes rest)
    (hw : ¬(l.ending = ['\n'] ∧ w.head? = some '\r')) :
    lastNonemptyFrom stop offset false (l.ending.reverse ++ w) =
      lastNonemptyFrom (if l.ending = [] then stop else offset) (offset - byteCount l.ending)
        false w := by
  have hlfBytes : byteCount ['\n'] = 1 := by decide
  have hcrBytes : byteCount ['\r'] = 1 := by decide
  have hbothBytes : byteCount ['\r', '\n'] = 2 := by decide
  rcases h.ending with ⟨hnil, -⟩ | hlf | hcrlf | ⟨hcr, -⟩
  · simp [hnil]
  · rw [hlf, hlfBytes]
    exact lastNonemptyFrom_lineEnd rfl fun hx => hw ⟨hlf, hx.2⟩
  · rw [hcrlf, hbothBytes]
    exact lastNonemptyFrom.eq_2 stop offset false w
  · rw [hcr, hcrBytes]
    exact lastNonemptyFrom_lineEnd rfl (by simp)

theorem lastNonemptyFrom_line {l : Line} {rest : Text} (h : l.Precedes rest)
    (hu : Parted u (l.text ++ rest)) :
    lastNonemptyFrom stop offset false (u ++ l.text).reverse =
      lastNonemptyFrom (if l.ending = [] then stop else offset) (offset - byteCount l.text)
        (l.content.any isVisible) u.reverse := by
  have hw : ¬(l.ending = ['\n'] ∧ (l.content.reverse ++ u.reverse).head? = some '\r') := by
    rintro ⟨hlf, hcr⟩
    rw [List.head?_append, List.head?_reverse, List.head?_reverse] at hcr
    by_cases hcontent : l.content = []
    · rw [hcontent, List.getLast?_nil, Option.none_or] at hcr
      exact (hu '\r' hcr).2 ⟨rfl, by simp [Line.text, hcontent, hlf]⟩
    · rw [List.getLast?_eq_some_getLast hcontent, Option.some_or, Option.some.injEq] at hcr
      simpa [hcr, isLineEnd] using h.content _ (List.getLast_mem hcontent)
  have hreverse : ∀ x ∈ l.content.reverse, isLineEnd x = false :=
    fun x hx => h.content x (List.mem_reverse.1 hx)
  rw [Line.text, List.reverse_append, List.reverse_append, List.append_assoc,
    lastNonemptyFrom_ending h hw, lastNonemptyFrom_content hreverse]
  simp [Nat.sub_sub, Nat.add_comm]

theorem lastNonemptyFrom_border (hu : ∀ x ∈ u.getLast?, isLineEnd x = true) :
    lastNonemptyFrom stop (byteCount u) true u.reverse = some ⟨byteCount u, stop⟩ := by
  rw [← List.head?_reverse] at hu
  rw [← Text.byteCount_reverse u]
  generalize u.reverse = w at hu ⊢
  cases w with
  | nil => rfl
  | cons c w =>
      have hc := hu c rfl
      by_cases hcrlf : c = '\n' ∧ w.head? = some '\r'
      · obtain ⟨rfl, hcr⟩ := hcrlf
        obtain ⟨w, rfl⟩ := List.head?_eq_some_iff.1 hcr
        exact lastNonemptyFrom.eq_2 ..
      · rw [lastNonemptyFrom_lineEnd hc hcrlf, if_pos rfl]

theorem lastNonemptyFrom_congr (hu : ∀ x ∈ u.getLast?, isLineEnd x = true) (stop stop' : Nat) :
    lastNonemptyFrom stop offset false u.reverse =
      lastNonemptyFrom stop' offset false u.reverse := by
  rw [← List.head?_reverse] at hu
  generalize u.reverse = w at hu ⊢
  cases w with
  | nil => rfl
  | cons c w =>
      have hc := hu c rfl
      by_cases hcrlf : c = '\n' ∧ w.head? = some '\r'
      · obtain ⟨rfl, hcr⟩ := hcrlf
        obtain ⟨w, rfl⟩ := List.head?_eq_some_iff.1 hcr
        simp only [lastNonemptyFrom, Bool.false_eq_true, ↓reduceIte]
      · rw [lastNonemptyFrom_lineEnd hc hcrlf, lastNonemptyFrom_lineEnd hc hcrlf]
        rfl

theorem stop_le_of_lastNonemptyFrom {w : Text} {s : Span} (hle : offset ≤ stop)
    (h : lastNonemptyFrom stop offset nonempty w = some s) : s.stop ≤ stop := by
  fun_induction lastNonemptyFrom stop offset nonempty w with
  | case1 => obtain rfl := Option.some.inj h; exact Nat.le_refl _
  | case2 => simp at h
  | case3 => obtain rfl := Option.some.inj h; exact Nat.le_refl _
  | case4 stop offset nonempty w hn ih =>
      have := ih (Nat.sub_le _ _) h
      omega
  | case5 => obtain rfl := Option.some.inj h; exact Nat.le_refl _
  | case6 stop offset nonempty c w hlf hc hn ih =>
      have := ih (Nat.sub_le _ _) h
      omega
  | case7 stop offset nonempty c w hlf hc ih => exact ih (by omega) h

theorem lastNonemptyFrom_append (h : v ≠ [] → Parted u v) (stop : Nat) :
    (v.any isVisible = true ∧
        ∃ s, lastNonemptyFrom stop (byteCount (u ++ v)) false (u ++ v).reverse = some s ∧
          byteCount u ≤ s.start) ∨
      (v.any isVisible = false ∧ ∃ stop', (v = [] → stop' = stop) ∧
        lastNonemptyFrom stop (byteCount (u ++ v)) false (u ++ v).reverse =
          lastNonemptyFrom stop' (byteCount u) false u.reverse) := by
  induction v using Line.induction generalizing u with
  | nil => exact .inr ⟨rfl, stop, fun _ => rfl, by simp⟩
  | line l rest hl ih =>
      have hu : Parted u (l.text ++ rest) := h (by simp [hl.text_ne_nil])
      rw [← List.append_assoc, List.any_append, hl.any_isVisible]
      rcases ih (hl.append_parted u) with ⟨hseen, s, hs, hstart⟩ | ⟨hseen, stop', -, hs⟩
      · rw [Text.byteCount_append] at hstart
        exact .inl ⟨by simp [hseen], s, hs, by omega⟩
      · rw [hs, lastNonemptyFrom_line hl hu, hseen, Bool.or_false, Text.byteCount_append u,
          Nat.add_sub_cancel]
        cases hcontent : l.content.any isVisible with
        | true =>
            exact .inl ⟨rfl, _, lastNonemptyFrom_border fun x hx => (hu x hx).1, Nat.le_refl _⟩
        | false =>
            exact .inr ⟨rfl, _, fun hnil => absurd hnil (by simp [hl.text_ne_nil]), rfl⟩

theorem last_contains {before rest : Text} {l : Line} (hl : l.Precedes rest)
    (hb : Parted before (l.text ++ rest)) (hlow : byteCount before ≤ offset)
    (hhigh : offset ≤ byteCount before + byteCount l.content) :
    let t := before ++ (l.text ++ rest)
    (lastNonemptyFrom (byteCount t + 1) (byteCount t) false t.reverse).any (·.contains offset) =
      (!rest.any isVisible && l.content.any isVisible) := by
  intro t
  have ht : t = before ++ l.text ++ rest := by simp [t]
  rw [ht]
  rcases lastNonemptyFrom_append (hl.append_parted before)
    (byteCount (before ++ l.text ++ rest) + 1) with
    ⟨hseen, s, hs, hstart⟩ | ⟨hseen, stop, hstop, hs⟩
  · have hne : l.ending ≠ [] := fun hnil => by simp [hl.rest_eq_nil hnil] at hseen
    have hpos := Line.byteCount_ending_pos hne
    rw [Text.byteCount_append, Line.byteCount_text] at hstart
    have hout : ¬ s.start ≤ offset := by omega
    rw [hs, hseen]
    simp [Span.contains, hout]
  · rw [hs, lastNonemptyFrom_line hl hb, Text.byteCount_append, Nat.add_sub_cancel, hseen]
    cases hcontent : l.content.any isVisible with
    | true =>
        rw [lastNonemptyFrom_border fun x hx => (hb x hx).1]
        have hlt :
            offset < if l.ending = [] then stop else byteCount before + byteCount l.text := by
          rw [Line.byteCount_text]
          split
          · rename_i hnil
            rw [hstop (hl.rest_eq_nil hnil), Text.byteCount_append, Text.byteCount_append,
              Line.byteCount_text]
            omega
          · rename_i hne
            have hpos := Line.byteCount_ending_pos hne
            omega
        simp [Span.contains, hlow, hlt]
    | false =>
        rw [lastNonemptyFrom_congr (fun x hx => (hb x hx).1) _ (byteCount before)]
        cases hearlier : lastNonemptyFrom (byteCount before) (byteCount before) false
            before.reverse with
        | none => simp
        | some s =>
            have hle := stop_le_of_lastNonemptyFrom (Nat.le_refl _) hearlier
            have hout : ¬ offset < s.stop := by omega
            simp [Span.contains, hout]

end Last

end ListingRules.Listing
