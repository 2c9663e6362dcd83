import ListingRules.Listing.Lines

namespace ListingRules.Listing

open Text (isLineEnd)

theorem lines_lineEnd {c : Char} {t : Text} (hc : isLineEnd c = true)
    (h : ¬(c = '\r' ∧ t.head? = some '\n')) : lines (c :: t) = ⟨[], [c]⟩ :: lines t := by
  have hcr : ∀ t', c = '\r' → t = '\n' :: t' → False := by
    rintro t' rfl rfl
    exact h ⟨rfl, rfl⟩
  exact (lines.eq_3 c t hcr).trans (if_pos hc)

theorem lines_content {c : Char} {t : Text} (hc : isLineEnd c = false) :
    lines (c :: t) = match lines t with
      | [] => [⟨[c], []⟩]
      | l :: more => l.cons c :: more := by
  have hcr : ∀ t', c = '\r' → t = '\n' :: t' → False := by
    rintro t' rfl
    simp [isLineEnd] at hc
  have hneg : ¬ isLineEnd c = true := by simp [hc]
  exact (lines.eq_3 c t hcr).trans (if_neg hneg)

theorem lines_ne_nil {t : Text} (h : t ≠ []) : lines t ≠ [] := by
  intro hl
  have ht := flatMap_text_lines t
  rw [hl] at ht
  exact h ht.symm

def Parted (a b : Text) : Prop :=
  ∀ x ∈ a.getLast?, isLineEnd x = true ∧ ¬(x = '\r' ∧ b.head? = some '\n')

theorem Parted.tail {c : Char} {a b : Text} (h : Parted (c :: a) b) : Parted a b := by
  intro x hx
  refine h x ?_
  cases a with
  | nil => simp at hx
  | cons d a => simpa [List.getLast?_cons_cons] using hx

theorem Parted.of_append {a b c : Text} (h : Parted (a ++ b) c) : Parted b c := by
  intro x hx
  refine h x ?_
  rw [List.getLast?_append, Option.mem_def.1 hx]
  rfl

theorem Parted.append {a b c : Text} (h : Parted b c) (hb : b ≠ []) : Parted (a ++ b) c := by
  intro x hx
  refine h x ?_
  rw [List.getLast?_append, List.getLast?_eq_some_getLast hb] at hx
  rwa [List.getLast?_eq_some_getLast hb]

theorem Parted.of_append_right {a b c : Text} (h : Parted a (b ++ c)) (hb : b ≠ []) :
    Parted a b := by
  obtain ⟨y, b, rfl⟩ := List.exists_cons_of_ne_nil hb
  exact h

theorem lines_append {a b : Text} (h : Parted a b) : lines (a ++ b) = lines a ++ lines b := by
  fun_induction lines a with
  | case1 => rfl
  | case2 t ih => simpa [lines] using ih h.tail.tail
  | case3 c t hcr hc ih =>
      have hn : ¬(c = '\r' ∧ (t ++ b).head? = some '\n') := by
        rintro ⟨rfl, hb⟩
        cases t with
        | nil => exact (h '\r' rfl).2 ⟨rfl, hb⟩
        | cons d t =>
            obtain rfl : d = '\n' := by simpa using hb
            exact hcr t rfl rfl
      rw [List.cons_append, lines_lineEnd hc hn, ih h.tail, List.cons_append]
  | case4 c t _ hc hl _ =>
      cases t with
      | nil => exact absurd (h c rfl).1 hc
      | cons d t => exact absurd hl (lines_ne_nil (List.cons_ne_nil d t))
  | case5 c t _ hc l more hl ih =>
      rw [List.cons_append, lines_content (by simpa using hc), ih h.tail, hl]
      rfl

theorem countLineEnds_lineEnd {c : Char} {t : Text} (hc : isLineEnd c = true)
    (h : ¬(c = '\r' ∧ t.head? = some '\n')) : countLineEnds (c :: t) = countLineEnds t + 1 := by
  have hcr : ∀ t', c = '\r' → t = '\n' :: t' → False := by
    rintro t' rfl rfl
    exact h ⟨rfl, rfl⟩
  exact (countLineEnds.eq_3 c t hcr).trans (if_pos hc)

theorem countLineEnds_content {a : Text} (ha : ∀ x ∈ a, isLineEnd x = false) (t : Text) :
    countLineEnds (a ++ t) = countLineEnds t := by
  induction a with
  | nil => rfl
  | cons c a ih =>
      have hc := ha c List.mem_cons_self
      have hcr : ∀ t', c = '\r' → a ++ t = '\n' :: t' → False := by
        rintro t' rfl
        simp [isLineEnd] at hc
      rw [List.cons_append, countLineEnds.eq_3 c (a ++ t) hcr, if_neg (by simp [hc])]
      exact ih fun x hx => ha x (List.mem_cons_of_mem c hx)

theorem countLineEnds_append {a b : Text} (h : Parted a b) :
    countLineEnds (a ++ b) = countLineEnds a + countLineEnds b := by
  fun_induction countLineEnds a with
  | case1 => simp
  | case2 t ih => simp [countLineEnds, ih h.tail.tail, Nat.add_right_comm]
  | case3 c t hcr hc ih =>
      have hn : ¬(c = '\r' ∧ (t ++ b).head? = some '\n') := by
        rintro ⟨rfl, hb⟩
        cases t with
        | nil => exact (h '\r' rfl).2 ⟨rfl, hb⟩
        | cons d t =>
            obtain rfl : d = '\n' := by simpa using hb
            exact hcr t rfl rfl
      rw [List.cons_append, countLineEnds_lineEnd hc hn, ih h.tail, Nat.add_right_comm]
  | case4 c t _ hc ih =>
      have hcontent : ∀ x ∈ [c], isLineEnd x = false := by simpa using hc
      exact (countLineEnds_content hcontent (t ++ b)).trans (ih h.tail)

namespace Line

structure Precedes (l : Line) (rest : Text) : Prop where
  content : ∀ x ∈ l.content, isLineEnd x = false
  ending : (l.ending = [] ∧ l.content ≠ [] ∧ rest = []) ∨ l.ending = ['\n'] ∨
    l.ending = ['\r', '\n'] ∨ l.ending = ['\r'] ∧ rest.head? ≠ some '\n'

variable {l : Line} {a b rest : Text}

theorem exists_precedes {t : Text} (h : t ≠ []) :
    ∃ l rest, t = l.text ++ rest ∧ Precedes l rest := by
  fun_induction lines t with
  | case1 => exact absurd rfl h
  | case2 t => exact ⟨⟨[], ['\r', '\n']⟩, t, rfl, by simp, by simp⟩
  | case3 c t hcr hc =>
      simp only [isLineEnd, Bool.or_eq_true, beq_iff_eq] at hc
      rcases hc with rfl | rfl
      · refine ⟨⟨[], ['\r']⟩, t, rfl, by simp, .inr (.inr (.inr ⟨rfl, fun hlf => ?_⟩))⟩
        obtain ⟨u, rfl⟩ : ∃ u, t = '\n' :: u := by
          cases t with
          | nil => simp at hlf
          | cons d u => exact ⟨u, by simpa using hlf⟩
        exact hcr u rfl rfl
      · exact ⟨⟨[], ['\n']⟩, t, rfl, by simp, by simp⟩
  | case4 c t _ hc hl =>
      cases t with
      | nil => exact ⟨⟨[c], []⟩, [], rfl, by simpa using hc, by simp⟩
      | cons d t => exact absurd hl (lines_ne_nil (List.cons_ne_nil d t))
  | case5 c t _ hc l more hl ih =>
      have ht : t ≠ [] := by
        rintro rfl
        simp [lines] at hl
      obtain ⟨l, rest, rfl, hprecedes⟩ := ih ht
      refine ⟨l.cons c, rest, rfl, ?_, ?_⟩
      · simpa [Line.cons, hc] using hprecedes.content
      · rcases hprecedes.ending with ⟨hend, -, hrest⟩ | hend
        · exact .inl ⟨hend, by simp [Line.cons], hrest⟩
        · exact .inr hend

theorem Precedes.text_ne_nil (h : l.Precedes rest) : l.text ≠ [] := by
  rcases h.ending with ⟨-, hne, -⟩ | hend | hend | ⟨hend, -⟩ <;> simp [text, *]

theorem induction {P : Text → Prop} (nil : P [])
    (line : ∀ (l : Line) (rest : Text), l.Precedes rest → P rest → P (l.text ++ rest)) (t : Text) :
    P t := by
  induction hn : t.length using Nat.strongRecOn generalizing t with
  | ind n ih =>
      by_cases ht : t = []
      · exact ht ▸ nil
      · obtain ⟨l, rest, rfl, hl⟩ := exists_precedes ht
        have hpos := List.length_pos_iff.2 hl.text_ne_nil
        rw [List.length_append] at hn
        exact line l rest hl (ih rest.length (by omega) rest rfl)

theorem Precedes.parted (h : l.Precedes rest) (hend : l.ending ≠ []) : Parted l.text rest := by
  intro x hx
  rcases h.ending with ⟨hnil, -⟩ | hlf | hcrlf | ⟨hcr, hrest⟩
  · exact absurd hnil hend
  · obtain rfl : x = '\n' := by simpa [text, hlf, eq_comm] using hx
    exact ⟨rfl, by simp⟩
  · obtain rfl : x = '\n' := by simpa [text, hcrlf, eq_comm] using hx
    exact ⟨rfl, by simp⟩
  · obtain rfl : x = '\r' := by simpa [text, hcr, eq_comm] using hx
    exact ⟨rfl, fun hlf => hrest hlf.2⟩

theorem Precedes.rest_eq_nil (h : l.Precedes rest) (hend : l.ending = []) : rest = [] := by
  rcases h.ending with ⟨-, -, hrest⟩ | hlf | hcrlf | ⟨hcr, -⟩
  · exact hrest
  all_goals simp_all

theorem Precedes.append_parted (h : l.Precedes rest) (a : Text) (hne : rest ≠ []) :
    Parted (a ++ l.text) rest :=
  (h.parted fun hend => hne (h.rest_eq_nil hend)).append h.text_ne_nil

theorem lines_content_append {c : Text} {t : Text} {m : Line} {more : List Line}
    (hc : ∀ x ∈ c, isLineEnd x = false) (ht : lines t = m :: more) :
    lines (c ++ t) = ⟨c ++ m.content, m.ending⟩ :: more := by
  induction c with
  | nil => exact ht
  | cons x c ih =>
      have hx := hc x List.mem_cons_self
      rw [List.cons_append, lines_content hx, ih fun y hy => hc y (List.mem_cons_of_mem x hy)]
      rfl

theorem lines_of_content {c : Text} (hc : ∀ x ∈ c, isLineEnd x = false) (hne : c ≠ []) :
    lines c = [⟨c, []⟩] := by
  induction c with
  | nil => exact absurd rfl hne
  | cons x c ih =>
      have hx := hc x List.mem_cons_self
      rw [lines_content hx]
      by_cases hc' : c = []
      · simp [hc', lines]
      · rw [ih (fun y hy => hc y (List.mem_cons_of_mem x hy)) hc']
        rfl

theorem Precedes.lines_eq (h : l.Precedes rest) : lines (l.text ++ rest) = l :: lines rest := by
  obtain ⟨content, ending⟩ := l
  have hending : ending = [] ∧ content ≠ [] ∧ rest = [] ∨
      lines (ending ++ rest) = ⟨[], ending⟩ :: lines rest := by
    rcases h.ending with hnil | hlf | hcrlf | ⟨hcr, hrest⟩
    · exact .inl hnil
    · obtain rfl : ending = ['\n'] := hlf
      exact .inr (lines_lineEnd rfl (by simp))
    · obtain rfl : ending = ['\r', '\n'] := hcrlf
      exact .inr (by simp [lines])
    · obtain rfl : ending = ['\r'] := hcr
      exact .inr (lines_lineEnd rfl fun hlf => hrest hlf.2)
  rcases hending with ⟨rfl, hne, rfl⟩ | hending
  · simpa [text, lines] using lines_of_content h.content hne
  · simpa [text] using lines_content_append h.content hending

theorem Precedes.isLineEnd_of_mem_ending {x : Char} (h : l.Precedes rest) (hx : x ∈ l.ending) :
    isLineEnd x = true := by
  rcases h.ending with ⟨hnil, -⟩ | hlf | hcrlf | ⟨hcr, -⟩
  · simp [hnil] at hx
  all_goals simp_all [isLineEnd]

theorem Precedes.ending_ne_nil (h : l.Precedes a) (hb : Parted (l.text ++ a) b) :
    l.ending ≠ [] := by
  intro hend
  rcases h.ending with ⟨-, hne, rfl⟩ | hlf | hcrlf | ⟨hcr, -⟩
  · have hlast : l.text.getLast? = some (l.content.getLast hne) := by
      simpa [text, hend] using List.getLast?_eq_some_getLast hne
    have hx := (hb _ (by simpa using hlast)).1
    simp [h.content _ (List.getLast_mem hne)] at hx
  all_goals simp_all

theorem Precedes.append (h : l.Precedes a) (hb : Parted (l.text ++ a) b) : l.Precedes (a ++ b) := by
  refine ⟨h.content, ?_⟩
  rcases h.ending with ⟨hnil, -⟩ | hlf | hcrlf | ⟨hcr, ha⟩
  · exact absurd hnil (h.ending_ne_nil hb)
  · exact .inr (.inl hlf)
  · exact .inr (.inr (.inl hcrlf))
  · refine .inr (.inr (.inr ⟨hcr, ?_⟩))
    cases a with
    | nil => exact fun hlf => (hb '\r' (by simp [text, hcr])).2 ⟨rfl, hlf⟩
    | cons y a => exact ha

theorem Precedes.countLineEnds_text (h : l.Precedes rest) (hend : l.ending ≠ []) :
    countLineEnds l.text = 1 := by
  rw [text, countLineEnds_content h.content]
  rcases h.ending with ⟨hnil, -⟩ | hlf | hcrlf | ⟨hcr, -⟩
  · exact absurd hnil hend
  · rw [hlf]; rfl
  · rw [hcrlf]; rfl
  · rw [hcr]; rfl

end Line

theorem countLineEnds_eq_length {a b : Text} (h : Parted a b) :
    countLineEnds a = (lines a).length := by
  induction a using Line.induction with
  | nil => rfl
  | line l rest hl ih =>
      have hend := hl.ending_ne_nil h
      rw [countLineEnds_append (hl.parted hend), hl.countLineEnds_text hend, hl.lines_eq,
        ih h.of_append, List.length_cons, Nat.add_comm]

end ListingRules.Listing
