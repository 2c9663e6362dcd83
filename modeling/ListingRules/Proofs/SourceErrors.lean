import ListingRules.Column.Set
import ListingRules.Proofs.Tokens
import ListingRules.Proofs.Walk
import ListingRules.SourceError

namespace ListingRules

namespace Cursor

def Onward (c d : Cursor) : Prop :=
  ∃ t, Spans c d t

def Past (c d : Cursor) : Prop :=
  ∃ t, t ≠ [] ∧ Spans c d t

variable {c d e : Cursor}

theorem Spans.refl (c : Cursor) : Spans c c [] :=
  ⟨rfl, rfl⟩

theorem Onward.refl (c : Cursor) : Onward c c :=
  ⟨[], .refl c⟩

theorem Onward.trans (h : Onward c d) (h' : Onward d e) : Onward c e := by
  obtain ⟨t, ht⟩ := h
  obtain ⟨u, hu⟩ := h'
  exact ⟨t ++ u, ht.trans hu⟩

theorem Onward.text_eq (h : Onward c d) : d.text = c.text := by
  obtain ⟨t, ht⟩ := h
  exact ht.text_eq

theorem Onward.length_le (h : Onward c d) : d.ahead.length ≤ c.ahead.length := by
  obtain ⟨t, ht⟩ := h
  rw [ht.1, List.length_append]
  omega

theorem Past.onward (h : Past c d) : Onward c d := by
  obtain ⟨t, -, ht⟩ := h
  exact ⟨t, ht⟩

theorem Past.text_eq (h : Past c d) : d.text = c.text :=
  h.onward.text_eq

theorem Past.length_lt (h : Past c d) : d.ahead.length < c.ahead.length := by
  obtain ⟨t, hne, ht⟩ := h
  have hpos := List.length_pos_iff.2 hne
  rw [ht.1, List.length_append]
  omega

theorem Onward.offset_le (h : Onward c d) : c.offset ≤ d.offset := by
  obtain ⟨t, ht⟩ := h
  rw [ht.offset_eq]
  exact Nat.le_add_right _ _

theorem Past.offset_lt (h : Past c d) : c.offset < d.offset := by
  obtain ⟨t, hne, ht⟩ := h
  exact ht.offset_lt hne

theorem Past.trans (h : Past c d) (h' : Onward d e) : Past c e := by
  obtain ⟨t, hne, ht⟩ := h
  obtain ⟨u, hu⟩ := h'
  exact ⟨t ++ u, by simp [hne], ht.trans hu⟩

theorem Onward.past (h : Onward c d) (h' : Past d e) : Past c e := by
  obtain ⟨t, ht⟩ := h
  obtain ⟨u, hne, hu⟩ := h'
  exact ⟨t ++ u, by simp [hne], ht.trans hu⟩

theorem onward_skipWhile (p : Char → Bool) (c : Cursor) : Onward c (c.skipWhile p) :=
  ⟨_, spans_skipWhile p c⟩

theorem onward_advance (n : Nat) (c : Cursor) : Onward c (advance n c) :=
  ⟨_, spans_advance n c⟩

theorem onward_next (c : Cursor) : Onward c c.next :=
  onward_advance 1 c

theorem past_next {x : Char} (h : c.ahead.head? = some x) : Past c c.next := by
  obtain ⟨t, ht⟩ := List.head?_eq_some_iff.1 h
  exact ⟨[x], by simp, spans_next ht⟩

theorem past_of_isIdentifier {t : Text} (ht : isIdentifier t = true) (h : Spans c d t) :
    Past c d := by
  refine ⟨t, ?_, h⟩
  rintro rfl
  simp [isIdentifier] at ht

theorem isIdentifier_takeWhile (h : c.ahead.head?.any isIdentifierStart = true) :
    isIdentifier (c.ahead.takeWhile isIdentifierPart) = true := by
  cases ha : c.ahead with
  | nil => simp [ha] at h
  | cons x t =>
      have hx : isIdentifierStart x = true := by simpa [ha] using h
      rw [List.takeWhile_cons_of_pos (isIdentifierPart_of_isIdentifierStart hx)]
      simp [isIdentifier, hx]

end Cursor

def SourceFault.Suits (fault : SourceFault) (known : SourceFault → Text → Bool)
    (marked after : Text) : Prop :=
  match fault with
  | .unknownFunction | .unknownColumn | .unknownStateVar =>
      isIdentifier marked = true ∧ Stops isIdentifierPart after ∧ known fault marked = false
  | .missingStringEnd => marked.head? = some '"'
  | .unknownEscape => ∃ x, marked = ['\\', x] ∧ Quoted.unescape? x = none
  | _ => True

def SourceFault.isPlain : SourceFault → Bool
  | .unknownFunction | .unknownColumn | .unknownStateVar | .missingStringEnd | .unknownEscape =>
      false
  | _ => true

theorem SourceFault.suits_of_isPlain {fault : SourceFault} (h : fault.isPlain = true)
    (known : SourceFault → Text → Bool) (marked after : Text) :
    fault.Suits known marked after := by
  cases fault <;> trivial

namespace SourceError

open Cursor (Onward Spans)

/-- The error marks whole characters of the source, which its fault suits. -/
def Marks (known : SourceFault → Text → Bool) (source : Text) (e : SourceError) : Prop :=
  ∃ before marked after, source = before ++ marked ++ after ∧
    e.offset = Text.byteCount before ∧ e.length = Text.byteCount marked ∧
    e.fault.Suits known marked after

variable {known : SourceFault → Text → Bool} {source : Text} {fault : SourceFault} {c d : Cursor}

theorem marks_between {t : Text} (hc : c.text = source) (h : Spans c d t)
    (hf : fault.Suits known t d.ahead) : (between fault c d).Marks known source := by
  refine ⟨c.behind.reverse, t, d.ahead, ?_, ?_, ?_, hf⟩
  · rw [← hc, Cursor.text, h.1, List.append_assoc]
  · simp [between, Cursor.offset]
  · simp [between, h.offset_eq]

theorem marks_plain (hf : fault.isPlain = true) (hc : c.text = source) (h : Onward c d) :
    (between fault c d).Marks known source := by
  obtain ⟨t, ht⟩ := h
  exact marks_between hc ht (fault.suits_of_isPlain hf known t d.ahead)

theorem marks_point (hf : fault.isPlain = true) (hc : c.text = source) :
    (point fault c).Marks known source :=
  marks_plain hf hc (.refl c)

theorem marks_here (hf : fault.isPlain = true) (hc : c.text = source) :
    (here fault c).Marks known source :=
  marks_plain hf hc (Cursor.onward_next c)

theorem Marks.with_detail {e : SourceError} (h : e.Marks known source) (detail : Option Text) :
    { e with detail }.Marks known source :=
  h

end SourceError

def Reports {ε α : Type} (P : ε → Prop) (Q : α → Prop) : Except ε α → Prop
  | .ok a => Q a
  | .error e => P e

namespace Reports

variable {ε α β : Type} {P : ε → Prop} {Q : α → Prop} {R : β → Prop} {x : Except ε α}

theorem bind {f : α → Except ε β} (hx : Reports P Q x)
    (hf : ∀ a, Q a → Reports P R (f a)) : Reports P R (x >>= f) := by
  cases x with
  | ok a => exact hf a hx
  | error e => exact hx

theorem map {f : α → β} (hx : Reports P Q x) (hf : ∀ a, Q a → R (f a)) :
    Reports P R (x.map f) := by
  cases x with
  | ok a => exact hf a hx
  | error e => exact hx

theorem of_true (x : Except ε α) : Reports (fun _ => True) (fun _ => True) x := by
  cases x <;> trivial

theorem mono {Q' : α → Prop} (hx : Reports P Q x) (h : ∀ a, Q a → Q' a) : Reports P Q' x := by
  cases x with
  | ok a => exact h a hx
  | error e => exact hx

theorem of_ok {a : α} (hx : Reports P Q x) (h : x = .ok a) : Q a := by
  subst h
  exact hx

theorem of_error {e : ε} (hx : Reports P Q x) (h : x = .error e) : P e := by
  subst h
  exact hx

end Reports

namespace Quoted

open Cursor (Onward Past Spans)
open SourceError (Marks)

def EndsBehind (c : Cursor) : Except Fault (Text × Cursor) → Prop
  | .ok (_, d) => Past c d
  | .error (.unclosed stop) => Onward c stop
  | .error (.unknownEscape d) =>
      Onward c d ∧ ∃ x t, d.ahead = '\\' :: x :: t ∧ unescape? x = none

theorem EndsBehind.map_of_onward {c d : Cursor} {r : Except Fault (Text × Cursor)}
    (h : EndsBehind d r) (hcd : Onward c d) (x : Char) :
    EndsBehind c (r.map fun (t, p) => (x :: t, p)) := by
  cases r with
  | ok read => exact hcd.past h
  | error fault =>
      cases fault with
      | unclosed stop => exact hcd.trans h
      | unknownEscape place => exact ⟨hcd.trans h.1, h.2⟩

theorem endsBehind_decodeFrom (behind ahead : Text) :
    EndsBehind ⟨behind, ahead⟩ (decodeFrom behind ahead) := by
  fun_induction decodeFrom behind ahead with
  | case1 behind => exact .refl _
  | case2 behind ahead => exact Cursor.past_next rfl
  | case3 behind x ahead c hx ih =>
      exact ih.map_of_onward (Cursor.onward_advance 2 ⟨behind, '\\' :: x :: ahead⟩) c
  | case4 behind x ahead hx => exact ⟨.refl _, x, ahead, rfl, hx⟩
  | case5 behind c ahead => exact .refl _
  | case6 behind c ahead _ _ _ ih =>
      exact ih.map_of_onward (Cursor.onward_next ⟨behind, c :: ahead⟩) c

theorem reports_decodeInSource {known : SourceFault → Text → Bool} {source : Text} {quote : Cursor}
    (hc : quote.text = source) (hq : quote.ahead.head? = some '"') :
    Reports (Marks known source) (fun r => Past quote r.2) (decodeInSource quote) := by
  obtain ⟨t, ht⟩ := List.head?_eq_some_iff.1 hq
  have hnext := Cursor.spans_next ht
  have hends := endsBehind_decodeFrom quote.next.behind quote.next.ahead
  rw [decodeInSource, decode]
  cases hr : decodeFrom quote.next.behind quote.next.ahead with
  | ok r =>
      rw [hr] at hends
      exact (Cursor.onward_next quote).past hends
  | error fault =>
      rw [hr] at hends
      cases fault with
      | unclosed stop =>
          obtain ⟨u, hu⟩ := hends
          exact SourceError.marks_between hc (hnext.trans hu) rfl
      | unknownEscape c =>
          obtain ⟨hon, x, u, hahead, hx⟩ := hends
          have hbackslash := Cursor.spans_next hahead
          have hescaped : c.next.ahead = x :: u := by
            have := hbackslash.1
            rw [hahead] at this
            exact (List.cons.inj this).2.symm
          refine SourceError.marks_between ?_ (hbackslash.trans (Cursor.spans_next hescaped))
            ⟨x, rfl, hx⟩
          exact hon.text_eq.trans ((Cursor.text_next quote).trans hc)

end Quoted

end ListingRules
