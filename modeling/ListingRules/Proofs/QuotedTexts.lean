import ListingRules.Proofs.CheckedRules
import ListingRules.Proofs.SourceErrors

namespace ListingRules.Quoted

open Cursor (Past Spans)

theorem ne_backslash {c : Char} {ahead : Text}
    (h : ∀ e more, c = '\\' → ahead = e :: more → False) (hne : ahead ≠ []) : c ≠ '\\' := by
  obtain ⟨e, more, rfl⟩ := List.exists_cons_of_ne_nil hne
  exact fun hc => h e more hc rfl

theorem exists_spans_of_decodeFrom {behind ahead t : Text} {d : Cursor}
    (h : decodeFrom behind ahead = .ok (t, d)) :
    ∃ q, Spans ⟨behind, ahead⟩ d q ∧
      ∀ u rest, decodeFrom u (q ++ rest) = .ok (t, ⟨q.reverse ++ u, rest⟩) := by
  fun_induction decodeFrom behind ahead generalizing t d with
  | case1 => cases h
  | case2 behind ahead =>
      cases h
      exact ⟨['"'], ⟨rfl, rfl⟩, fun u rest => rfl⟩
  | case3 behind e ahead c hc ih =>
      obtain ⟨⟨t, d⟩, hmore, heq⟩ := RuleSet.map_eq_ok.1 h
      cases heq
      obtain ⟨q, hspans, hq⟩ := ih hmore
      have hescape := (Cursor.spans_next (c := ⟨behind, '\\' :: e :: ahead⟩) rfl).trans
        (Cursor.spans_next (c := ⟨'\\' :: behind, e :: ahead⟩) rfl)
      refine ⟨'\\' :: e :: q, hescape.trans hspans, fun u rest => ?_⟩
      simp [decodeFrom, hc, hq, Except.map]
  | case4 => cases h
  | case5 => cases h
  | case6 behind c ahead hquote hbackslash hend ih =>
      obtain ⟨⟨t, d⟩, hmore, heq⟩ := RuleSet.map_eq_ok.1 h
      cases heq
      obtain ⟨q, hspans, hq⟩ := ih hmore
      have hraw := ne_backslash hbackslash (by rintro rfl; cases hmore)
      have hnext := Cursor.spans_next (c := ⟨behind, c :: ahead⟩) rfl
      refine ⟨c :: q, hnext.trans hspans, fun u rest => ?_⟩
      rw [List.cons_append, decodeFrom_raw hquote hraw (by simpa using hend), hq]
      simp [Except.map]

theorem exists_spans_of_decode {behind ahead t : Text} {d : Cursor}
    (h : decode ⟨behind, '"' :: ahead⟩ = .ok (t, d)) :
    ∃ q, Spans ⟨behind, '"' :: ahead⟩ d ('"' :: q) ∧
      ∀ u rest, decode ⟨u, '"' :: (q ++ rest)⟩ = .ok (t, ⟨q.reverse ++ '"' :: u, rest⟩) := by
  obtain ⟨q, hspans, hq⟩ := exists_spans_of_decodeFrom h
  have hnext := Cursor.spans_next (c := ⟨behind, '"' :: ahead⟩) rfl
  exact ⟨q, hnext.trans hspans, fun u rest => hq ('"' :: u) rest⟩

theorem isLineEnd_of_unescape? {e c : Char} (h : unescape? e = some c) :
    Text.isLineEnd e = false := by
  cases he : Text.isLineEnd e with
  | false => rfl
  | true =>
      simp only [Text.isLineEnd, Bool.or_eq_true, beq_iff_eq] at he
      rcases he with rfl | rfl <;> cases h

theorem past_closeFrom? {behind ahead : Text} {stop : Cursor}
    (h : closeFrom? behind ahead = some stop) :
    Past ⟨behind, ahead⟩ stop := by
  fun_induction closeFrom? behind ahead with
  | case1 => cases h
  | case2 behind ahead =>
      obtain rfl := Option.some.inj h
      exact Cursor.past_next rfl
  | case3 => cases h
  | case4 behind x ahead _ ih =>
      exact (Cursor.onward_advance 2 ⟨behind, '\\' :: x :: ahead⟩).past (ih h)
  | case5 => cases h
  | case6 behind x ahead _ _ _ ih => exact (Cursor.onward_next ⟨behind, x :: ahead⟩).past (ih h)

def Agrees (closed : Option Cursor) : Except Fault (Text × Cursor) → Prop
  | .ok (_, d) => closed = some d
  | .error (.unclosed _) => closed = none
  | .error (.unknownEscape d) => ∀ stop, closed = some stop → Past d.next.next stop

theorem Agrees.map {closed : Option Cursor} {r : Except Fault (Text × Cursor)}
    (h : Agrees closed r) (x : Char) : Agrees closed (r.map fun (t, d) => (x :: t, d)) := by
  cases r with
  | ok read => exact h
  | error fault => exact h

theorem agrees_decodeFrom (behind ahead : Text) :
    Agrees (closeFrom? behind ahead) (decodeFrom behind ahead) := by
  fun_induction decodeFrom behind ahead with
  | case1 => rfl
  | case2 => rfl
  | case3 behind x ahead c hx ih =>
      rw [closeFrom?, isLineEnd_of_unescape? hx]
      exact ih.map c
  | case4 behind x ahead hx =>
      intro stop hstop
      rw [closeFrom?] at hstop
      split at hstop
      · cases hstop
      · exact past_closeFrom? hstop
  | case5 behind x ahead hquote hbackslash hend =>
      rw [closeFrom?.eq_4 _ _ _ hquote hbackslash, if_pos hend]
      rfl
  | case6 behind x ahead hquote hbackslash hend ih =>
      rw [closeFrom?.eq_4 _ _ _ hquote hbackslash, if_neg hend]
      exact ih.map x

theorem closeFrom?_of_decodeFrom {behind ahead t : Text} {d : Cursor}
    (h : decodeFrom behind ahead = .ok (t, d)) : closeFrom? behind ahead = some d := by
  have hagrees := agrees_decodeFrom behind ahead
  rwa [h] at hagrees

theorem closeFrom?_append {behind q stop : Text} (h : closeFrom? behind q = some ⟨stop, []⟩)
    (u rest : Text) : closeFrom? u (q ++ rest) = some ⟨q.reverse ++ u, rest⟩ := by
  fun_induction closeFrom? behind q generalizing u with
  | case1 => cases h
  | case2 behind ahead =>
      obtain rfl : ahead = [] := congrArg Cursor.ahead (Option.some.inj h)
      rfl
  | case3 => cases h
  | case4 behind e ahead hend ih =>
      have hmore := ih h (e :: '\\' :: u)
      simpa [closeFrom?, hend] using hmore
  | case5 => cases h
  | case6 behind c ahead hquote hbackslash hend ih =>
      have hraw := ne_backslash hbackslash (by rintro rfl; cases h)
      rw [List.cons_append, closeFrom?_raw hquote hraw (by simpa using hend), ih h]
      simp

theorem decodeInSource_eq_ok_iff {c : Cursor} {r : Text × Cursor} :
    decodeInSource c = .ok r ↔ decode c = .ok r := by
  rw [decodeInSource]
  cases decode c with
  | ok r => simp
  | error e => cases e <;> simp

def IsQuoted (q : Text) : Prop :=
  q.head? = some '"' ∧ close? (Cursor.ofText q) = some ⟨q.reverse, []⟩

instance (q : Text) : Decidable (IsQuoted q) :=
  inferInstanceAs (Decidable (_ ∧ _))

namespace IsQuoted

variable {q : Text}

theorem exists_body (h : IsQuoted q) :
    ∃ body stop, q = '"' :: body ∧ closeFrom? ['"'] body = some ⟨stop, []⟩ := by
  obtain ⟨hhead, hclose⟩ := h
  cases q with
  | nil => cases hhead
  | cons x body =>
      obtain rfl := Option.some.inj hhead
      exact ⟨body, _, rfl, hclose⟩

theorem close?_append (h : IsQuoted q) (u rest : Text) :
    close? ⟨u, q ++ rest⟩ = some ⟨q.reverse ++ u, rest⟩ := by
  obtain ⟨body, stop, rfl, hclose⟩ := h.exists_body
  have hmore := closeFrom?_append hclose ('"' :: u) rest
  simpa [close?, Cursor.next] using hmore

theorem decodeInSource_append (h : IsQuoted q) {u rest t : Text} {d : Cursor}
    (hread : decodeInSource ⟨u, q ++ rest⟩ = .ok (t, d)) (u' rest' : Text) :
    decodeInSource ⟨u', q ++ rest'⟩ = .ok (t, ⟨q.reverse ++ u', rest'⟩) := by
  obtain ⟨body, stop, rfl, hclose⟩ := h.exists_body
  rw [decodeInSource_eq_ok_iff] at hread ⊢
  simp only [decode, List.cons_append, Cursor.next_cons] at hread ⊢
  obtain ⟨x, hspans, hx⟩ := exists_spans_of_decodeFrom hread
  -- The text ends where it is closed, so that `x` is all of it.
  obtain rfl := Option.some.inj
    ((closeFrom?_of_decodeFrom hread).symm.trans (closeFrom?_append hclose ('"' :: u) rest))
  obtain rfl : body = x := List.append_cancel_right hspans.1
  simpa using hx ('"' :: u') rest'

end IsQuoted

end ListingRules.Quoted
