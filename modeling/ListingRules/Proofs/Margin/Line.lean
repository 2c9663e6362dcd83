import ListingRules.Proofs.Margin.Attempt
import ListingRules.Proofs.Movement
import ListingRules.Proofs.WholeLines

namespace ListingRules

open Text (isLineEnd)

def Operand.isLinePosition : Operand → Bool
  | .state .firstNonemptyLine | .state .lastNonemptyLine => true
  | _ => false

namespace Cursor

theorem text_within (m : Margin) (c : Cursor) :
    (c.within m).text = m.before.reverse ++ (c.text ++ m.after) := by
  simp [text]

theorem text_eq_of_walk_within {m : Margin} {c d : Cursor} (h : Walk (c.within m) (d.within m)) :
    d.text = c.text := by
  have htext := text_walk h
  rw [text_within, text_within] at htext
  exact List.append_cancel_right (List.append_cancel_left htext)

theorem atLineEnd_within {c : Cursor} (hc : ∀ x ∈ c.ahead, isLineEnd x = false) (m : Margin) :
    (c.within m).atLineEnd = true ↔ c.ahead = [] := by
  obtain ⟨b, a⟩ := c
  cases a with
  | cons x a => simpa [atLineEnd, within] using hc x List.mem_cons_self
  | nil =>
      rcases m.after_cases with h | ⟨t, h | h⟩ <;> simp [atLineEnd, within, h, isLineEnd]

end Cursor

namespace Listing

open Cursor (Walk)

theorem Parted.stops {b t : Text} (h : Parted b.reverse t) : Stops (! isLineEnd ·) b := by
  intro x hx
  simp [(h x (by simpa using hx)).1]

namespace Line

variable {l : Line} {rest behind : Text}

theorem Precedes.stops_ending (h : l.Precedes rest) : Stops (! isLineEnd ·) (l.ending ++ rest) := by
  rcases h.ending with ⟨hnil, -, rfl⟩ | hlf | hcrlf | ⟨hcr, -⟩
  · simp [hnil, Stops]
  · exact hlf ▸ stops_cons rfl
  · exact hcrlf ▸ stops_cons rfl
  · exact hcr ▸ stops_cons rfl

def Precedes.margin (h : l.Precedes rest) (hb : Stops (! isLineEnd ·) behind) : Margin :=
  ⟨behind, l.ending ++ rest, hb, h.stops_ending⟩

theorem Precedes.within_margin (h : l.Precedes rest) (hb : Stops (! isLineEnd ·) behind) :
    (Cursor.ofText l.content).within (h.margin hb) = ⟨behind, l.text ++ rest⟩ := by
  simp [Cursor.within, Cursor.ofText, margin, text]

theorem Precedes.skipLineEnd_eq (h : l.Precedes rest) (behind : Text) :
    (⟨behind, l.ending ++ rest⟩ : Cursor).skipLineEnd = ⟨l.ending.reverse ++ behind, rest⟩ := by
  rcases h.ending with ⟨hnil, -, rfl⟩ | hlf | hcrlf | ⟨hcr, hrest⟩
  · simp [hnil, Cursor.skipLineEnd]
  · simp [hlf, Cursor.skipLineEnd]
  · simp [hcrlf, Cursor.skipLineEnd]
  · simp [hcr, Cursor.skipLineEnd, hrest]

theorem Precedes.skipLineEnd_within {m : Margin} {c : Cursor} (h : l.Precedes rest)
    (hafter : m.after = l.ending ++ rest) (hc : c.text = l.content) (hend : c.ahead = []) :
    (c.within m).skipLineEnd = ⟨l.text.reverse ++ m.before, rest⟩ := by
  have hplace : c.within m = ⟨l.content.reverse ++ m.before, l.ending ++ rest⟩ := by
    simp [Cursor.within, ← hc, Cursor.text, hend, hafter]
  rw [hplace, h.skipLineEnd_eq]
  simp [text]

end Line

section Params

variable {m n : Margin} {e e' : Surroundings} {a : Attempt}

theorem textOf?_within {o : Operand}
    (hnext : o = .state .nextChar → m.after.head? = n.after.head?) :
    textOf? (a.within n) o = textOf? (a.within m) o := by
  cases o with
  | state v =>
      cases v with
      | nextChar => simp [textOf?, List.take_one, List.head?_append, hnext rfl]
      | nextWord =>
          simp only [textOf?, Attempt.place_within, Cursor.takeWhile_within inner_isVisible]
      | restOfLine => simp only [textOf?, Attempt.place_within, Cursor.restOfLine_within]
      | firstNonemptyLine => rfl
      | lastNonemptyLine => rfl
  | column c => cases c <;> rfl
  | bool b => rfl
  | text t => rfl
  | number i => rfl

theorem boolOf?_within {o : Operand} (ho : o.isLinePosition = false) :
    boolOf? e' (a.within n) o = boolOf? e (a.within m) o := by
  cases o with
  | state v =>
      cases v with
      | firstNonemptyLine => simp [Operand.isLinePosition] at ho
      | lastNonemptyLine => simp [Operand.isLinePosition] at ho
      | nextChar => rfl
      | nextWord => rfl
      | restOfLine => rfl
  | column c => cases c <;> rfl
  | bool b => rfl
  | text t => rfl
  | number i => rfl

theorem eval?_within {p : Param} (hcolumns : e'.columns = e.columns)
    (hbool : ∀ o ∈ p.operands, boolOf? e' (a.within n) o = boolOf? e (a.within m) o)
    (htext : ∀ o ∈ p.operands, textOf? (a.within n) o = textOf? (a.within m) o) :
    Param.eval? e' (a.within n) p = Param.eval? e (a.within m) p := by
  have hnumber (o : Operand) : numberOf? (a.within n) o = numberOf? (a.within m) o := by
    cases o with
    | column c => cases c <;> rfl
    | _ => rfl
  cases p with
  | operand o => exact hbool o (by simp [Param.operands])
  | comparison l op r =>
      have hl : l ∈ (Param.comparison l op r).operands := by simp [Param.operands]
      have hr : r ∈ (Param.comparison l op r).operands := by simp [Param.operands]
      simp only [Param.eval?, hcolumns, hbool l hl, hbool r hr, htext l hl, htext r hr, hnumber]
      rfl

end Params

variable {m n : Margin} {e e' : Surroundings}

theorem sameIn_applyAll {calls : List Call} {a : Attempt}
    (h : ∀ call ∈ calls, ∀ b : Attempt, b.place.text = a.place.text →
      SeesSame m n e e' call b) :
    Outcome.SameIn m n (applyAll e calls (a.within m)) (applyAll e' calls (a.within n)) := by
  induction calls generalizing a with
  | nil => exact ⟨.continues a, rfl, rfl⟩
  | cons call more ih =>
      have hleads := (a.within m).leads_apply e call
      obtain ⟨o, ho, ho'⟩ := Attempt.sameIn_apply (h call List.mem_cons_self a rfl)
      simp only [applyAll, ho, ho'] at hleads ⊢
      cases o with
      | continues b =>
          have htext : b.place.text = a.place.text := Cursor.text_eq_of_walk_within hleads.1
          exact ih fun call hcall d hd => h call (List.mem_cons_of_mem _ hcall) d (hd.trans htext)
      | skipsRest b => exact ⟨.skipsRest b, rfl, rfl⟩
      | fails left => exact ⟨.fails left, rfl, rfl⟩
      | stuck => exact ⟨.stuck, rfl, rfl⟩

theorem text_of_applyAll_within {calls : List Call} {a b : Attempt}
    (h : applyAll e calls (a.within m) = .continues (b.within m)) :
    b.place.text = a.place.text := by
  have hleads := leads_applyAll e calls (a.within m)
  rw [h] at hleads
  exact Cursor.text_eq_of_walk_within hleads.1

end Listing

end ListingRules
