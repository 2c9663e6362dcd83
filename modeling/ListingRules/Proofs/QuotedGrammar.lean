import ListingRules.Proofs.Bytewise.Source
import ListingRules.Proofs.QuotedTexts

namespace ListingRules

/-- An expression of a grammar whose alternatives are tried in order. What one has read is not given
back. -/
inductive ParsingExpression where
  | char (p : Char → Bool)
  | absent (e : ParsingExpression)
  | seq (e f : ParsingExpression)
  | choice (e f : ParsingExpression)
  | star (e : ParsingExpression)

namespace ParsingExpression

inductive Reads : ParsingExpression → Cursor → Option Cursor → Prop
  | char {p : Char → Bool} {c : Cursor} :
      c.ahead.head?.any p = true → Reads (.char p) c (some c.next)
  | charFails {p : Char → Bool} {c : Cursor} :
      c.ahead.head?.any p = false → Reads (.char p) c none
  | absent {e : ParsingExpression} {c : Cursor} :
      Reads e c none → Reads (.absent e) c (some c)
  | absentFails {e : ParsingExpression} {c d : Cursor} :
      Reads e c (some d) → Reads (.absent e) c none
  | seq {e f : ParsingExpression} {c d : Cursor} {r : Option Cursor} :
      Reads e c (some d) → Reads f d r → Reads (.seq e f) c r
  | seqFails {e f : ParsingExpression} {c : Cursor} :
      Reads e c none → Reads (.seq e f) c none
  | first {e f : ParsingExpression} {c d : Cursor} :
      Reads e c (some d) → Reads (.choice e f) c (some d)
  | second {e f : ParsingExpression} {c : Cursor} {r : Option Cursor} :
      Reads e c none → Reads f c r → Reads (.choice e f) c r
  | more {e : ParsingExpression} {c d : Cursor} {r : Option Cursor} :
      Reads e c (some d) → Reads (.star e) d r → Reads (.star e) c r
  | enough {e : ParsingExpression} {c : Cursor} :
      Reads e c none → Reads (.star e) c (some c)

variable {e f : ParsingExpression} {c d : Cursor} {r r' : Option Cursor} {p q : Char → Bool}

theorem Reads.unique (h : e.Reads c r) (h' : e.Reads c r') : r' = r := by
  induction h generalizing r' with
  | char hp =>
      cases h' with
      | char => rfl
      | charFails hp' => cases hp.symm.trans hp'
  | charFails hp =>
      cases h' with
      | char hp' => cases hp.symm.trans hp'
      | charFails => rfl
  | absent _ ih =>
      cases h' with
      | absent => rfl
      | absentFails h' => cases ih h'
  | absentFails _ ih =>
      cases h' with
      | absent h' => cases ih h'
      | absentFails => rfl
  | seq _ _ ihe ihf =>
      cases h' with
      | seq he hf =>
          obtain rfl := Option.some.inj (ihe he)
          exact ihf hf
      | seqFails he => cases ihe he
  | seqFails _ ih =>
      cases h' with
      | seq he => cases ih he
      | seqFails => rfl
  | first _ ih =>
      cases h' with
      | first he => exact ih he
      | second he => cases ih he
  | second _ _ ihe ihf =>
      cases h' with
      | first he => cases ihe he
      | second _ hf => exact ihf hf
  | more _ _ ihe ihr =>
      cases h' with
      | more he hr =>
          obtain rfl := Option.some.inj (ihe he)
          exact ihr hr
      | enough he => cases ihe he
  | enough _ ih =>
      cases h' with
      | more he => cases ih he
      | enough => rfl

def step? (p : Char → Bool) (c : Cursor) : Option Cursor :=
  if c.ahead.head?.any p then some c.next else none

theorem step?_cons (p : Char → Bool) (behind : Text) (x : Char) (t : Text) :
    step? p ⟨behind, x :: t⟩ = if p x then some ⟨x :: behind, t⟩ else none := rfl

theorem Reads.bind {g : Cursor → Option Cursor} (he : e.Reads c r)
    (hf : ∀ d, f.Reads d (g d)) : Reads (.seq e f) c (r.bind g) := by
  cases r with
  | none => exact .seqFails he
  | some d => exact .seq he (hf d)

theorem Reads.or (he : e.Reads c r) (hf : f.Reads c r') : Reads (.choice e f) c (r.or r') := by
  cases r with
  | none => exact .second he hf
  | some d => exact .first he

theorem Reads.star_seq (he : e.Reads c (some d)) (h : Reads (.seq (.star e) f) d r) :
    Reads (.seq (.star e) f) c r := by
  cases h with
  | seq hstar hf => exact .seq (.more he hstar) hf
  | seqFails hstar => exact .seqFails (.more he hstar)

def IsClass (e : ParsingExpression) (p : Char → Bool) : Prop :=
  ∀ c, e.Reads c (step? p c)

theorem isClass_char (p : Char → Bool) : IsClass (.char p) p := by
  intro c
  cases hp : c.ahead.head?.any p with
  | true => simpa [step?, hp] using Reads.char hp
  | false => simpa [step?, hp] using Reads.charFails hp

theorem IsClass.or (he : e.IsClass p) (hf : f.IsClass q) :
    IsClass (.choice e f) fun x => p x || q x := by
  intro c
  have hstep : (step? p c).or (step? q c) = step? (fun x => p x || q x) c := by
    obtain ⟨behind, ahead⟩ := c
    cases ahead with
    | nil => rfl
    | cons x ahead => cases hp : p x <;> simp [step?_cons, hp]
  rw [← hstep]
  exact (he c).or (hf c)

def other (e : ParsingExpression) : ParsingExpression :=
  .seq (.absent e) (.char fun _ => true)

theorem IsClass.other (he : e.IsClass p) : IsClass e.other fun x => !p x := by
  intro c
  have hread := he c
  obtain ⟨behind, ahead⟩ := c
  cases ahead with
  | nil => exact .seq (.absent hread) (isClass_char _ _)
  | cons x ahead =>
      rw [step?_cons] at hread ⊢
      cases hp : p x with
      | true =>
          rw [hp] at hread
          exact .seqFails (.absentFails hread)
      | false =>
          rw [hp] at hread
          exact .seq (.absent hread) (isClass_char _ _)

end ParsingExpression

namespace Quoted

open Cursor (Onward Past)
open Text (byteCount isLineEnd)

namespace Grammar

open ParsingExpression

def mark : ParsingExpression :=
  .char (· == '"')

def lineEnd : ParsingExpression :=
  .choice (.char (· == '\r')) (.char (· == '\n'))

def piece : ParsingExpression :=
  .choice (.seq (.char (· == '\\')) lineEnd.other) (ParsingExpression.choice mark lineEnd).other

def quotedText : ParsingExpression :=
  .seq mark (.seq (.star piece) mark)

def pieceEnd? (c : Cursor) : Option Cursor :=
  ((step? (· == '\\') c).bind (step? (! isLineEnd ·))).or
    (step? (fun x => !(x == '"' || isLineEnd x)) c)

theorem isClass_lineEnd : lineEnd.IsClass isLineEnd :=
  (isClass_char _).or (isClass_char _)

theorem reads_piece {r : Option Cursor} {c : Cursor} (h : pieceEnd? c = r) : piece.Reads c r := by
  subst h
  exact ((isClass_char _ c).bind isClass_lineEnd.other).or
    (((isClass_char _).or isClass_lineEnd).other c)

theorem pieceEnd?_escaped {x : Char} (hx : isLineEnd x = false) (behind ahead : Text) :
    pieceEnd? ⟨behind, '\\' :: x :: ahead⟩ = some ⟨x :: '\\' :: behind, ahead⟩ := by
  simp [pieceEnd?, step?_cons, hx]

theorem pieceEnd?_raw {x : Char} {ahead : Text} (hquote : x ≠ '"') (hend : isLineEnd x = false)
    (hescape : x = '\\' → ahead.head?.any (! isLineEnd ·) = false) (behind : Text) :
    pieceEnd? ⟨behind, x :: ahead⟩ = some ⟨x :: behind, ahead⟩ := by
  have hescaped : (step? (· == '\\') ⟨behind, x :: ahead⟩).bind (step? (! isLineEnd ·)) = none := by
    by_cases hx : x = '\\'
    · simp [step?, hx, hescape hx]
    · simp [step?_cons, hx]
  rw [pieceEnd?, hescaped, Option.none_or, step?_cons]
  simp [hquote, hend]

theorem pieceEnd?_lineEnd {x : Char} (hx : isLineEnd x = true) (behind ahead : Text) :
    pieceEnd? ⟨behind, x :: ahead⟩ = none := by
  have hx : x = '\r' ∨ x = '\n' := by simpa [isLineEnd] using hx
  rcases hx with rfl | rfl <;> rfl

theorem reads_closeFrom? (behind ahead : Text) :
    Reads (.seq (.star piece) mark) ⟨behind, ahead⟩ (closeFrom? behind ahead) := by
  have hlast {c : Cursor} (h : pieceEnd? c = none) :
      Reads (.seq (.star piece) mark) c (step? (· == '"') c) :=
    .seq (.enough (reads_piece h)) (isClass_char _ c)
  have hstop {x : Char} (hx : isLineEnd x = true) (behind ahead : Text) :
      Reads (.seq (.star piece) mark) ⟨behind, x :: ahead⟩ none := by
    have hquote : x ≠ '"' := by
      rintro rfl
      cases hx
    simpa [step?_cons, hquote] using hlast (pieceEnd?_lineEnd hx behind ahead)
  fun_induction closeFrom? behind ahead with
  | case1 behind => exact hlast rfl
  | case2 behind ahead => exact hlast rfl
  | case3 behind x ahead hend =>
      have hraw : pieceEnd? ⟨behind, '\\' :: x :: ahead⟩ = some ⟨'\\' :: behind, x :: ahead⟩ :=
        pieceEnd?_raw (by decide) (by decide) (fun _ => by simp [hend]) behind
      exact (reads_piece hraw).star_seq (hstop hend _ _)
  | case4 behind x ahead hend ih =>
      have hescaped := pieceEnd?_escaped (by simpa using hend) behind ahead
      exact (reads_piece hescaped).star_seq ih
  | case5 behind x ahead _ _ hend => exact hstop hend _ _
  | case6 behind x ahead hquote hbackslash hend ih =>
      have hescape (hx : x = '\\') : ahead.head?.any (! isLineEnd ·) = false := by
        cases ahead with
        | nil => rfl
        | cons y ahead => exact (hbackslash y ahead hx rfl).elim
      have hraw := pieceEnd?_raw hquote (by simpa using hend) hescape behind
      exact (reads_piece hraw).star_seq ih

theorem reads_quotedText_iff {quote : Cursor} {r : Option Cursor}
    (hquote : quote.ahead.head? = some '"') : quotedText.Reads quote r ↔ r = close? quote := by
  have hread : quotedText.Reads quote (close? quote) :=
    .seq (.char (by simp [hquote])) (reads_closeFrom? quote.next.behind quote.next.ahead)
  constructor
  · exact hread.unique
  · rintro rfl
    exact hread

end Grammar

section Readers

variable {quote stop : Cursor}

theorem agrees_decode (quote : Cursor) : Agrees (close? quote) (decode quote) :=
  agrees_decodeFrom quote.next.behind quote.next.ahead

theorem decodeInSource_of_closed (hquote : quote.ahead.head? = some '"')
    (h : close? quote = some stop) :
    (∃ t, decodeInSource quote = .ok (t, stop)) ∨
      ∃ e, decodeInSource quote = .error e ∧ e.fault = .unknownEscape ∧
        quote.offset < e.offset ∧ e.offset + e.length < stop.offset := by
  have hagrees := agrees_decode quote
  have hends : EndsBehind quote.next (decode quote) :=
    endsBehind_decodeFrom quote.next.behind quote.next.ahead
  rw [h] at hagrees
  rw [decodeInSource]
  cases hread : decode quote with
  | ok r =>
      obtain ⟨t, d⟩ := r
      rw [hread] at hagrees
      obtain rfl := Option.some.inj hagrees
      exact .inl ⟨t, rfl⟩
  | error fault =>
      rw [hread] at hagrees hends
      cases fault with
      | unclosed d => cases hagrees
      | unknownEscape d =>
          have hbackslash := (Cursor.past_next hquote).trans hends.1
          have hescape : Onward d d.next.next := d.onward_next.trans d.next.onward_next
          have hstop : Past d.next.next stop := hagrees stop rfl
          refine .inr ⟨_, rfl, rfl, hbackslash.offset_lt, ?_⟩
          have hlt := hstop.offset_lt
          rwa [SourceError.between, Nat.add_sub_cancel' hescape.offset_le]

theorem exists_error_of_unclosed (h : close? quote = none) :
    ∃ e, decodeInSource quote = .error e ∧
      (e.fault = .missingStringEnd ∧ e.offset = quote.offset ∨ e.fault = .unknownEscape) := by
  have hagrees := agrees_decode quote
  rw [h] at hagrees
  rw [decodeInSource]
  cases hread : decode quote with
  | ok r =>
      rw [hread] at hagrees
      cases hagrees
  | error fault =>
      cases fault with
      | unclosed d => exact ⟨_, rfl, .inl ⟨rfl, rfl⟩⟩
      | unknownEscape d => exact ⟨_, rfl, .inr rfl⟩

theorem decodeInSource_encode_between (before t after : Text) :
    decodeInSource ⟨before.reverse, encode t ++ after⟩ =
        .ok (t, ⟨(before ++ encode t).reverse, after⟩) ∧
      Bytewise.literal (before ++ (encode t ++ after)) (byteCount before) =
        .ok (t, byteCount (before ++ encode t)) := by
  let c : Cursor := ⟨before.reverse, encode t ++ after⟩
  have hread : decodeInSource c = .ok (t, ⟨(before ++ encode t).reverse, after⟩) := by
    rw [decodeInSource_encode, List.reverse_append]
  have htext : c.text = before ++ (encode t ++ after) := by simp [c, Cursor.text]
  have hoffset : c.offset = byteCount before := by simp [c, Cursor.offset]
  have hliteral := Bytewise.literal_eq htext rfl
  rw [hread, hoffset] at hliteral
  refine ⟨hread, hliteral.trans ?_⟩
  rw [Bytewise.told, Bytewise.atOffset, Cursor.offset, Text.byteCount_reverse]

end Readers

/-- The grammar closes a quoted text at one place or nowhere. Where it does, the text is read up to
that place or has an unknown escape before it, and else there is an error. A text that was quoted is
read back, whatever stands around it. What is read through characters is read so through bytes. -/
theorem readings_agree {quote : Cursor} (hquote : quote.ahead.head? = some '"') :
    (∀ r, Grammar.quotedText.Reads quote r ↔ r = close? quote) ∧
      (∀ stop, Grammar.quotedText.Reads quote (some stop) →
        (∃ t, decodeInSource quote = .ok (t, stop)) ∨
          ∃ e, decodeInSource quote = .error e ∧ e.fault = .unknownEscape ∧
            quote.offset < e.offset ∧ e.offset + e.length < stop.offset) ∧
      (Grammar.quotedText.Reads quote none →
        ∃ e, decodeInSource quote = .error e ∧
          (e.fault = .missingStringEnd ∧ e.offset = quote.offset ∨ e.fault = .unknownEscape)) ∧
      Bytewise.literal quote.text quote.offset =
        Bytewise.told Bytewise.atOffset (decodeInSource quote) ∧
      ∀ before t after,
        decodeInSource ⟨before.reverse, encode t ++ after⟩ =
            .ok (t, ⟨(before ++ encode t).reverse, after⟩) ∧
          Bytewise.literal (before ++ (encode t ++ after)) (byteCount before) =
            .ok (t, byteCount (before ++ encode t)) := by
  have hgrammar (r : Option Cursor) : Grammar.quotedText.Reads quote r ↔ r = close? quote :=
    Grammar.reads_quotedText_iff hquote
  refine ⟨hgrammar, fun stop h => ?_, fun h => ?_, Bytewise.literal_eq rfl hquote,
    decodeInSource_encode_between⟩
  · exact decodeInSource_of_closed hquote ((hgrammar _).1 h).symm
  · exact exists_error_of_unclosed ((hgrammar _).1 h).symm

theorem readings_agree_unknownEscape :
    let quote : Cursor := ⟨['ü'], "\"é\\\"\\x\" \"".toList⟩
    let stop : Cursor := ⟨"\"x\\\"\\é\"ü".toList, " \"".toList⟩
    Grammar.quotedText.Reads quote (some stop) ∧
      ∃ e, decodeInSource quote = .error e ∧ e.fault = .unknownEscape ∧
        quote.offset < e.offset ∧ e.offset + e.length < stop.offset := by
  intro quote stop
  have hquote : quote.ahead.head? = some '"' := rfl
  obtain ⟨hgrammar, hclosed, -⟩ := readings_agree hquote
  have hreads : Grammar.quotedText.Reads quote (some stop) := (hgrammar _).2 (by rfl)
  refine ⟨hreads, (hclosed stop hreads).resolve_left ?_⟩
  rintro ⟨t, ht⟩
  have herror : (decodeInSource quote).toOption = none := by rfl
  rw [ht] at herror
  cases herror

end Quoted

end ListingRules
