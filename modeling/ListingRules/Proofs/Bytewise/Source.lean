import ListingRules.Proofs.Bytewise.Bytes
import ListingRules.Proofs.SourceErrors

namespace ListingRules.Bytewise

open Cursor (Onward Spans)
open SourceError (between here)
open Text (byteCount)

inductive Failure where
  | trap (t : Trap)
  | source (e : SourceError)
  deriving DecidableEq, Repr

abbrev Compiling := Except Failure

section Compiling

variable {α β γ δ : Type}

def checked (x : Checked α) : Compiling α :=
  x.mapError .trap

def fail (e : SourceError) : Compiling α :=
  .error (.source e)

def told (f : α → β) : Except SourceError α → Compiling β
  | .ok a => .ok (f a)
  | .error e => fail e

@[simp] theorem checked_ok (a : α) : checked (.ok a) = .ok a := rfl

@[simp] theorem compiling_ok_bind (a : α) (f : α → Compiling β) :
    (Except.ok a : Compiling α) >>= f = f a := rfl

def atOffset (r : α × Cursor) : α × Nat :=
  (r.1, r.2.offset)

theorem told_map (f : β → γ) (g : α → β) (x : Except SourceError α) :
    told f (x.map g) = told (f ∘ g) x := by
  cases x <;> rfl

theorem told_ne_trap (f : α → β) (x : Except SourceError α) (t : Trap) :
    told f x ≠ .error (.trap t) := by
  cases x <;> simp [told, fail]

theorem bind_told {P : SourceError → Prop} {Q : α → Prop} {f : α → β} {g : γ → δ}
    {x : Compiling β} {y : Except SourceError α} {k : β → Compiling δ}
    {l : α → Except SourceError γ} (hx : x = told f y) (hy : Reports P Q y)
    (hk : ∀ a, Q a → k (f a) = told g (l a)) : (x >>= k) = told g (y >>= l) := by
  subst hx
  cases y with
  | ok a => exact hk a hy
  | error e => rfl

theorem map_told {f : α → β} {g : γ → δ} {x : Compiling β} {y : Except SourceError α} {k : β → δ}
    {l : α → γ} (hx : x = told f y) (hk : ∀ a, k (f a) = g (l a)) :
    x.map k = told g (y.map l) := by
  subst hx
  cases y with
  | ok a => exact congrArg Except.ok (hk a)
  | error e => rfl

end Compiling

section Errors

variable {α : Type} {src : Text} {c d : Cursor} {fault : SourceFault}

def failHere (src : Text) (fault : SourceFault) (pos : Nat) : Compiling α := do
  let rest ← checked (sliceFrom src pos)
  fail ⟨fault, pos, (rest.head?.map Char.utf8Size).getD 0, none⟩

def failBetween (fault : SourceFault) (start stop : Nat) : Compiling α := do
  let length ← checked (minus stop start)
  fail ⟨fault, start, length, none⟩

theorem sliceFrom_offset (h : c.text = src) : sliceFrom src c.offset = .ok c.ahead := by
  refine sliceFrom_eq_ok_iff.2 ⟨c.behind.reverse, ?_, ?_⟩
  · rw [← h, Cursor.text]
  · rw [Text.byteCount_reverse, Cursor.offset]

theorem slice_offsets {t : Text} (h : c.text = src) (hspans : Spans c d t) :
    slice src c.offset d.offset = .ok t := by
  refine slice_eq_ok_iff.2 ⟨c.behind.reverse, d.ahead, ?_, ?_, ?_⟩
  · rw [← h, Cursor.text, hspans.1, List.append_assoc]
  · rw [Text.byteCount_reverse, Cursor.offset]
  · rw [Text.byteCount_append, Text.byteCount_reverse, hspans.offset_eq, Cursor.offset]

theorem byteCount_of_spans {t : Text} (h : Spans c d t) : byteCount t = d.offset - c.offset := by
  rw [h.offset_eq, Nat.add_sub_cancel_left]

theorem byteAt?_offset (h : c.text = src) : byteAt? src c.offset = c.ahead.head?.map lead := by
  have hbyte := byteAt?_at c.behind.reverse c.ahead
  rwa [Text.byteCount_reverse, ← Cursor.text, h] at hbyte

theorem byteAt?_eq_some_iff {x : Char} (hx : IsAscii x) (h : c.text = src) :
    byteAt? src c.offset = some x.toUInt8 ↔ c.ahead.head? = some x := by
  rw [byteAt?_offset h]
  cases c.ahead with
  | nil => simp
  | cons y t => simp [lead_eq_iff hx]

theorem isNone_byteAt? (h : c.text = src) :
    (byteAt? src c.offset).isNone = c.ahead.isEmpty := by
  rw [byteAt?_offset h]
  cases c.ahead <;> rfl

theorem drop_bytes_offset (h : c.text = src) : (bytes src).drop c.offset = bytes c.ahead := by
  rw [← h, Cursor.text, bytes_append, Cursor.offset, ← Text.byteCount_reverse, ← length_bytes,
    List.drop_left]

theorem offset_next_eq (c : Cursor) :
    c.next.offset = c.offset + (c.ahead.head?.map Char.utf8Size).getD 0 := by
  obtain ⟨behind, ahead⟩ := c
  cases ahead with
  | nil => rfl
  | cons x ahead => simp [Cursor.next, Cursor.offset, Nat.add_comm]

theorem offset_cons (behind ahead : Text) (x : Char) :
    (⟨x :: behind, ahead⟩ : Cursor).offset =
      (⟨behind, x :: ahead⟩ : Cursor).offset + x.utf8Size := by
  simp [Cursor.offset, Nat.add_comm]

theorem offset_next_of_head {x : Char} (hx : IsAscii x) (h : c.ahead.head? = some x) :
    c.next.offset = c.offset + 1 := by
  simp [offset_next_eq, h, utf8Size_of_isAscii hx]

theorem failHere_eq (h : c.text = src) :
    (failHere src fault c.offset : Compiling α) = fail (here fault c) := by
  rw [failHere, sliceFrom_offset h]
  simp [here, between, offset_next_eq]

theorem failBetween_eq (h : Onward c d) :
    (failBetween fault c.offset d.offset : Compiling α) = fail (between fault c d) := by
  obtain ⟨t, ht⟩ := h
  rw [failBetween, minus_eq_ok (by rw [ht.offset_eq]; omega)]
  rfl

end Errors

section Bytes

variable {c x : Char} {t : Text} {p : Char → Bool} {q : UInt8 → Bool}

theorem bytes_cons_of_isAscii (h : IsAscii c) (t : Text) :
    bytes (c :: t) = c.toUInt8 :: bytes t := by
  rw [bytes_cons, encode_of_isAscii h]
  rfl

theorem exists_bytes_cons (c : Char) (t : Text) : ∃ bs, bytes (c :: t) = lead c :: bs := by
  have hlead : (bytes (c :: t))[0]? = some (lead c) := byteAt?_zero (c :: t)
  cases hb : bytes (c :: t) with
  | nil => simp [hb] at hlead
  | cons b bs =>
      rw [hb] at hlead
      exact ⟨bs, by rw [Option.some.inj hlead]⟩

theorem ne_of_mem_encode (hx : IsAscii x) (h : c ≠ x) {b : UInt8}
    (hb : b ∈ String.utf8EncodeChar c) : b ≠ x.toUInt8 := by
  by_cases hc : IsAscii c
  · rw [encode_of_isAscii hc, List.mem_singleton] at hb
    rw [hb, ← lead_of_isAscii hc]
    exact fun heq => h ((lead_eq_iff hx).1 heq)
  · have hle := le_of_mem_encode hc hb
    have hlt : x.toNat < 128 := hx
    rintro rfl
    rw [toNat_toUInt8 hx] at hle
    omega

theorem lead_beq (hx : IsAscii x) (c : Char) : (lead c == x.toUInt8) = (c == x) := by
  rw [Bool.eq_iff_iff, beq_iff_eq, beq_iff_eq]
  exact lead_eq_iff hx

theorem takeWhile_bytes (hp : ∀ c, p c = true → IsAscii c) (hq : ∀ c, q (lead c) = p c) (t : Text) :
    (bytes t).takeWhile q = bytes (t.takeWhile p) := by
  induction t with
  | nil => rfl
  | cons c t ih =>
      cases hc : p c with
      | true =>
          have hascii := hp c hc
          have hbyte : q c.toUInt8 = true := by rw [← lead_of_isAscii hascii, hq, hc]
          rw [List.takeWhile_cons_of_pos hc, bytes_cons_of_isAscii hascii,
            bytes_cons_of_isAscii hascii, List.takeWhile_cons_of_pos hbyte, ih]
      | false =>
          obtain ⟨bs, hbs⟩ := exists_bytes_cons c t
          rw [List.takeWhile_cons_of_neg (by simp [hc]), hbs,
            List.takeWhile_cons_of_neg (by simp [hq, hc])]
          rfl

theorem length_takeWhile_bytes {src : Text} {c : Cursor} (h : c.text = src)
    (hp : ∀ c, p c = true → IsAscii c) (hq : ∀ c, q (lead c) = p c) :
    c.offset + (((bytes src).drop c.offset).takeWhile q).length = (c.skipWhile p).offset := by
  rw [drop_bytes_offset h, takeWhile_bytes hp hq, length_bytes,
    (Cursor.spans_skipWhile p c).offset_eq]

end Bytes

def isLineEndByte (b : UInt8) : Bool :=
  b == '\r'.toUInt8 || b == '\n'.toUInt8

theorem isLineEndByte_lead (c : Char) : isLineEndByte (lead c) = Text.isLineEnd c := by
  rw [isLineEndByte, lead_beq (by decide), lead_beq (by decide), Text.isLineEnd]

theorem isAscii_of_isLineEnd {c : Char} (h : Text.isLineEnd c = true) : IsAscii c := by
  simp only [Text.isLineEnd, Bool.or_eq_true, beq_iff_eq] at h
  rcases h with rfl | rfl <;> decide

def unescapeByte? (b : UInt8) : Option Char :=
  if b == '"'.toUInt8 then some '"'
  else if b == '\\'.toUInt8 then some '\\'
  else if b == 't'.toUInt8 then some '\t'
  else if b == 'r'.toUInt8 then some '\r'
  else if b == 'n'.toUInt8 then some '\n'
  else none

/-- Reads the bytes behind an opening quote, from an offset on. What stands in the text as it is
comes in pieces: `piece` is where the last one starts, `out` is what was read before that. -/
def literalFrom (src : Text) (quote : Nat) : List UInt8 → Nat → Nat → Text → Compiling (Text × Nat)
  | [], pos, _, _ => failBetween .missingStringEnd quote pos
  | b :: bs, pos, piece, out =>
      if isLineEndByte b then failBetween .missingStringEnd quote pos
      else if b == '"'.toUInt8 then do
        let t ← checked (slice src piece pos)
        return (out ++ t, pos + 1)
      else if b == '\\'.toUInt8 then
        match bs with
        | [] => literalFrom src quote [] (pos + 1) piece out
        | e :: bs =>
            match unescapeByte? e with
            | some c => do
                let t ← checked (slice src piece pos)
                literalFrom src quote bs (pos + 2) (pos + 2) (out ++ t ++ [c])
            | none => do
                let rest ← checked (sliceFrom src (pos + 1))
                fail ⟨.unknownEscape, pos, (rest.head?.map Char.utf8Size).getD 1 + 1, none⟩
      else literalFrom src quote bs (pos + 1) piece out

def literal (src : Text) (quote : Nat) : Compiling (Text × Nat) :=
  literalFrom src quote ((bytes src).drop (quote + 1)) (quote + 1) (quote + 1) []

theorem isLineEndByte_eq_false {x : Char} (h : Text.isLineEnd x = false) {b : UInt8}
    (hb : b ∈ String.utf8EncodeChar x) : isLineEndByte b = false := by
  simp only [Text.isLineEnd, Bool.or_eq_false_iff, beq_eq_false_iff_ne] at h
  simp only [isLineEndByte, Bool.or_eq_false_iff, beq_eq_false_iff_ne]
  exact ⟨ne_of_mem_encode (by decide) h.1 hb, ne_of_mem_encode (by decide) h.2 hb⟩

theorem unescapeByte?_lead (c : Char) : unescapeByte? (lead c) = Quoted.unescape? c := by
  have hne {x : Char} (hx : IsAscii x) (h : c = x → False) : (lead c == x.toUInt8) = false := by
    rw [lead_beq hx]
    exact beq_eq_false_iff_ne.2 h
  fun_cases Quoted.unescape? c with
  | case1 => decide
  | case2 => decide
  | case3 => decide
  | case4 => decide
  | case5 => decide
  | case6 _ hquote hbackslash ht hr hn =>
      simp [unescapeByte?, hne (by decide) hquote, hne (by decide) hbackslash, hne (by decide) ht,
        hne (by decide) hr, hne (by decide) hn]

section Literal

variable {src piece out : Text} {quote start : Cursor} {q pos : Nat}

theorem literalFrom_plain {bs : List UInt8} (more : List UInt8) (p : Nat)
    (h : ∀ b ∈ bs, isLineEndByte b = false ∧ b ≠ '"'.toUInt8 ∧ b ≠ '\\'.toUInt8) :
    literalFrom src q (bs ++ more) pos p out = literalFrom src q more (pos + bs.length) p out := by
  induction bs generalizing pos with
  | nil => rfl
  | cons b bs ih =>
      obtain ⟨⟨hend, hquote, hbackslash⟩, hmore⟩ := List.forall_mem_cons.1 h
      rw [List.cons_append, literalFrom.eq_def]
      simp only [hend, beq_eq_false_iff_ne.2 hquote, beq_eq_false_iff_ne.2 hbackslash,
        Bool.false_eq_true, ↓reduceIte, ih hmore, List.length_cons]
      congr 1
      omega

theorem literalFrom_cons {x : Char} (ahead : Text) (p : Nat) (hend : Text.isLineEnd x = false)
    (hquote : x ≠ '"') (hbackslash : x ≠ '\\') :
    literalFrom src q (bytes (x :: ahead)) pos p out =
      literalFrom src q (bytes ahead) (pos + x.utf8Size) p out := by
  rw [bytes_cons, ← String.length_utf8EncodeChar]
  exact literalFrom_plain _ _ fun b hb =>
    ⟨isLineEndByte_eq_false hend hb, ne_of_mem_encode (by decide) hquote hb,
      ne_of_mem_encode (by decide) hbackslash hb⟩

theorem literalFrom_quote (ahead : Text) {p : Nat} (hslice : slice src p pos = .ok piece) :
    literalFrom src q (bytes ('"' :: ahead)) pos p out = .ok (out ++ piece, pos + 1) := by
  have hend : isLineEndByte '"'.toUInt8 = false := by decide
  rw [bytes_cons_of_isAscii (by decide), literalFrom.eq_def]
  simp only [hend, Bool.false_eq_true, ↓reduceIte, beq_self_eq_true, hslice, checked_ok,
    compiling_ok_bind]
  rfl

theorem literalFrom_lineEnd {x : Char} (hx : Text.isLineEnd x = true) (ahead : Text) (p : Nat) :
    literalFrom src q (bytes (x :: ahead)) pos p out = failBetween .missingStringEnd q pos := by
  have hascii := isAscii_of_isLineEnd hx
  rw [bytes_cons_of_isAscii hascii, literalFrom.eq_def, ← lead_of_isAscii hascii]
  exact if_pos (by rw [isLineEndByte_lead, hx])

theorem literalFrom_backslash (p : Nat) :
    literalFrom src q (bytes ['\\']) pos p out = literalFrom src q (bytes []) (pos + 1) p out :=
  rfl

theorem isAscii_of_unescape? {x c : Char} (h : Quoted.unescape? x = some c) : IsAscii x := by
  fun_cases Quoted.unescape? x with
  | case6 _ hquote hbackslash ht hr hn => simp [Quoted.unescape?] at h
  | _ => decide

theorem offset_escape {x c : Char} (h : Quoted.unescape? x = some c) (behind ahead : Text) :
    (⟨x :: '\\' :: behind, ahead⟩ : Cursor).offset =
      (⟨behind, '\\' :: x :: ahead⟩ : Cursor).offset + 2 := by
  rw [offset_cons, offset_cons, utf8Size_of_isAscii (isAscii_of_unescape? h),
    utf8Size_of_isAscii (by decide)]

theorem literalFrom_escaped (b : UInt8) (bs : List UInt8) (p : Nat) :
    literalFrom src q ('\\'.toUInt8 :: b :: bs) pos p out =
      (match unescapeByte? b with
      | some c => do
          let t ← checked (slice src p pos)
          literalFrom src q bs (pos + 2) (pos + 2) (out ++ t ++ [c])
      | none => do
          let rest ← checked (sliceFrom src (pos + 1))
          fail ⟨.unknownEscape, pos, (rest.head?.map Char.utf8Size).getD 1 + 1, none⟩) := by
  have hend : isLineEndByte '\\'.toUInt8 = false := by decide
  have hquote : ('\\'.toUInt8 == '"'.toUInt8) = false := by decide
  rw [literalFrom.eq_def]
  simp only [hend, hquote, Bool.false_eq_true, ↓reduceIte, beq_self_eq_true]

theorem literalFrom_escape {x c : Char} (hx : Quoted.unescape? x = some c) (ahead : Text)
    {p : Nat} (hslice : slice src p pos = .ok piece) :
    literalFrom src q (bytes ('\\' :: x :: ahead)) pos p out =
      literalFrom src q (bytes ahead) (pos + 2) (pos + 2) (out ++ piece ++ [c]) := by
  have hascii := isAscii_of_unescape? hx
  rw [bytes_cons_of_isAscii (by decide), bytes_cons_of_isAscii hascii, literalFrom_escaped,
    ← lead_of_isAscii hascii, unescapeByte?_lead, hx, hslice]
  rfl

theorem literalFrom_unknown {c : Cursor} (hc : c.text = src) {x : Char} {ahead : Text}
    (hahead : c.ahead = '\\' :: x :: ahead) (hx : Quoted.unescape? x = none) (p : Nat) :
    literalFrom src q (bytes c.ahead) c.offset p out =
      fail (between .unknownEscape c c.next.next) := by
  obtain ⟨behind, _⟩ := c
  obtain rfl := hahead
  have hbackslash : Char.utf8Size '\\' = 1 := by decide
  have hnext := Cursor.spans_next (c := ⟨behind, '\\' :: x :: ahead⟩) rfl
  have hrest : sliceFrom src ((⟨behind, '\\' :: x :: ahead⟩ : Cursor).offset + 1) =
      .ok (x :: ahead) := by
    have h := sliceFrom_offset (hnext.text_eq.trans hc)
    rwa [hnext.offset_eq, Text.byteCount_cons, hbackslash] at h
  have hlength : (⟨behind, '\\' :: x :: ahead⟩ : Cursor).next.next.offset -
      (⟨behind, '\\' :: x :: ahead⟩ : Cursor).offset = x.utf8Size + 1 := by
    rw [Cursor.next_cons, Cursor.next_cons, offset_cons, offset_cons, hbackslash]
    omega
  obtain ⟨bs, hbs⟩ := exists_bytes_cons x ahead
  rw [bytes_cons_of_isAscii (by decide), hbs, literalFrom_escaped, unescapeByte?_lead, hx, hrest,
    between, hlength]
  rfl

theorem literalFrom_content {c : Char} {behind ahead : Text} (hend : Text.isLineEnd c = false)
    (hquote : c = '"' → False) (hbackslash : ∀ x t, c = '\\' → ahead = x :: t → False) {p : Nat} :
    literalFrom src q (bytes (c :: ahead)) (⟨behind, c :: ahead⟩ : Cursor).offset p out =
      literalFrom src q (bytes ahead) (⟨c :: behind, ahead⟩ : Cursor).offset p out := by
  rw [offset_cons]
  by_cases hc : c = '\\'
  · subst hc
    cases ahead with
    | nil => exact literalFrom_backslash _
    | cons x t => exact (hbackslash x t rfl rfl).elim
  · exact literalFrom_cons ahead _ hend hquote hc

def located {α : Type} (quote : Cursor) : Except Quoted.Fault α → Except SourceError α
  | .ok a => .ok a
  | .error (.unclosed stop) => .error (between .missingStringEnd quote stop)
  | .error (.unknownEscape c) => .error (between .unknownEscape c c.next.next)

theorem located_map {α β : Type} (f : α → β) (x : Except Quoted.Fault α) :
    located quote (x.map f) = (located quote x).map f := by
  cases x with
  | ok a => rfl
  | error fault => cases fault <;> rfl

theorem decodeInSource_eq (quote : Cursor) :
    Quoted.decodeInSource quote = located quote (Quoted.decode quote) := by
  rw [Quoted.decodeInSource]
  cases Quoted.decode quote with
  | ok r => rfl
  | error fault => cases fault <;> rfl

theorem literalFrom_eq {behind ahead : Text} (hsrc : (⟨behind, ahead⟩ : Cursor).text = src)
    (hquote : Onward quote ⟨behind, ahead⟩) (hpiece : Spans start ⟨behind, ahead⟩ piece) :
    literalFrom src quote.offset (bytes ahead) (⟨behind, ahead⟩ : Cursor).offset start.offset out =
      told (fun r => (out ++ piece ++ r.1, r.2.offset))
        (located quote (Quoted.decodeFrom behind ahead)) := by
  have hslice := slice_offsets (hpiece.text_eq.symm.trans hsrc) hpiece
  -- the open piece grows with each character that stands for itself, and ends at an escape
  fun_induction Quoted.decodeFrom behind ahead generalizing start piece out with
  | case1 behind => exact failBetween_eq hquote
  | case2 behind ahead =>
      have hsize : Char.utf8Size '"' = 1 := by decide
      rw [literalFrom_quote ahead hslice]
      simp [located, told, Cursor.offset, hsize, Nat.add_comm]
  | case3 behind x ahead c hx ih =>
      have hescape : Spans ⟨behind, '\\' :: x :: ahead⟩ ⟨x :: '\\' :: behind, ahead⟩ ['\\', x] :=
        Cursor.spans_advance 2 ⟨behind, '\\' :: x :: ahead⟩
      have htext := hescape.text_eq.trans hsrc
      have hnil := slice_offsets htext (.refl _)
      rw [literalFrom_escape hx ahead hslice, ← offset_escape hx behind ahead,
        ih htext (hquote.trans ⟨_, hescape⟩) (.refl _) hnil, located_map, told_map]
      congr 1
      funext r
      simp
  | case4 behind x ahead hx => exact literalFrom_unknown hsrc rfl hx _
  | case5 behind c ahead hquote' hbackslash hend =>
      rw [literalFrom_lineEnd hend]
      exact failBetween_eq hquote
  | case6 behind c ahead hquote' hbackslash hend ih =>
      have hnext : Spans ⟨behind, c :: ahead⟩ ⟨c :: behind, ahead⟩ [c] := Cursor.spans_next rfl
      have hpiece := hpiece.trans hnext
      have htext := hnext.text_eq.trans hsrc
      rw [literalFrom_content (by simpa using hend) hquote' hbackslash,
        ih htext (hquote.trans ⟨_, hnext⟩) hpiece
          (slice_offsets (hpiece.text_eq.symm.trans htext) hpiece), located_map, told_map]
      congr 1
      funext r
      simp

theorem literal_eq {c : Cursor} (hc : c.text = src) (hquote : c.ahead.head? = some '"') :
    literal src c.offset = told atOffset (Quoted.decodeInSource c) := by
  obtain ⟨t, ht⟩ := List.head?_eq_some_iff.1 hquote
  have hnext := Cursor.spans_next ht
  have htext := hnext.text_eq.trans hc
  have hstop := offset_next_of_head (by decide) hquote
  rw [literal, ← hstop, drop_bytes_offset htext, decodeInSource_eq, Quoted.decode]
  exact literalFrom_eq htext ⟨_, hnext⟩ (.refl _)

end Literal

end ListingRules.Bytewise
