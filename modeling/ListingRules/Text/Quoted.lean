import ListingRules.Text.Cursor
import ListingRules.Text.Decimal
import ListingRules.Character.Printable

namespace ListingRules.Quoted

inductive Fault where
  | unclosed (stop : Cursor)
  | unknownEscape (backslash : Cursor)
  deriving DecidableEq, Repr

def unescape? : Char → Option Char
  | '"' => some '"'
  | '\\' => some '\\'
  | 't' => some '\t'
  | 'r' => some '\r'
  | 'n' => some '\n'
  | _ => none

def decodeFrom : Text → Text → Except Fault (Text × Cursor)
  | behind, [] => .error (.unclosed ⟨behind, []⟩)
  | behind, '"' :: ahead => .ok ([], ⟨'"' :: behind, ahead⟩)
  | behind, '\\' :: e :: ahead =>
      match unescape? e with
      | some c => (decodeFrom (e :: '\\' :: behind) ahead).map fun (t, p) => (c :: t, p)
      | none => .error (.unknownEscape ⟨behind, '\\' :: e :: ahead⟩)
  | behind, c :: ahead =>
      if Text.isLineEnd c then .error (.unclosed ⟨behind, c :: ahead⟩)
      else (decodeFrom (c :: behind) ahead).map fun (t, p) => (c :: t, p)

def decode (quote : Cursor) : Except Fault (Text × Cursor) :=
  decodeFrom quote.next.behind quote.next.ahead

def closeFrom? : Text → Text → Option Cursor
  | _, [] => none
  | behind, '"' :: ahead => some ⟨'"' :: behind, ahead⟩
  | behind, '\\' :: e :: ahead =>
      if Text.isLineEnd e then none else closeFrom? (e :: '\\' :: behind) ahead
  | behind, c :: ahead =>
      if Text.isLineEnd c then none else closeFrom? (c :: behind) ahead

def close? (quote : Cursor) : Option Cursor :=
  closeFrom? quote.next.behind quote.next.ahead

def escape : Char → Text
  | '"' => ['\\', '"']
  | '\\' => ['\\', '\\']
  | '\t' => ['\\', 't']
  | '\r' => ['\\', 'r']
  | '\n' => ['\\', 'n']
  | c => [c]

def encode (t : Text) : Text :=
  '"' :: t.flatMap escape ++ ['"']

def escapeByNumber (c : Char) : Text :=
  ['\\', 'u', '\x7b'] ++ Decimal.hexDigits c.toNat ++ ['\x7d']

/-- As `escape`, with a number for each character that has no shape of its own, or would join the
character before it. -/
def escapeVisibly (c : Char) : Text :=
  if c = '\x00' then ['\\', '0']
  else if escape c ≠ [c] then escape c
  else if Character.extendsPrevious c then escapeByNumber c
  else if Character.isPrintable c then [c]
  else escapeByNumber c

def encodeVisibly (t : Text) : Text :=
  '"' :: t.flatMap escapeVisibly ++ ['"']

def IsPlain (t : Text) : Prop :=
  ∀ c ∈ t, escape c ≠ [c] ∨ Character.extendsPrevious c = false ∧ Character.isPrintable c = true

instance (t : Text) : Decidable (IsPlain t) :=
  List.decidableBAll _ t

theorem escapeVisibly_of_plain {c : Char}
    (h : escape c ≠ [c] ∨ Character.extendsPrevious c = false ∧ Character.isPrintable c = true) :
    escapeVisibly c = escape c := by
  have hzero : c ≠ '\x00' := by
    have hprintable : Character.isPrintable '\x00' = false := by decide
    rintro rfl
    simp [escape, hprintable] at h
  rw [escapeVisibly, if_neg hzero]
  by_cases he : escape c = [c]
  · obtain ⟨hextends, hprintable⟩ := h.resolve_left (not_not_intro he)
    rw [if_neg (not_not_intro he), if_neg (by simp [hextends]), if_pos hprintable, he]
  · rw [if_pos he]

theorem encodeVisibly_of_plain {t : Text} (h : IsPlain t) : encodeVisibly t = encode t := by
  have hmap : t.map escapeVisibly = t.map escape :=
    List.map_congr_left fun c hc => escapeVisibly_of_plain (h c hc)
  rw [encodeVisibly, List.flatMap_def, hmap, encode, List.flatMap_def]

theorem escape_cases (c : Char) :
    (∃ e, escape c = ['\\', e] ∧ unescape? e = some c ∧ Text.isLineEnd e = false) ∨
      escape c = [c] ∧ c ≠ '"' ∧ c ≠ '\\' ∧ Text.isLineEnd c = false := by
  by_cases h1 : c = '"'
  · subst h1; exact .inl ⟨'"', rfl, rfl, rfl⟩
  by_cases h2 : c = '\\'
  · subst h2; exact .inl ⟨'\\', rfl, rfl, rfl⟩
  by_cases h3 : c = '\t'
  · subst h3; exact .inl ⟨'t', rfl, rfl, rfl⟩
  by_cases h4 : c = '\r'
  · subst h4; exact .inl ⟨'r', rfl, rfl, rfl⟩
  by_cases h5 : c = '\n'
  · subst h5; exact .inl ⟨'n', rfl, rfl, rfl⟩
  exact .inr ⟨by simp only [escape], h1, h2, by simp [Text.isLineEnd, h4, h5]⟩

theorem decodeFrom_raw {c : Char} (hquote : c ≠ '"') (hbackslash : c ≠ '\\')
    (hend : Text.isLineEnd c = false) (behind ahead : Text) :
    decodeFrom behind (c :: ahead) =
      (decodeFrom (c :: behind) ahead).map fun (t, p) => (c :: t, p) := by
  rw [decodeFrom.eq_def]
  split
  · rename_i heq; simp at heq
  · rename_i heq; exact absurd (List.cons.inj heq).1 hquote
  · rename_i heq; exact absurd (List.cons.inj heq).1 hbackslash
  · rename_i heq
    obtain ⟨rfl, rfl⟩ := List.cons.inj heq
    simp [hend]

theorem decodeFrom_escape (c : Char) (behind ahead : Text) :
    decodeFrom behind (escape c ++ ahead) =
      (decodeFrom ((escape c).reverse ++ behind) ahead).map fun (t, p) => (c :: t, p) := by
  rcases escape_cases c with ⟨e, he, hc, -⟩ | ⟨he, hquote, hbackslash, hend⟩
  · rw [he]
    simp [decodeFrom, hc]
  · rw [he]
    exact decodeFrom_raw hquote hbackslash hend behind ahead

theorem decodeFrom_encode (t behind ahead : Text) :
    decodeFrom behind (t.flatMap escape ++ '"' :: ahead) =
      .ok (t, ⟨'"' :: ((t.flatMap escape).reverse ++ behind), ahead⟩) := by
  induction t generalizing behind with
  | nil => rfl
  | cons c t ih =>
      rw [List.flatMap_cons, List.append_assoc, decodeFrom_escape, ih]
      simp [Except.map]

theorem decode_encode (t behind ahead : Text) :
    decode ⟨behind, encode t ++ ahead⟩ =
      .ok (t, ⟨(encode t).reverse ++ behind, ahead⟩) := by
  have h := decodeFrom_encode t ('"' :: behind) ahead
  simpa [decode, encode, Cursor.next] using h

theorem closeFrom?_raw {c : Char} (hquote : c ≠ '"') (hbackslash : c ≠ '\\')
    (hend : Text.isLineEnd c = false) (behind ahead : Text) :
    closeFrom? behind (c :: ahead) = closeFrom? (c :: behind) ahead := by
  rw [closeFrom?.eq_def]
  split
  · rename_i heq; simp at heq
  · rename_i heq; exact absurd (List.cons.inj heq).1 hquote
  · rename_i heq; exact absurd (List.cons.inj heq).1 hbackslash
  · rename_i heq
    obtain ⟨rfl, rfl⟩ := List.cons.inj heq
    simp [hend]

theorem closeFrom?_escape (c : Char) (behind ahead : Text) :
    closeFrom? behind (escape c ++ ahead) = closeFrom? ((escape c).reverse ++ behind) ahead := by
  rcases escape_cases c with ⟨e, he, -, hend⟩ | ⟨he, hquote, hbackslash, hend⟩
  · rw [he]
    simp [closeFrom?, hend]
  · rw [he]
    exact closeFrom?_raw hquote hbackslash hend behind ahead

theorem close?_encode (t behind ahead : Text) :
    close? ⟨behind, encode t ++ ahead⟩ = some ⟨(encode t).reverse ++ behind, ahead⟩ := by
  have h (u : Text) : closeFrom? u (t.flatMap escape ++ '"' :: ahead) =
      some ⟨'"' :: ((t.flatMap escape).reverse ++ u), ahead⟩ := by
    induction t generalizing u with
    | nil => rfl
    | cons c t ih =>
        rw [List.flatMap_cons, List.append_assoc, closeFrom?_escape, ih]
        simp
  simpa [close?, encode, Cursor.next] using h ('"' :: behind)

end ListingRules.Quoted
