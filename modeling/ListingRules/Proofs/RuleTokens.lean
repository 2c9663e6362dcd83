import ListingRules.Proofs.LetterCase
import ListingRules.Proofs.PrintedRules
import ListingRules.Proofs.QuotedTexts
import ListingRules.Proofs.RuleErrors

namespace ListingRules

namespace Operator

theorem eq_of_take_name {a b : Operator}
    (h : Text.sameAscii (b.name.toList.take a.name.length) a.name.toList = true) : a = b := by
  revert h
  cases a <;> cases b <;> decide

theorem atStart?_eq_some_iff {t : Text} {op : Operator} :
    atStart? t = some op ↔ Text.sameAscii (t.take op.name.length) op.name.toList = true := by
  have hsame {op : Operator} (h : atStart? t = some op) :
      Text.sameAscii (t.take op.name.length) op.name.toList = true := by
    have := List.find?_some h
    exact this
  refine ⟨hsame, fun h => ?_⟩
  cases hfound : atStart? t with
  | none =>
      have hop : op ∈ all := by cases op <;> decide
      exact absurd h (List.find?_eq_none.1 hfound op hop)
  | some found =>
      -- Both names are starts of the text, so that one of them starts with the other.
      have hstart {a b : Operator} (ha : Text.sameAscii (t.take a.name.length) a.name.toList = true)
          (hb : Text.sameAscii (t.take b.name.length) b.name.toList = true)
          (hle : a.name.length ≤ b.name.length) : a = b := by
        refine eq_of_take_name (Text.sameAscii_trans (Text.sameAscii_symm ?_) ha)
        have hmap := congrArg (List.take a.name.length) (Text.sameAscii_iff.1 hb)
        rw [← List.map_take, ← List.map_take, List.take_take, Nat.min_eq_left hle] at hmap
        exact Text.sameAscii_iff.2 hmap
      rcases Nat.le_total op.name.length found.name.length with hle | hle
      · rw [hstart h (hsame hfound) hle]
      · rw [hstart (hsame hfound) h hle]

end Operator

namespace RuleSet.Source

open Cursor (isTrivia)

inductive IsLayout : Text → Prop
  | nil : IsLayout []
  | blank {c : Char} {g : Text} : (Text.isSpaceOrTab c || Text.isLineEnd c) = true → IsLayout g →
      IsLayout (c :: g)
  | comment {t : Text} {c : Char} {g : Text} : (∀ x ∈ t, Text.isLineEnd x = false) →
      Text.isLineEnd c = true → IsLayout g → IsLayout ('#' :: (t ++ c :: g))

inductive IsLastLayout : Text → Prop
  | closed {g : Text} : IsLayout g → IsLastLayout g
  | comment {g t : Text} : IsLayout g → (∀ x ∈ t, Text.isLineEnd x = false) →
      IsLastLayout (g ++ '#' :: t)

structure Token where
  text : Text
  rest : Text
  endsOperand : Bool
  deriving DecidableEq, Repr

def wordOrSign (c : Char) (t : Text) : Token :=
  if isIdentifierStart c then
    ⟨c :: t.takeWhile isIdentifierPart, t.dropWhile isIdentifierPart, true⟩
  else if c.isDigit || (c == '+' || c == '-') && t.head?.any Char.isDigit then
    ⟨c :: t.takeWhile Char.isDigit, t.dropWhile Char.isDigit, true⟩
  else if c == '"' then
    match Quoted.decode ⟨[], c :: t⟩ with
    | .ok (_, stop) => ⟨stop.behind.reverse, stop.ahead, true⟩
    | .error _ => ⟨[c], t, false⟩
  else ⟨[c], t, c == '>'⟩

def firstToken (behindOperand : Bool) : Text → Token
  | [] => ⟨[], [], false⟩
  | c :: t =>
      match if behindOperand then Operator.atStart? (c :: t) else none with
      | some op => ⟨(c :: t).take op.name.length, (c :: t).drop op.name.length, false⟩
      | none => wordOrSign c t

structure Recased (a b : Text) : Prop where
  same : Text.sameAscii a b = true
  quoted : a.head? = some '"' → b = a

def StartsToken (t : Text) : Prop :=
  ∃ c u, t = c :: u ∧ isTrivia c = false

/-- The second source has the tokens of the first one, in any letter case. What layout stands
before, between and behind them may differ, as long as tokens that are apart stay apart. The flag
says whether the sources start behind an operand, where a word may be an operator. -/
inductive Relaid : Bool → Text → Text → Prop
  | done {b : Bool} {g g' : Text} : IsLastLayout g → IsLastLayout g' → Relaid b g g'
  | token {b : Bool} {g g' t t' rest' : Text} : IsLayout g → IsLayout g' → (g' = [] → g = []) →
      StartsToken t → Recased (firstToken b t).text t' →
      Relaid (firstToken b t).endsOperand (firstToken b t).rest rest' →
      Relaid b (g ++ t) (g' ++ (t' ++ rest'))

section Layout

variable {g h t : Text} {c : Char}

theorem IsLayout.append (hg : IsLayout g) (hh : IsLayout h) : IsLayout (g ++ h) := by
  induction hg with
  | nil => exact hh
  | blank hc _ ih => exact .blank hc ih
  | @comment t c g ht hc _ ih =>
      rw [List.cons_append, List.append_assoc]
      exact .comment ht hc ih

theorem IsLayout.append_last (hg : IsLayout g) (hh : IsLastLayout h) : IsLastLayout (g ++ h) := by
  cases hh with
  | closed hh => exact .closed (hg.append hh)
  | comment hh ht =>
      rw [← List.append_assoc]
      exact .comment (hg.append hh) ht

theorem isTrivia_of_isLayout (hg : IsLayout g) : ∀ x ∈ g.head?, isTrivia x = true := by
  cases hg with
  | nil => simp
  | blank hc =>
      intro x hx
      obtain rfl := Option.some.inj hx
      rw [isTrivia, hc, Bool.true_or]
  | comment => simp [isTrivia]

theorem isTrivia_of_isLastLayout (hg : IsLastLayout g) : ∀ x ∈ g.head?, isTrivia x = true := by
  cases hg with
  | closed hg => exact isTrivia_of_isLayout hg
  | @comment g t hg ht =>
      intro x hx
      cases g with
      | nil =>
          obtain rfl := Option.some.inj hx
          decide
      | cons y g => exact isTrivia_of_isLayout hg x hx

theorem skipTriviaFrom_comment (ht : ∀ x ∈ t, Text.isLineEnd x = false) (behind rest : Text) :
    Cursor.skipTriviaFrom true behind (t ++ rest) =
      Cursor.skipTriviaFrom true (t.reverse ++ behind) rest := by
  induction t generalizing behind with
  | nil => rfl
  | cons x t ih =>
      obtain ⟨hx, ht⟩ := List.forall_mem_cons.1 ht
      rw [List.cons_append, Cursor.skipTriviaFrom, hx, Bool.not_false, ih ht]
      simp

theorem skipTrivia_layout (hg : IsLayout g) (behind t : Text) :
    Cursor.skipTrivia ⟨behind, g ++ t⟩ = Cursor.skipTrivia ⟨g.reverse ++ behind, t⟩ := by
  induction hg generalizing behind with
  | nil => rfl
  | blank hc _ ih =>
      rw [List.cons_append, Cursor.skipTrivia_blank hc, ih]
      simp
  | @comment u c g hu hc _ ih =>
      have hhash : (Text.isSpaceOrTab '#' || Text.isLineEnd '#') = false := by decide
      have hopen := ih (c :: (u.reverse ++ '#' :: behind))
      simp only [Cursor.skipTrivia] at hopen ⊢
      rw [List.cons_append, Cursor.skipTriviaFrom, List.append_assoc, List.cons_append]
      simp only [hhash, beq_self_eq_true, ↓reduceIte, Bool.false_eq_true]
      rw [skipTriviaFrom_comment hu, Cursor.skipTriviaFrom, hc, Bool.not_true, hopen]
      simp

theorem ahead_skipTrivia_last (hg : IsLastLayout g) (behind : Text) :
    (Cursor.skipTrivia ⟨behind, g⟩).ahead = [] := by
  cases hg with
  | closed hg =>
      have h := skipTrivia_layout hg behind []
      rw [List.append_nil] at h
      rw [h]
      rfl
  | @comment g t hg ht =>
      have hopen := skipTriviaFrom_comment ht ('#' :: (g.reverse ++ behind)) []
      rw [List.append_nil] at hopen
      rw [skipTrivia_layout hg, Cursor.skipTrivia, Cursor.skipTriviaFrom]
      simp [hopen, Cursor.skipTriviaFrom, Text.isSpaceOrTab, Text.isLineEnd]

theorem exists_layout (t : Text) :
    IsLastLayout t ∨ ∃ g u, t = g ++ u ∧ IsLayout g ∧ StartsToken u := by
  induction hn : t.length using Nat.strongRecOn generalizing t with
  | ind n ih =>
      -- What stands behind a closed piece of layout is shorter.
      have hmore {g u : Text} (hg : IsLayout g) (hlt : u.length < n) (ht : t = g ++ u) :
          IsLastLayout t ∨ ∃ g u, t = g ++ u ∧ IsLayout g ∧ StartsToken u := by
        rcases ih u.length hlt u rfl with hu | ⟨h, v, rfl, hh, hv⟩
        · exact .inl (ht ▸ hg.append_last hu)
        · exact .inr ⟨g ++ h, v, by rw [ht, List.append_assoc], hg.append hh, hv⟩
      cases t with
      | nil => exact .inl (.closed .nil)
      | cons c u =>
          cases hc : isTrivia c with
          | false => exact .inr ⟨[], c :: u, rfl, .nil, c, u, rfl, hc⟩
          | true =>
              by_cases hblank : (Text.isSpaceOrTab c || Text.isLineEnd c) = true
              · exact hmore (.blank hblank .nil) (by simp at hn; omega) rfl
              · obtain rfl : c = '#' := by simpa [isTrivia, hblank] using hc
                by_cases hend : ∀ x ∈ u, (!Text.isLineEnd x) = true
                · exact .inl (.comment (g := []) .nil (by simpa using hend))
                · obtain ⟨a, x, v, rfl, ha, hx⟩ := exists_stop hend
                  exact hmore (u := v) (.comment (by simpa using ha) (by simpa using hx) .nil)
                    (by simp at hn; omega) (by simp)

end Layout

section Tokens

variable {b : Bool} {t t' : Text} {c : Char}

theorem wordOrSign_spec (c : Char) (t : Text) :
    ∃ u, (wordOrSign c t).text = c :: u ∧ t = u ++ (wordOrSign c t).rest := by
  rw [wordOrSign]
  split
  · exact ⟨_, rfl, List.takeWhile_append_dropWhile.symm⟩
  · split
    · exact ⟨_, rfl, List.takeWhile_append_dropWhile.symm⟩
    · split
      · rename_i hquote
        obtain rfl : c = '"' := by simpa using hquote
        split
        · rename_i hdecode
          obtain ⟨q, hspans, -⟩ := Quoted.exists_spans_of_decode hdecode
          exact ⟨q, by simp [hspans.2], (List.cons.inj hspans.1).2⟩
        · exact ⟨[], rfl, rfl⟩
      · exact ⟨[], rfl, rfl⟩

theorem firstToken_spec (b : Bool) (c : Char) (t : Text) :
    ∃ u, (firstToken b (c :: t)).text = c :: u ∧ t = u ++ (firstToken b (c :: t)).rest := by
  rw [firstToken]
  split
  · rename_i op _
    have hlength : ∃ n, op.name.length = n + 1 := by cases op <;> exact ⟨_, rfl⟩
    obtain ⟨n, hn⟩ := hlength
    exact ⟨t.take n, by simp [hn], by simp [hn]⟩
  · exact wordOrSign_spec c t

theorem Relaid.refl (b : Bool) (t : Text) : Relaid b t t := by
  induction hn : t.length using Nat.strongRecOn generalizing b t with
  | ind n ih =>
      rcases exists_layout t with ht | ⟨g, u, rfl, hg, hu⟩
      · exact .done ht ht
      · obtain ⟨c, u, rfl, hc⟩ := hu
        obtain ⟨v, htext, hrest⟩ := firstToken_spec b c u
        have hlength := congrArg List.length hrest
        simp only [List.length_append, List.length_cons] at hn hlength
        have hmore := ih _ (by omega) (firstToken b (c :: u)).endsOperand
          (firstToken b (c :: u)).rest rfl
        have h := Relaid.token hg hg id ⟨c, u, rfl, hc⟩ ⟨Text.sameAscii_refl _, fun _ => rfl⟩ hmore
        rwa [htext, List.cons_append, ← hrest] at h

end Tokens

def Aligned (b : Bool) (t t' : Text) : Prop :=
  StartsToken t ∧ ∃ u rest', t' = u ++ rest' ∧ Recased (firstToken b t).text u ∧
    Relaid (firstToken b t).endsOperand (firstToken b t).rest rest'

section Alignment

variable {b : Bool} {t t' : Text} {p : Char → Bool} {x : Char} {c c' : Cursor}

theorem ignoresCase_isTrivia : IgnoresCase isTrivia :=
  ignoresCase_of_ascii (by decide)

theorem Aligned.exists_heads (h : Aligned b t t') :
    ∃ x u x' u', t = x :: u ∧ t' = x' :: u' ∧ x.toLower = x'.toLower ∧ isTrivia x = false := by
  obtain ⟨⟨x, u, rfl, hx⟩, v, rest', rfl, ⟨hsame, -⟩, -⟩ := h
  obtain ⟨w, htext, -⟩ := firstToken_spec b x u
  rw [htext] at hsame
  obtain ⟨x', v, rfl, hxx, -⟩ := Text.exists_of_sameAscii_cons hsame
  exact ⟨x, u, x', v ++ rest', rfl, rfl, hxx, hx⟩

theorem Aligned.startsToken (h : Aligned b t t') : StartsToken t' := by
  obtain ⟨x, u, x', u', rfl, rfl, hxx, hx⟩ := h.exists_heads
  refine ⟨x', u', rfl, ?_⟩
  rw [← ignoresCase_isTrivia x', ← hxx, ignoresCase_isTrivia x, hx]

theorem Aligned.head?_iff (h : Aligned b t t') (hx : x.isAlpha = false) :
    t'.head? = some x ↔ t.head? = some x := by
  obtain ⟨y, u, y', u', rfl, rfl, hyy, -⟩ := h.exists_heads
  simp only [List.head?_cons, Option.some.injEq]
  constructor
  · rintro rfl
    exact eq_of_toLower_eq hx hyy.symm
  · rintro rfl
    exact eq_of_toLower_eq hx hyy

theorem skipTrivia_of_startsToken {behind : Text} (h : StartsToken t) :
    Cursor.skipTrivia ⟨behind, t⟩ = ⟨behind, t⟩ := by
  obtain ⟨x, u, rfl, hx⟩ := h
  exact Cursor.skipTrivia_cons hx

theorem Relaid.skipTrivia_from (h : Relaid b t t') (behind behind' : Text) :
    (Cursor.skipTrivia ⟨behind, t⟩).ahead = [] ∧ (Cursor.skipTrivia ⟨behind', t'⟩).ahead = [] ∨
      Aligned b (Cursor.skipTrivia ⟨behind, t⟩).ahead (Cursor.skipTrivia ⟨behind', t'⟩).ahead := by
  cases h with
  | done hg hg' => exact .inl ⟨ahead_skipTrivia_last hg behind, ahead_skipTrivia_last hg' behind'⟩
  | @token _ g g' t u rest' hg hg' _ ht hu hrest =>
      have haligned : Aligned b t (u ++ rest') := ⟨ht, u, rest', rfl, hu, hrest⟩
      rw [skipTrivia_layout hg, skipTrivia_layout hg', skipTrivia_of_startsToken ht,
        skipTrivia_of_startsToken haligned.startsToken]
      exact .inr haligned

theorem Relaid.skipTrivia (h : Relaid b c.ahead c'.ahead) :
    c.skipTrivia.ahead = [] ∧ c'.skipTrivia.ahead = [] ∨
      Aligned b c.skipTrivia.ahead c'.skipTrivia.ahead :=
  h.skipTrivia_from c.behind c'.behind

theorem Relaid.stops (h : Relaid b t t') (hp : IgnoresCase p)
    (htrivia : ∀ x, isTrivia x = true → p x = false) (hs : Stops p t) : Stops p t' := by
  cases h with
  | done hg hg' => exact fun x hx => htrivia x (isTrivia_of_isLastLayout hg' x hx)
  | @token _ g g' t u rest' hg hg' hapart ht hu hrest =>
      cases g' with
      | cons y g' => exact stops_cons (htrivia y (isTrivia_of_isLayout hg' y rfl))
      | nil =>
          obtain rfl := hapart rfl
          have haligned : Aligned b t (u ++ rest') := ⟨ht, u, rest', rfl, hu, hrest⟩
          obtain ⟨x, v, x', v', rfl, heq, hxx, -⟩ := haligned.exists_heads
          rw [List.nil_append, heq]
          refine stops_cons ?_
          rw [← hp x', ← hxx, hp x]
          exact hs x rfl

theorem isTrivia_of_isIdentifierPart (hx : isTrivia x = true) : isIdentifierPart x = false := by
  cases hpart : isIdentifierPart x with
  | false => rfl
  | true => rw [Cursor.isTrivia_eq_false hpart (by decide)] at hx; cases hx

end Alignment

section Readers

variable {b : Bool} {x : Char} {t : Text} {c c' d : Cursor}

def signs : Text :=
  "*;,()<>".toList

theorem isAlpha_of_mem_signs (hx : x ∈ signs) : x.isAlpha = false := by
  have hall : signs.all (fun x => !x.isAlpha) = true := by decide
  simpa using List.all_eq_true.1 hall x hx

theorem atStart?_of_mem_signs (hx : x ∈ signs) (t : Text) : Operator.atStart? (x :: t) = none := by
  refine List.find?_eq_none.2 fun op _ hsame => ?_
  have hlength : ∃ n, op.name.length = n + 1 := by cases op <;> exact ⟨_, rfl⟩
  obtain ⟨n, hn⟩ := hlength
  rw [hn, List.take_succ_cons] at hsame
  obtain ⟨y, more, hname, hxy, -⟩ := Text.exists_of_sameAscii_cons hsame
  obtain rfl := eq_of_toLower_eq (isAlpha_of_mem_signs hx) hxy
  have hstart : op.name.toList.head? = some y := by rw [hname]; rfl
  have hnone : signs.all (fun y => op.name.toList.head? != some y) = true := by
    cases op <;> decide
  simpa [hstart] using List.all_eq_true.1 hnone y hx

theorem firstToken_of_mem_signs (hx : x ∈ signs) (t : Text) :
    firstToken b (x :: t) = ⟨[x], t, x == '>'⟩ := by
  have hall : signs.all (fun x =>
      !isIdentifierStart x && !x.isDigit && x != '+' && x != '-' && x != '"') = true := by decide
  have hplain := List.all_eq_true.1 hall x hx
  simp only [Bool.and_eq_true, Bool.not_eq_true', bne_iff_ne, and_assoc] at hplain
  obtain ⟨hstart, hdigit, hplus, hminus, hquote⟩ := hplain
  simp [firstToken, atStart?_of_mem_signs hx, wordOrSign, hstart, hdigit, hplus, hminus, hquote]

theorem Aligned.next (h : Aligned b c.ahead c'.ahead) (hx : x ∈ signs)
    (hhead : c.ahead.head? = some x) : Relaid (x == '>') c.next.ahead c'.next.ahead := by
  obtain ⟨behind, t⟩ := c
  obtain ⟨behind', t'⟩ := c'
  obtain ⟨u, rfl⟩ := List.head?_eq_some_iff.1 hhead
  obtain ⟨-, v, rest', rfl, hv, hrest⟩ := h
  rw [firstToken_of_mem_signs hx] at hv hrest
  obtain rfl := Text.eq_of_sameAscii hv.same (by simpa using isAlpha_of_mem_signs hx)
  exact hrest

theorem Aligned.identifier {name : Text} (h : Aligned false c.ahead c'.ahead)
    (hid : c.identifier? = some (name, d)) :
    ∃ name' d', c'.identifier? = some (name', d') ∧ Text.sameAscii name name' = true ∧
      Relaid true d.ahead d'.ahead := by
  obtain ⟨behind, t⟩ := c
  obtain ⟨behind', t'⟩ := c'
  obtain ⟨⟨x, u, rfl, -⟩, v, rest', rfl, hv, hrest⟩ := h
  simp only [Cursor.identifier?] at hid
  split at hid
  · rename_i hx
    have hpart := isIdentifierPart_of_isIdentifierStart hx
    obtain ⟨rfl, rfl⟩ := Prod.mk.inj (Option.some.inj hid)
    have htoken : firstToken false (x :: u) =
        ⟨x :: u.takeWhile isIdentifierPart, u.dropWhile isIdentifierPart, true⟩ := by
      simp [firstToken, wordOrSign, hx]
    have hname : isIdentifier (x :: u.takeWhile isIdentifierPart) = true := by
      have := Cursor.isIdentifier_takeWhile (c := ⟨behind, x :: u⟩) (by simpa using hx)
      simpa [hpart] using this
    rw [htoken] at hv hrest
    have hstops := hrest.stops ignoresCase_isIdentifierPart (fun x => isTrivia_of_isIdentifierPart)
      (stops_dropWhile _ u)
    have hname' := isIdentifier_of_sameAscii hv.same hname
    refine ⟨v, _, Cursor.identifier?_append hname' hstops, ?_, ?_⟩
    · simpa [hpart] using hv.same
    · simpa [Cursor.skipWhile, hpart] using hrest
  · cases hid

theorem Aligned.decodeInSource (h : Aligned false c.ahead c'.ahead)
    (hquote : c.ahead.head? = some '"') (hread : Quoted.decodeInSource c = .ok (t, d)) :
    ∃ d', Quoted.decodeInSource c' = .ok (t, d') ∧ Relaid true d.ahead d'.ahead := by
  obtain ⟨behind, a⟩ := c
  obtain ⟨behind', a'⟩ := c'
  obtain ⟨u, rfl⟩ := List.head?_eq_some_iff.1 hquote
  obtain ⟨q, hspans, hq⟩ := Quoted.exists_spans_of_decode (Quoted.decodeInSource_eq_ok_iff.1 hread)
  obtain rfl : u = q ++ d.ahead := (List.cons.inj hspans.1).2
  obtain ⟨-, v, rest', rfl, hv, hrest⟩ := h
  have htoken : firstToken false ('"' :: (q ++ d.ahead)) = ⟨'"' :: q, d.ahead, true⟩ := by
    have hstart : isIdentifierStart '"' = false := by decide
    have hdigit : '"'.isDigit = false := by decide
    simp [firstToken, wordOrSign, hstart, hdigit, hq]
  rw [htoken] at hv hrest
  obtain rfl := hv.quoted rfl
  exact ⟨_, Quoted.decodeInSource_eq_ok_iff.2 (hq behind' rest'), hrest⟩

theorem isIdentifierStart_of_isDigit (hx : x.isDigit = true) : isIdentifierStart x = false := by
  cases hstart : isIdentifierStart x with
  | false => rfl
  | true => rw [Cursor.isDigit_of_isIdentifierStart hstart] at hx; cases hx

theorem isAlpha_of_isIdentifierStart (hx : isIdentifierStart x = false) : x.isAlpha = false :=
  (Bool.or_eq_false_iff.1 hx).1

theorem number_append (behind' : Text) {ds r r' behind : Text} {n : Int}
    (hx : x.isDigit = true ∨ x = '+' ∨ x = '-') (hds : ∀ y ∈ ds, y.isDigit = true)
    (hr : Stops Char.isDigit r) (hr' : Stops Char.isDigit r')
    (h : number ⟨behind, x :: (ds ++ r)⟩ = .ok (n, d)) :
    number ⟨behind', x :: (ds ++ r')⟩ = .ok (n, ⟨ds.reverse ++ x :: behind', r'⟩) := by
  have hread (behind : Text) {r : Text} (hr : Stops Char.isDigit r) :=
    Cursor.skipWhile_append behind hds hr
  have htake {r : Text} (hr : Stops Char.isDigit r) := takeWhile_append_of_stops hds hr
  by_cases hdigit : x.isDigit = true
  · have hplus : x ≠ '+' := by rintro rfl; revert hdigit; decide
    have hminus : x ≠ '-' := by rintro rfl; revert hdigit; decide
    simp only [number, List.head?_cons, Option.some.injEq, hplus, hminus, or_self, ↓reduceIte,
      List.takeWhile_cons, hdigit, htake hr, htake hr', Cursor.skipWhile_cons,
      hread (x :: behind) hr, hread (x :: behind') hr'] at h ⊢
    split at h
    · cases h
    · rename_i hvalue
      rw [if_neg hvalue]
      cases h
      rfl
  · have hsign : x = '+' ∨ x = '-' := hx.resolve_left hdigit
    simp only [number, List.head?_cons, Option.some.injEq, hsign, ↓reduceIte, Cursor.next_cons,
      htake hr, htake hr', hread (x :: behind) hr, hread (x :: behind') hr'] at h ⊢
    generalize (if x = '-' then _ else _ : Int) = value at h ⊢
    split at h
    · cases h
    · rename_i hvalue
      rw [if_neg hvalue]
      cases h
      rfl

theorem head_of_number {n : Int} {behind : Text} (hx : x = '+' ∨ x = '-')
    (h : number ⟨behind, x :: t⟩ = .ok (n, d)) : t.head?.any Char.isDigit = true := by
  by_contra hnone
  have hstops : Stops Char.isDigit t := stops_iff.2 (by simpa using hnone)
  simp [number, hx, takeWhile_of_stops hstops, Cursor.skipWhile, dropWhile_of_stops hstops] at h

theorem Aligned.number {n : Int} (h : Aligned false c.ahead c'.ahead)
    (hhead : c.ahead.head? = some x) (hx : x.isDigit = true ∨ x = '+' ∨ x = '-')
    (hread : number c = .ok (n, d)) :
    ∃ d', number c' = .ok (n, d') ∧ Relaid true d.ahead d'.ahead := by
  obtain ⟨behind, t⟩ := c
  obtain ⟨behind', t'⟩ := c'
  obtain ⟨u, rfl⟩ := List.head?_eq_some_iff.1 hhead
  obtain ⟨-, v, rest', rfl, hv, hrest⟩ := h
  have hstart : isIdentifierStart x = false := by
    rcases hx with hx | rfl | rfl
    · exact isIdentifierStart_of_isDigit hx
    · decide
    · decide
  have htoken : firstToken false (x :: u) =
      ⟨x :: u.takeWhile Char.isDigit, u.dropWhile Char.isDigit, true⟩ := by
    by_cases hdigit : x.isDigit = true
    · simp [firstToken, wordOrSign, hstart, hdigit]
    · have hsign := hx.resolve_left hdigit
      simp [firstToken, wordOrSign, hstart, hsign, head_of_number hsign hread]
  rw [htoken] at hv hrest
  have hdigits : ∀ y ∈ u.takeWhile Char.isDigit, y.isDigit = true :=
    List.all_eq_true.1 List.all_takeWhile
  obtain rfl := Text.eq_of_sameAscii hv.same (List.forall_mem_cons.2
    ⟨isAlpha_of_isIdentifierStart hstart,
      fun y hy => isAlpha_of_isIdentifierStart (isIdentifierStart_of_isDigit (hdigits y hy))⟩)
  have hstops := stops_dropWhile Char.isDigit u
  have hstops' := hrest.stops ignoresCase_isDigit
    (fun y hy => isDigit_of_isIdentifierPart (isTrivia_of_isIdentifierPart hy)) hstops
  rw [← List.takeWhile_append_dropWhile (p := Char.isDigit) (l := u)] at hread
  have hsame := number_append behind hx hdigits hstops hstops hread
  obtain ⟨-, rfl⟩ := Prod.mk.inj (Except.ok.inj (hread.symm.trans hsame))
  exact ⟨_, number_append _ hx hdigits hstops hstops' hread, hrest⟩

theorem Aligned.operator {op : Operator} (h : Aligned true c.ahead c'.ahead)
    (hop : Operator.atStart? c.ahead = some op) :
    Operator.atStart? c'.ahead = some op ∧
      Relaid false (c.advance op.name.length).ahead (c'.advance op.name.length).ahead := by
  obtain ⟨behind, t⟩ := c
  obtain ⟨behind', t'⟩ := c'
  obtain ⟨⟨x, u, rfl, -⟩, v, rest', rfl, hv, hrest⟩ := h
  have htoken : firstToken true (x :: u) =
      ⟨(x :: u).take op.name.length, (x :: u).drop op.name.length, false⟩ := by
    simp only [firstToken, ↓reduceIte, hop]
  rw [htoken] at hv hrest
  have hname := Text.sameAscii_trans (Text.sameAscii_symm hv.same)
    (Operator.atStart?_eq_some_iff.1 hop)
  have hlength : v.length = op.name.length := by
    simpa [String.length_toList] using congrArg List.length (Text.sameAscii_iff.1 hname)
  refine ⟨Operator.atStart?_eq_some_iff.2 ?_, ?_⟩
  · rwa [← hlength, List.take_left]
  · rw [Cursor.ahead_advance, Cursor.ahead_advance, ← hlength, List.drop_left, hlength]
    exact hrest

end Readers

end RuleSet.Source

end ListingRules
