import ListingRules.Proofs.LetterCase
import ListingRules.Proofs.PrintedConditions
import ListingRules.Proofs.QuotedTexts

namespace ListingRules

namespace Formula

variable {α β γ : Type} {R : α → β → Prop} {S : α → γ → Prop} {T : β → γ → Prop}

theorem Related.trans {p : Formula α} {q : Formula β} {r : Formula γ} (h : Related R p q)
    (h' : Related S p r) (hT : ∀ a b c, R a b → S a c → T b c) : Related T q r := by
  induction p generalizing q r with
  | test a =>
      cases q <;> cases r <;> first | exact h.elim | exact h'.elim | exact hT _ _ _ h h'
  | not p ih =>
      cases q with
      | not q =>
          cases r with
          | not r => exact ih (q := q) (r := r) h h'
          | _ => exact h'.elim
      | _ => exact h.elim
  | and p p' ih ih' =>
      cases q <;> cases r <;>
        first | exact h.elim | exact h'.elim | exact ⟨ih h.1 h'.1, ih' h.2 h'.2⟩
  | or p p' ih ih' =>
      cases q <;> cases r <;>
        first | exact h.elim | exact h'.elim | exact ⟨ih h.1 h'.1, ih' h.2 h'.2⟩

theorem Related.symm {p : Formula α} {q : Formula β} (h : Related R p q) :
    Related (fun b a => R a b) q p := by
  induction p generalizing q with
  | test a => cases q <;> first | exact h.elim | exact h
  | not p ih =>
      cases q with
      | not q => exact ih (q := q) h
      | _ => exact h.elim
  | and p p' ih ih' => cases q <;> first | exact h.elim | exact ⟨ih h.1, ih' h.2⟩
  | or p p' ih ih' => cases q <;> first | exact h.elim | exact ⟨ih h.1, ih' h.2⟩

def groupLeft (join : Formula α → Formula α → Formula α) : List (Formula α) → Option (Formula α)
  | [] => none
  | p :: ps => some (ps.foldl join p)

theorem groupLeft_append_singleton (join : Formula α → Formula α → Formula α)
    (ps : List (Formula α)) (q : Formula α) :
    groupLeft join (ps ++ [q]) = some (match groupLeft join ps with
      | none => q
      | some p => join p q) := by
  cases ps <;> simp [groupLeft]

def runsOf (run : List α) : List (Connective × α) → List (List α)
  | [] => [run]
  | (.and, x) :: rest => runsOf (run ++ [x]) rest
  | (.or, x) :: rest => run :: runsOf [x] rest

theorem runsFrom_map (f : β → Formula α) (run : List β) (rest : List (Connective × β)) :
    runsFrom (run.map f) (rest.map fun l => (l.1, f l.2)) = (runsOf run rest).map (·.map f) := by
  induction rest generalizing run with
  | nil => rfl
  | cons l rest ih =>
      obtain ⟨_ | _, x⟩ := l
      · simpa [runsFrom, runsOf] using ih (run ++ [x])
      · simpa [runsFrom, runsOf] using ih [x]

theorem closeRun_groupLeft (done : List (Formula α)) (run : Formula α) :
    some (closeRun (groupLeft or done) run) = groupLeft or (done ++ [run]) := by
  rw [groupLeft_append_singleton]
  cases groupLeft or done <;> rfl

theorem chainFrom_eq_groupLeft (done conjuncts : List (Formula α)) {run : Formula α}
    (hrun : groupLeft and conjuncts = some run) (rest : List (Connective × Formula α)) :
    some (chainFrom (groupLeft or done) run rest) =
      groupLeft or (done ++ (runsFrom conjuncts rest).filterMap (groupLeft and)) := by
  induction rest generalizing done conjuncts run with
  | nil => simpa [chainFrom, runsFrom, hrun] using closeRun_groupLeft done run
  | cons l rest ih =>
      obtain ⟨_ | _, p⟩ := l
      · exact ih done (conjuncts ++ [p]) (by rw [groupLeft_append_singleton, hrun])
      · have hnext := ih (done ++ [run]) [p] rfl
        rw [← closeRun_groupLeft] at hnext
        simpa [chainFrom, runsFrom, hrun] using hnext

theorem chain_eq_groupLeft (first : Formula α) (rest : List (Connective × Formula α)) :
    some (chain first rest) = groupLeft or ((runs first rest).filterMap (groupLeft and)) :=
  chainFrom_eq_groupLeft [] [first] rfl rest

end Formula

namespace Condition

open Formula (Related)

def IsSpaces (t : Text) : Prop :=
  ∀ x ∈ t, Text.isSpace x = true

instance (t : Text) : Decidable (IsSpaces t) :=
  List.decidableBAll (fun x => Text.isSpace x = true) t

structure Keyword (name : Text) where
  word : Text
  gap : Text
  named : Text.sameAscii name word = true
  spaces : IsSpaces gap

def Keyword.text {name : Text} (k : Keyword name) : Text :=
  k.word ++ k.gap

structure CallText where
  function : ConditionFunction
  name : Text
  beforeParen : Text
  beforeQuote : Text
  quoted : Text
  behindQuote : Text
  named : Text.sameAscii function.name.toList name = true
  spaces : IsSpaces beforeParen ∧ IsSpaces beforeQuote ∧ IsSpaces behindQuote
  isQuoted : Quoted.IsQuoted quoted

def CallText.parameter (k : CallText) : Text :=
  k.beforeParen ++ '(' :: (k.beforeQuote ++ (k.quoted ++ (k.behindQuote ++ [')'])))

def CallText.text (k : CallText) : Text :=
  k.name ++ k.parameter

structure SignedTerm where
  negation : Option (Keyword "not".toList)
  term : Text
  apart : ∀ k ∈ negation, Stops isIdentifierPart (k.gap ++ term)

namespace SignedTerm

def text (s : SignedTerm) : Text :=
  s.negation.elim [] Keyword.text ++ s.term

def isNegated (s : SignedTerm) : Bool :=
  s.negation.isSome

def formula {α : Type} (s : SignedTerm) (p : Formula α) : Formula α :=
  if s.isNegated then .not p else p

end SignedTerm

structure ChainLink where
  before : Text
  connective : Connective
  keyword : Keyword connective.keyword
  operand : SignedTerm
  spaces : IsSpaces before
  apart : Stops isIdentifierPart (keyword.gap ++ operand.text)

def ChainLink.text (l : ChainLink) : Text :=
  l.before ++ (l.keyword.text ++ l.operand.text)

structure Chain where
  first : SignedTerm
  rest : List ChainLink

namespace Chain

def text (c : Chain) : Text :=
  c.first.text ++ c.rest.flatMap ChainLink.text

def operands (c : Chain) : List SignedTerm :=
  c.first :: c.rest.map (·.operand)

def runs (c : Chain) : List (List SignedTerm) :=
  Formula.runsOf [c.first] (c.rest.map fun l => (l.connective, l.operand))

def formula {α : Type} (c : Chain) (value : SignedTerm → Formula α) : Formula α :=
  .chain (c.first.formula (value c.first))
    (c.rest.map fun l => (l.connective, l.operand.formula (value l.operand)))

end Chain

inductive IsTerm : Text → Prop
  | call (k : CallText) : IsTerm k.text
  | group {before behind : Text} {c : Chain} : IsSpaces before → IsSpaces behind →
      (∀ s ∈ c.operands, IsTerm s.term) →
      IsTerm ('(' :: (before ++ (c.text ++ (behind ++ [')']))))

section Tokens

variable {behind g t rest : Text}

theorem isSpace_of_isIdentifierPart {c : Char} (h : isIdentifierPart c = true) :
    Text.isSpace c = false := by
  cases hc : Text.isSpace c with
  | false => rfl
  | true =>
      have hascii : Bytewise.IsAscii c := Nat.lt_of_le_of_lt (of_decide_eq_true hc) (by decide)
      obtain ⟨n, hn, rfl⟩ := Bytewise.eq_ofNat_of_isAscii hascii
      revert n
      decide

theorem stops_of_isSpaces (hg : IsSpaces g) : Stops isIdentifierPart g := by
  intro x hx
  cases hpart : isIdentifierPart x with
  | false => rfl
  | true =>
      have hspace := hg x (List.mem_of_mem_head? hx)
      rw [isSpace_of_isIdentifierPart hpart] at hspace
      cases hspace

theorem skip_spaces (hg : IsSpaces g) : skip ⟨behind, g ++ t⟩ = skip ⟨g.reverse ++ behind, t⟩ :=
  Cursor.skipWhile_append_all behind hg

theorem operand_spaces (hg : IsSpaces g) (depth : Nat) :
    operand depth ⟨behind, g ++ t⟩ = operand depth ⟨g.reverse ++ behind, t⟩ := by
  cases depth <;> simp only [operand, skip_spaces hg]

theorem sign_spaces {c : Char} (missing : Cursor → SourceError) (hg : IsSpaces g)
    (hc : Text.isSpace c = false) :
    sign c missing ⟨behind, g ++ c :: t⟩ = .ok ⟨c :: (g.reverse ++ behind), t⟩ := by
  rw [sign, skip_spaces hg, skip_visible hc]
  simp

theorem word_named (behind : Text) {name w : Text} (hname : ∀ x ∈ name, isIdentifierPart x = true)
    (hw : Text.sameAscii name w = true) (hrest : Stops isIdentifierPart rest) :
    word ⟨behind, w ++ rest⟩ = w ∧ afterWord ⟨behind, w ++ rest⟩ = ⟨w.reverse ++ behind, rest⟩ := by
  have hparts := Text.all_of_sameAscii ignoresCase_isIdentifierPart hw hname
  exact ⟨takeWhile_append_of_stops hparts hrest, Cursor.skipWhile_append behind hparts hrest⟩

theorem skip_named (behind rest : Text) {name w : Text}
    (hname : ∀ x ∈ name, isIdentifierPart x = true) (hne : name ≠ [])
    (hw : Text.sameAscii name w = true) :
    skip ⟨behind, w ++ rest⟩ = ⟨behind, w ++ rest⟩ := by
  obtain ⟨x, name, rfl⟩ := List.exists_cons_of_ne_nil hne
  obtain ⟨y, w, rfl, hxy, -⟩ := Text.exists_of_sameAscii_cons hw
  refine skip_visible (isSpace_of_isIdentifierPart ?_)
  rw [← ignoresCase_isIdentifierPart y, ← hxy, ignoresCase_isIdentifierPart x]
  exact hname x List.mem_cons_self

end Tokens

section Calls

def Alike [PatternEngine] (a b : Call) : Prop :=
  ∀ read t, Makes read a t ↔ Makes read b t

theorem alike_of_isQuoted [PatternEngine] {q : Text} (hq : Quoted.IsQuoted q)
    (f : ConditionFunction) (u u' rest rest' : Text) :
    Alike ⟨f, ⟨u, q ++ rest⟩⟩ ⟨f, ⟨u', q ++ rest'⟩⟩ := by
  intro read t
  rw [makes_iff, makes_iff]
  constructor <;>
  · rintro ⟨s, stop, hs, hstands⟩
    exact ⟨s, _, hq.decodeInSource_append hs _ _, hstands⟩

theorem call_parameter (k : CallText) (behind rest : Text) :
    ∃ u, call k.function ⟨behind, k.parameter ++ rest⟩ =
      .ok (⟨k.function, ⟨u, k.quoted ++ (k.behindQuote ++ ')' :: rest)⟩⟩,
        ⟨k.parameter.reverse ++ behind, rest⟩) := by
  obtain ⟨hparen, hquote, hbehind⟩ := k.spaces
  obtain ⟨body, -, hbody, -⟩ := k.isQuoted.exists_body
  have hskip (u t : Text) : skip ⟨u, k.beforeQuote ++ (k.quoted ++ t)⟩ =
      ⟨k.beforeQuote.reverse ++ u, k.quoted ++ t⟩ := by
    rw [skip_spaces hquote, hbody]
    exact skip_visible (by decide)
  have hhead (t : Text) : (k.quoted ++ t).head? = some '"' := by
    rw [hbody]
    rfl
  have hsplit : k.parameter ++ rest = k.beforeParen ++ '(' :: (k.beforeQuote ++
      (k.quoted ++ (k.behindQuote ++ ')' :: rest))) := by
    simp [CallText.parameter]
  refine ⟨k.beforeQuote.reverse ++ '(' :: (k.beforeParen.reverse ++ behind), ?_⟩
  rw [hsplit, call, sign_spaces _ hparen (by decide)]
  simp only [bind, Except.bind, hskip, hhead, ne_eq, not_true_eq_false, ↓reduceIte,
    k.isQuoted.close?_append, sign_spaces _ hbehind (by decide : Text.isSpace ')' = false), pure,
    Except.pure]
  simp [CallText.parameter]

theorem term_call (k : CallText) (depth : Nat) (behind rest : Text) :
    ∃ u behind', term (depth + 1) ⟨behind, k.text ++ rest⟩ =
      .ok (.test ⟨k.function, ⟨u, k.quoted ++ (k.behindQuote ++ ')' :: rest)⟩⟩,
        ⟨behind', rest⟩) := by
  have hstops : Stops isIdentifierPart (k.parameter ++ rest) := by
    rw [CallText.parameter, List.append_assoc]
    exact (stops_of_isSpaces k.spaces.1).append (stops_cons (by decide))
  obtain ⟨hword, hafter⟩ := word_named behind (isIdentifierPart_name k.function) k.named
    hstops
  have hname : ConditionFunction.ofName? k.name = some k.function := by
    simp only [ConditionFunction.ofName?, ← Text.sameAscii_congr_right k.named]
    exact ConditionFunction.ofName?_name k.function
  obtain ⟨u, hcall⟩ := call_parameter k (k.name.reverse ++ behind) rest
  refine ⟨u, k.parameter.reverse ++ (k.name.reverse ++ behind), ?_⟩
  rw [CallText.text, List.append_assoc, term, hword, hname, hafter]
  dsimp only
  rw [hcall]
  rfl

end Calls

section Chains

variable {β : Type} {R : Call → β → Prop}

def TermReads (R : Call → β → Prop) (t : Text) (p : Formula β) : Prop :=
  ∀ depth, 3 * t.length ≤ depth + 2 → ∀ rest, Reads R id (term depth) t rest p

def OperandReads (R : Call → β → Prop) (t : Text) (p : Formula β) : Prop :=
  t ≠ [] ∧ ∀ depth, 3 * t.length ≤ depth + 1 → ∀ rest,
    Reads R SignedFormula.formula (operand depth) t rest p

def EndsChain (rest : Text) : Prop :=
  ∀ behind, connective? (skip ⟨behind, rest⟩) = none

theorem endsChain_append {g rest : Text} (hg : IsSpaces g) (h : Ends rest) :
    EndsChain (g ++ rest) := by
  intro behind
  rw [skip_spaces hg]
  exact connective?_of_ends h

theorem links_of_endsChain {rest : Text} (h : EndsChain rest) (depth : Nat) (behind : Text) :
    links depth ⟨behind, rest⟩ = .ok ([], ⟨behind, rest⟩) := by
  cases depth with
  | zero => rfl
  | succ depth => rw [links, h behind]

theorem length_chainLink (l : ChainLink) : 2 + l.operand.text.length ≤ l.text.length := by
  have hword := congrArg List.length (Text.sameAscii_iff.1 l.keyword.named)
  have hkeyword : 2 ≤ l.connective.keyword.length := by cases l.connective <;> decide
  simp only [List.length_map] at hword
  simp only [ChainLink.text, Keyword.text, List.length_append]
  omega

theorem isIdentifierPart_not : ∀ x ∈ "not".toList, isIdentifierPart x = true :=
  List.all_eq_true.1 (by decide)

structure StartsTerm (t : Text) : Prop where
  visible : Stops Text.isSpace t
  firstWord : ∃ u v, t = u ++ v ∧ (∀ x ∈ u, isIdentifierPart x = true) ∧ v ≠ [] ∧
    Stops isIdentifierPart v ∧ isKeyword "not" u = false

theorem startsTerm_of_isTerm {t : Text} (h : IsTerm t) : StartsTerm t := by
  cases h with
  | call k =>
      have hparts := Text.all_of_sameAscii ignoresCase_isIdentifierPart k.named
        (isIdentifierPart_name k.function)
      have hnot : isKeyword "not" k.name = false := by
        rw [isKeyword, ← Text.sameAscii_congr_right k.named]
        cases k.function <;> decide
      have hne : k.name ≠ [] := by
        intro hnil
        have hnamed := k.named
        rw [hnil] at hnamed
        revert hnamed
        cases k.function <;> decide
      refine ⟨fun x hx => ?_, k.name, k.parameter, rfl, hparts, by simp [CallText.parameter],
        (stops_of_isSpaces k.spaces.1).append (stops_cons (by decide)), hnot⟩
      rw [CallText.text, List.head?_append_of_ne_nil _ hne] at hx
      exact isSpace_of_isIdentifierPart (hparts x (List.mem_of_mem_head? hx))
  | group =>
      exact ⟨stops_cons (by decide), [], _, rfl, by simp, by simp, stops_cons (by decide),
        by decide⟩

namespace StartsTerm

variable {t rest : Text} (h : StartsTerm t)

include h

theorem ne_nil : t ≠ [] := by
  obtain ⟨u, v, rfl, -, hv, -⟩ := h.firstWord
  exact List.append_ne_nil_of_right_ne_nil u hv

theorem skip_eq (behind : Text) : skip ⟨behind, t ++ rest⟩ = ⟨behind, t ++ rest⟩ :=
  Cursor.skipWhile_of_stops (h.visible.append_right h.ne_nil rest)

theorem operand_eq (depth : Nat) (behind : Text) :
    operand (depth + 1) ⟨behind, t ++ rest⟩ = (do
      let (p, c) ← term depth ⟨behind, t ++ rest⟩
      return (⟨false, p⟩, c)) := by
  have hword : isKeyword "not" (word ⟨behind, t ++ rest⟩) = false := by
    obtain ⟨u, v, rfl, hu, hne, hv, hnot⟩ := h.firstWord
    have hword : word ⟨behind, u ++ v ++ rest⟩ = u := by
      rw [List.append_assoc]
      exact takeWhile_append_of_stops hu (hv.append_right hne rest)
    rw [hword, hnot]
  rw [operand, h.skip_eq, hword, if_neg Bool.false_ne_true]

end StartsTerm

theorem skip_signedTerm {s : SignedTerm} (hstart : StartsTerm s.term) (behind rest : Text) :
    skip ⟨behind, s.text ++ rest⟩ = ⟨behind, s.text ++ rest⟩ := by
  obtain ⟨_ | k, t, hapart⟩ := s
  · exact hstart.skip_eq behind
  · simp only [SignedTerm.text, Option.elim_some, Keyword.text, List.append_assoc]
    exact skip_named _ _ isIdentifierPart_not (by decide) k.named

theorem operandReads_of_termReads {s : SignedTerm} {p : Formula β} (hstart : StartsTerm s.term)
    (h : TermReads R s.term p) : OperandReads R s.text (s.formula p) := by
  refine ⟨List.append_ne_nil_of_right_ne_nil _ hstart.ne_nil, ?_⟩
  obtain ⟨_ | k, t, hapart⟩ := s
  · intro depth hdepth rest behind
    have hpos := List.length_pos_of_ne_nil hstart.ne_nil
    simp only [SignedTerm.text, Option.elim_none, List.nil_append] at hdepth hpos ⊢
    obtain ⟨depth, rfl⟩ : ∃ d, depth = d + 1 := ⟨depth - 1, by omega⟩
    obtain ⟨q, u, hq, hrel⟩ := h depth (by omega) rest behind
    refine ⟨⟨false, q⟩, u, ?_, hrel⟩
    rw [hstart.operand_eq, hq]
    rfl
  · intro depth hdepth rest behind
    have hstops := (hapart k rfl).append_right
      (List.append_ne_nil_of_right_ne_nil _ hstart.ne_nil) rest
    rw [List.append_assoc] at hstops
    have hlength : k.word.length = 3 := by
      have := congrArg List.length (Text.sameAscii_iff.1 k.named)
      simpa using this.symm
    obtain ⟨hword, hafter⟩ := word_named behind isIdentifierPart_not k.named hstops
    have hskip := skip_named behind (k.gap ++ (t ++ rest)) isIdentifierPart_not (by decide) k.named
    simp only [SignedTerm.text, Option.elim_some, Keyword.text, List.append_assoc,
      List.length_append] at hdepth ⊢
    obtain ⟨depth, rfl⟩ : ∃ d, depth = d + 1 := ⟨depth - 1, by omega⟩
    obtain ⟨q, u, hq, hrel⟩ := h depth (by simp; omega) rest
      (k.gap.reverse ++ (k.word.reverse ++ behind))
    refine ⟨⟨true, q⟩, u, ?_, hrel⟩
    rw [operand, hskip, hword, hafter, skip_spaces k.spaces, hstart.skip_eq, hq, isKeyword,
      if_pos k.named]
    rfl

theorem links_link {l : ChainLink} (hne : l.operand.text ≠ []) (depth : Nat) (behind t : Text) :
    ∃ u, links (depth + 1) ⟨behind, l.text ++ t⟩ = (do
      let (p, c) ← operand depth ⟨u, l.operand.text ++ t⟩
      let (rest, c) ← links depth c
      return ((l.connective, p) :: rest, c)) := by
  have hparts := isIdentifierPart_keyword l.connective
  have hkeyword : l.connective.keyword ≠ [] := by cases l.connective <;> decide
  have hstops := l.apart.append_right (List.append_ne_nil_of_right_ne_nil _ hne) t
  rw [List.append_assoc] at hstops
  obtain ⟨hword, hafter⟩ := word_named (l.before.reverse ++ behind) hparts l.keyword.named hstops
  have hconnective : connective? ⟨l.before.reverse ++ behind,
      l.keyword.word ++ (l.keyword.gap ++ (l.operand.text ++ t))⟩ = some l.connective := by
    simp only [connective?, hword, isKeyword, ← Text.sameAscii_congr_right l.keyword.named]
    cases l.connective <;> decide
  refine ⟨l.keyword.gap.reverse ++ (l.keyword.word.reverse ++ (l.before.reverse ++ behind)), ?_⟩
  rw [ChainLink.text, Keyword.text, links]
  simp only [List.append_assoc]
  rw [skip_spaces l.spaces, skip_named _ _ hparts hkeyword l.keyword.named, hconnective, hafter]
  dsimp only
  rw [operand_spaces l.keyword.spaces]

theorem reads_chainLinks {ls : List ChainLink} (value : SignedTerm → Formula β) {rest : Text}
    (h : ∀ l ∈ ls, OperandReads R l.operand.text (l.operand.formula (value l.operand)))
    (hrest : EndsChain rest) (depth : Nat)
    (hdepth : 3 * (ls.flatMap ChainLink.text).length ≤ depth) (behind : Text) :
    ∃ qs behind', links depth ⟨behind, ls.flatMap ChainLink.text ++ rest⟩ =
        .ok (qs, ⟨behind', rest⟩) ∧
      List.Forall₂ (fun l l' => l.1 = l'.1 ∧ Related R l.2.formula l'.2) qs
        (ls.map fun l => (l.connective, l.operand.formula (value l.operand))) := by
  induction ls generalizing depth behind with
  | nil => exact ⟨[], behind, links_of_endsChain hrest depth behind, .nil⟩
  | cons l ls ih =>
      have hlength := length_chainLink l
      rw [List.flatMap_cons, List.length_append] at hdepth
      obtain ⟨depth, rfl⟩ : ∃ d, depth = d + 1 := ⟨depth - 1, by omega⟩
      obtain ⟨hne, hl⟩ := h l List.mem_cons_self
      obtain ⟨u, hlink⟩ := links_link hne depth behind (ls.flatMap ChainLink.text ++ rest)
      obtain ⟨q, u', hq, hrel⟩ := hl depth (by omega)
        (ls.flatMap ChainLink.text ++ rest) u
      obtain ⟨qs, u'', hqs, hrels⟩ := ih (fun l hl => h l (List.mem_cons_of_mem _ hl)) depth
        (by omega) u'
      refine ⟨(l.connective, q) :: qs, u'', ?_, .cons ⟨rfl, hrel⟩ hrels⟩
      rw [List.flatMap_cons, List.append_assoc, hlink, hq]
      simp only [bind, Except.bind, hqs, pure, Except.pure]

theorem expressionReads_of_operandReads {c : Chain} {value : SignedTerm → Formula β}
    (h : ∀ s ∈ c.operands, OperandReads R s.text (s.formula (value s))) (depth : Nat)
    (hdepth : 3 * c.text.length ≤ depth) {rest : Text} (hrest : EndsChain rest) :
    Reads R id (expression depth) c.text rest (c.formula value) := by
  intro behind
  obtain ⟨hne, hfirst⟩ := h c.first List.mem_cons_self
  have hpos := List.length_pos_of_ne_nil hne
  rw [Chain.text, List.length_append] at hdepth
  obtain ⟨depth, rfl⟩ : ∃ d, depth = d + 1 := ⟨depth - 1, by omega⟩
  obtain ⟨q, u, hq, hrel⟩ := hfirst depth (by omega)
    (c.rest.flatMap ChainLink.text ++ rest) behind
  obtain ⟨qs, u', hqs, hrels⟩ := reads_chainLinks value
    (fun l hl => h l.operand (List.mem_cons_of_mem _ (List.mem_map_of_mem hl))) hrest depth
    (by omega) u
  refine ⟨SignedFormula.grouped q qs, u', ?_, SignedFormula.related_grouped hrel hrels⟩
  rw [Chain.text, List.append_assoc, expression, hq]
  simp only [bind, Except.bind, hqs, pure, Except.pure]

theorem expression_spaces {g t : Text} (hg : IsSpaces g) (depth : Nat) (behind : Text) :
    expression depth ⟨behind, g ++ t⟩ = expression depth ⟨g.reverse ++ behind, t⟩ := by
  cases depth <;> simp only [expression, operand_spaces hg, skip_spaces hg]

theorem exists_termReads [PatternEngine] {t : Text} (h : IsTerm t) : ∃ p, TermReads Alike t p := by
  induction h with
  | call k =>
      refine ⟨.test ⟨k.function, ⟨[], k.quoted ++ []⟩⟩, fun depth hdepth rest behind => ?_⟩
      have hpos := List.length_pos_of_ne_nil (startsTerm_of_isTerm (.call k)).ne_nil
      obtain ⟨depth, rfl⟩ : ∃ d, depth = d + 1 := ⟨depth - 1, by omega⟩
      obtain ⟨u, behind', hterm⟩ := term_call k depth behind rest
      exact ⟨_, behind', hterm, alike_of_isQuoted k.isQuoted k.function u [] _ []⟩
  | @group before closing c hbefore hclosing hc ih =>
      have : Nonempty (Formula Call) := ⟨(ih c.first List.mem_cons_self).choose⟩
      choose! value hvalue using ih
      refine ⟨c.formula value, fun depth hdepth rest behind => ?_⟩
      simp only [List.length_cons, List.length_append, List.length_nil] at hdepth
      obtain ⟨depth, rfl⟩ : ∃ d, depth = d + 1 := ⟨depth - 1, by omega⟩
      have hoperands : ∀ s ∈ c.operands, OperandReads Alike s.text (s.formula (value s)) :=
        fun s hs => operandReads_of_termReads (startsTerm_of_isTerm (hc s hs)) (hvalue s hs)
      obtain ⟨q, u, hq, hrel⟩ := expressionReads_of_operandReads hoperands depth (by omega)
        (endsChain_append hclosing (.inr ⟨rest, rfl⟩)) (before.reverse ++ '(' :: behind)
      refine ⟨q, ')' :: (closing.reverse ++ u), ?_, hrel⟩
      have happend : '(' :: (before ++ (c.text ++ (closing ++ [')']))) ++ rest =
          '(' :: (before ++ (c.text ++ (closing ++ ')' :: rest))) := by simp
      have hword (t : Text) : word ⟨behind, '(' :: t⟩ = [] :=
        takeWhile_of_stops (stops_cons (by decide))
      have hname : ConditionFunction.ofName? [] = none := by decide
      rw [happend, term, hword, hname]
      simp only [List.head?_cons, ↓reduceIte, Cursor.next_cons, expression_spaces hbefore, hq, bind,
        Except.bind, sign_spaces _ hclosing (by decide : Text.isSpace ')' = false), pure,
        Except.pure]

theorem ofSource_chain (c : Chain) (value : SignedTerm → Formula β) {before behind : Text}
    (h : ∀ s ∈ c.operands, IsTerm s.term ∧ TermReads R s.term (value s))
    (hbefore : IsSpaces before) (hbehind : IsSpaces behind) :
    ∃ q, ofSource (before ++ (c.text ++ behind)) = .ok (some q) ∧
      Related R q (c.formula value) := by
  have hoperands : ∀ s ∈ c.operands, OperandReads R s.text (s.formula (value s)) :=
    fun s hs => operandReads_of_termReads (startsTerm_of_isTerm (h s hs).1) (h s hs).2
  have hstart := startsTerm_of_isTerm (h c.first List.mem_cons_self).1
  have hends : EndsChain behind := by
    simpa using endsChain_append hbehind (.inl rfl)
  let depth := 3 * (before ++ (c.text ++ behind)).length + 3
  obtain ⟨q, u, hq, hrel⟩ := expressionReads_of_operandReads hoperands depth
    (by simp [depth]; omega) hends before.reverse
  have hskip : skip (Cursor.ofText (before ++ (c.text ++ behind))) =
      ⟨before.reverse, c.text ++ behind⟩ := by
    rw [Cursor.ofText, skip_spaces hbefore, Chain.text, List.append_assoc, skip_signedTerm hstart,
      List.append_nil]
  have hvisible : (c.text ++ behind).isEmpty = false := by
    obtain ⟨hne, -⟩ := hoperands c.first List.mem_cons_self
    simp [Chain.text, hne]
  have hend : (skip ⟨u, behind⟩).ahead.isEmpty = true := by
    rw [← List.append_nil behind, skip_spaces hbehind]
    rfl
  refine ⟨q, ?_, hrel⟩
  simp only [depth] at hq
  simp only [ofSource, hskip, hvisible, hq, hend, bind, Except.bind, pure, Except.pure,
    Bool.false_eq_true, ↓reduceIte]

theorem termReads_of_compileWith [PatternEngine] {read : PatternReader} {t : Text} {p : Condition}
    (ht : IsTerm t) (h : compileWith read t = .ok p) : TermReads (Makes read) t p := by
  obtain ⟨form, hform⟩ := exists_termReads ht
  have hnone : IsSpaces [] := by simp [IsSpaces]
  -- The term as a chain of its own tells which tests its calls are made into.
  obtain ⟨q, hq, hrel⟩ := ofSource_chain ⟨⟨none, t, by simp⟩, []⟩ (fun _ => form)
    (by simpa [Chain.operands] using ⟨ht, hform⟩) hnone hnone
  have hsource : ofSource t = .ok (some q) := by
    simpa [Chain.text, SignedTerm.text] using hq
  rw [compileWith, hsource] at h
  have hmade : Related (Makes read) form p :=
    hrel.trans (Formula.mapM_eq_ok_iff.1 h) fun a b t hab ha => (hab read t).1 ha
  intro depth hdepth rest behind
  obtain ⟨q', u, hq', hrel'⟩ := hform depth hdepth rest behind
  exact ⟨q', u, hq', hrel'.symm.trans hmade fun a b t hab ha => (hab read t).2 ha⟩

end Chains

section Sources

theorem runs_formula {α : Type} (c : Chain) (value : SignedTerm → Formula α) :
    Formula.runs (c.first.formula (value c.first))
        (c.rest.map fun l => (l.connective, l.operand.formula (value l.operand))) =
      c.runs.map (·.map fun s => s.formula (value s)) := by
  have h := Formula.runsFrom_map (fun s : SignedTerm => s.formula (value s)) [c.first]
    (c.rest.map fun l => (l.connective, l.operand))
  rwa [List.map_map] at h

variable [PatternEngine]

theorem evaluate_formula (s : SignedTerm) (p : Condition) (g : Greeting) :
    evaluate (s.formula p) g = true ↔ evaluate p g = !s.isNegated := by
  rw [SignedTerm.formula]
  cases s.isNegated <;> simp [evaluate, Formula.evaluate]

theorem evaluate_chain (c : Chain) (value : SignedTerm → Condition) (g : Greeting) :
    evaluate (c.formula value) g = true ↔
      ∃ run ∈ c.runs, ∀ s ∈ run, evaluate (value s) g = !s.isNegated := by
  rw [evaluate, Chain.formula, Formula.evaluate_chain, runs_formula]
  have hterm (s : SignedTerm) := evaluate_formula s (value s) g
  simp only [evaluate] at hterm
  simp [evaluate, hterm]

/-- A chain whose terms compile compiles. It holds where, in one of the runs that `and` joins, all
terms hold but the negated ones; runs are grouped to the left, and so is what they consist of. -/
theorem compileWith_chain (read : PatternReader) (c : Chain) (value : SignedTerm → Condition)
    {before behind : Text} (hbefore : IsSpaces before) (hbehind : IsSpaces behind)
    (hterms : ∀ s ∈ c.operands, IsTerm s.term ∧ compileWith read s.term = .ok (value s)) :
    ∃ p, compileWith read (before ++ (c.text ++ behind)) = .ok p ∧
      (∀ g, evaluate p g = true ↔
        ∃ run ∈ c.runs, ∀ s ∈ run, evaluate (value s) g = !s.isNegated) ∧
      some p = Formula.groupLeft .or (c.runs.filterMap fun run =>
        Formula.groupLeft .and (run.map fun s => s.formula (value s))) := by
  obtain ⟨q, hq, hrel⟩ := ofSource_chain c value
    (fun s hs => ⟨(hterms s hs).1, termReads_of_compileWith (hterms s hs).1 (hterms s hs).2⟩)
    hbefore hbehind
  refine ⟨c.formula value, ?_, fun g => ?_, ?_⟩
  · rw [compileWith, hq]
    exact Formula.mapM_eq_ok_iff.2 hrel
  · exact evaluate_chain c value g
  · rw [Chain.formula, Formula.chain_eq_groupLeft, runs_formula, List.filterMap_map]
    rfl

end Sources

namespace Chained

def systemCall : CallText where
  function := .systContains
  name := "Syst_contains".toList
  beforeParen := []
  beforeQuote := " ".toList
  quoted := "\"a\"".toList
  behindQuote := " ".toList
  named := by decide
  spaces := by decide
  isQuoted := by decide

def welcomeCall : CallText where
  function := .regExpInWelcome
  name := "reg_exp_in_welcome".toList
  beforeParen := "\t".toList
  beforeQuote := []
  quoted := "\"b+\"".toList
  behindQuote := []
  named := by decide
  spaces := by decide
  isQuoted := by decide

def negated : SignedTerm :=
  ⟨some ⟨"NOT".toList, " ".toList, by decide, by decide⟩, systemCall.text, by decide⟩

def group : Chain :=
  ⟨⟨none, systemCall.text, by decide⟩,
    [⟨" ".toList, .or, ⟨"or".toList, "\n".toList, by decide, by decide⟩,
      ⟨none, welcomeCall.text, by decide⟩, by decide, by decide⟩]⟩

def chain : Chain :=
  ⟨negated, [⟨[], .and, ⟨"And".toList, [], by decide, by decide⟩,
    ⟨none, '(' :: ([] ++ (group.text ++ (" ".toList ++ [')']))), by decide⟩, by decide, by decide⟩]⟩

def value (s : SignedTerm) : Condition :=
  let system : Condition := .test (.search .systContains (.substring ['a']))
  if s.isNegated then system
  else .or system (.test (.search .regExpInWelcome (.pattern "b+".toList
    (.inl (.repetition (.set (.caseless (.stretches [⟨98, 98, 1⟩]))) 1 none true)))))

theorem compileWith_chained :
    chain.text = "NOT Syst_contains( \"a\" )And".toList ++
        "(Syst_contains( \"a\" ) or\nreg_exp_in_welcome\t(\"b+\") )".toList ∧
      ∃ p, compileWith patterns ("\n".toList ++ (chain.text ++ " ".toList)) = .ok p ∧
        (∀ g, evaluate p g = true ↔
          ∃ run ∈ chain.runs, ∀ s ∈ run, evaluate (value s) g = !s.isNegated) ∧
        some p = Formula.groupLeft .or (chain.runs.filterMap fun run =>
          Formula.groupLeft .and (run.map fun s => s.formula (value s))) := by
  refine ⟨by decide, compileWith_chain patterns chain value (by decide) (by decide) ?_⟩
  have hgroup : ∀ s ∈ group.operands, IsTerm s.term :=
    List.forall_mem_cons.2 ⟨.call systemCall, List.forall_mem_cons.2 ⟨.call welcomeCall, by simp⟩⟩
  exact List.forall_mem_cons.2 ⟨⟨.call systemCall, by decide +kernel⟩,
    List.forall_mem_cons.2 ⟨⟨.group (by decide) (by decide) hgroup, by decide +kernel⟩, by simp⟩⟩

end Chained

end Condition

end ListingRules
