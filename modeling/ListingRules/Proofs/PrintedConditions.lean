import Mathlib.Data.List.Forall2
import ListingRules.Condition.Print
import ListingRules.Pattern.Engine
import ListingRules.Proofs.Tokens

namespace ListingRules

namespace Formula

variable {α β : Type}

def conjuncts : Formula α → Formula α × List (Connective × Formula α)
  | and p q => ((conjuncts p).1, (conjuncts p).2 ++ [(.and, q)])
  | p => (p, [])

def spine : Formula α → Formula α × List (Connective × Formula α)
  | or p q => ((spine p).1, (spine p).2 ++ (.or, (conjuncts q).1) :: (conjuncts q).2)
  | p => conjuncts p

theorem chainFrom_conjuncts (p : Formula α) (before : Option (Formula α))
    (rest : List (Connective × Formula α)) :
    chainFrom before p.conjuncts.1 (p.conjuncts.2 ++ rest) = chainFrom before p rest := by
  induction p generalizing rest with
  | and p q ihp _ =>
      rw [conjuncts, List.append_assoc, ihp]
      rfl
  | test a => rfl
  | not p _ => rfl
  | or p q _ _ => rfl

theorem chainFrom_spine (p q : Formula α) (rest : List (Connective × Formula α)) :
    chainFrom none p.spine.1 (p.spine.2 ++ (.or, q) :: rest) = chainFrom (some p) q rest := by
  induction p generalizing q rest with
  | or p r ihp _ =>
      rw [spine, List.append_assoc, List.cons_append, ihp, chainFrom_conjuncts]
      rfl
  | test a => rfl
  | not p _ => rfl
  | and p r _ _ => exact chainFrom_conjuncts (and p r) none _

theorem chain_spine (p : Formula α) : chain p.spine.1 p.spine.2 = p := by
  cases p with
  | or p q =>
      have hq := chainFrom_conjuncts q (some p) []
      rw [List.append_nil] at hq
      rw [chain, spine, chainFrom_spine, hq]
      rfl
  | and p q =>
      have hp := chainFrom_conjuncts (and p q) none []
      rw [List.append_nil] at hp
      exact hp
  | test a => rfl
  | not p => rfl

def Related (R : α → β → Prop) : Formula α → Formula β → Prop
  | test a, test b => R a b
  | not p, not q => Related R p q
  | and p p', and q q' => Related R p q ∧ Related R p' q'
  | or p p', or q q' => Related R p q ∧ Related R p' q'
  | _, _ => False

def All (P : α → Prop) : Formula α → Prop
  | test a => P a
  | not p => p.All P
  | and p q => p.All P ∧ q.All P
  | or p q => p.All P ∧ q.All P

variable {R : α → β → Prop}

theorem related_chainFrom {run : Formula α} {run' : Formula β}
    {rest : List (Connective × Formula α)} {rest' : List (Connective × Formula β)}
    {before : Option (Formula α)} {before' : Option (Formula β)}
    (hbefore : Option.Rel (Related R) before before') (hrun : Related R run run')
    (hrest : List.Forall₂ (fun l l' => l.1 = l'.1 ∧ Related R l.2 l'.2) rest rest') :
    Related R (chainFrom before run rest) (chainFrom before' run' rest') := by
  have hclose {run : Formula α} {run' : Formula β} {before : Option (Formula α)}
      {before' : Option (Formula β)} (hbefore : Option.Rel (Related R) before before')
      (hrun : Related R run run') : Related R (closeRun before run) (closeRun before' run') := by
    cases hbefore with
    | none => exact hrun
    | some h => exact ⟨h, hrun⟩
  induction hrest generalizing before before' run run' with
  | nil => exact hclose hbefore hrun
  | @cons l l' _ _ hl _ ih =>
      obtain ⟨op, p⟩ := l
      obtain ⟨op', p'⟩ := l'
      obtain ⟨rfl, hp⟩ := hl
      cases op with
      | and => exact ih hbefore ⟨hrun, hp⟩
      | or => exact ih (.some (hclose hbefore hrun)) hp

theorem mapM_eq_ok_iff {ε : Type} {f : α → Except ε β} {p : Formula α} {q : Formula β} :
    p.mapM f = .ok q ↔ Related (fun a b => f a = .ok b) p q := by
  induction p generalizing q with
  | test a =>
      cases h : f a <;> cases q <;>
        simp [mapM, Related, bind, Except.bind, pure, Except.pure, h]
  | not p ih =>
      cases q <;> cases h : p.mapM f <;>
        simp_all [mapM, Related, bind, Except.bind, pure, Except.pure]
  | and p p' ih ih' =>
      cases q <;> cases h : p.mapM f <;> cases h' : p'.mapM f <;>
        simp_all [mapM, Related, bind, Except.bind, pure, Except.pure]
  | or p p' ih ih' =>
      cases q <;> cases h : p.mapM f <;> cases h' : p'.mapM f <;>
        simp_all [mapM, Related, bind, Except.bind, pure, Except.pure]

theorem Related.all {p : Formula α} {q : Formula β} (h : Related R p q) :
    q.All fun b => ∃ a, R a b := by
  induction p generalizing q with
  | test a =>
      cases q with
      | test b => exact ⟨a, h⟩
      | _ => exact h.elim
  | not p ih =>
      cases q with
      | not q => exact ih (q := q) h
      | _ => exact h.elim
  | and p p' ih ih' =>
      cases q with
      | and q q' => exact ⟨ih h.1, ih' h.2⟩
      | _ => exact h.elim
  | or p p' ih ih' =>
      cases q with
      | or q q' => exact ⟨ih h.1, ih' h.2⟩
      | _ => exact h.elim

end Formula

theorem SignedFormula.related_grouped {α β : Type} {R : α → β → Prop} {first : SignedFormula α}
    {links : List (Connective × SignedFormula α)} {p : Formula β}
    {rest : List (Connective × Formula β)}
    (hfirst : first.formula.Related R p)
    (hlinks : List.Forall₂ (fun l l' => l.1 = l'.1 ∧ l.2.formula.Related R l'.2) links rest) :
    (grouped first links).Related R (.chain p rest) := by
  rw [grouped_eq_chain]
  exact Formula.related_chainFrom .none hfirst (List.forall₂_map_left_iff.2 hlinks)

namespace Connective

def keyword : Connective → Text
  | and => "and".toList
  | or => "or".toList

def text : Connective → Text
  | and => " and ".toList
  | or => " or ".toList

theorem text_eq (op : Connective) : op.text = ' ' :: (op.keyword ++ [' ']) := by
  cases op <;> rfl

end Connective

namespace Condition

open Formula (Related)

def Makes [PatternEngine] (read : PatternReader) (call : Call) (t : Test) : Prop :=
  testOf read call = .ok t

/-- A text that a place of the reader starts with is read as the formula, with the calls in it
related to the tests of the formula, and no more than the text is read. -/
def Reads {β γ : Type} (R : Call → β → Prop) (value : γ → Formula Call)
    (parse : Cursor → Except SourceError (γ × Cursor)) (t rest : Text) (p : Formula β) : Prop :=
  ∀ behind, ∃ q behind', parse ⟨behind, t ++ rest⟩ = .ok (q, ⟨behind', rest⟩) ∧
    Related R (value q) p

def linkText [PatternEngine] (l : Connective × Condition) : Text :=
  l.1.text ++ operandText 2 l.2 (text l.2)

theorem text_conjuncts [PatternEngine] (p : Condition) :
    operandText 1 p (text p) =
      operandText 2 p.conjuncts.1 (text p.conjuncts.1) ++ p.conjuncts.2.flatMap linkText := by
  induction p with
  | and p q ihp _ =>
      rw [Formula.conjuncts, List.flatMap_append, ← List.append_assoc, ← ihp]
      simp [operandText, Formula.strength, text, linkText, Connective.text]
  | test t => simp [Formula.conjuncts, operandText, Formula.strength]
  | not p _ => simp [Formula.conjuncts, operandText, Formula.strength]
  | or p q _ _ => simp [Formula.conjuncts, operandText, Formula.strength]

theorem text_spine [PatternEngine] (p : Condition) :
    text p = operandText 2 p.spine.1 (text p.spine.1) ++ p.spine.2.flatMap linkText := by
  induction p with
  | or p q ihp _ =>
      have hp : operandText 0 p (text p) = text p := by simp [operandText]
      rw [Formula.spine, List.flatMap_append, ← List.append_assoc, ← ihp, List.flatMap_cons, text,
        hp, text_conjuncts q, List.append_assoc]
      rfl
  | and p q _ _ =>
      have h := text_conjuncts (.and p q)
      rwa [operandText, if_neg (by simp [Formula.strength])] at h
  | test t => simp [Formula.spine, Formula.conjuncts, operandText, Formula.strength]
  | not p _ => simp [Formula.spine, Formula.conjuncts, operandText, Formula.strength]

section Tokens

variable {c : Char} {behind t rest : Text}

theorem skip_visible (h : Text.isSpace c = false) : skip ⟨behind, c :: t⟩ = ⟨behind, c :: t⟩ :=
  Cursor.skipWhile_of_stops (stops_cons h)

theorem skip_space : skip ⟨behind, ' ' :: t⟩ = skip ⟨' ' :: behind, t⟩ := by
  have hspace : Text.isSpace ' ' = true := by decide
  simp [skip, Cursor.skipWhile, hspace]

theorem operand_space (depth : Nat) :
    operand depth ⟨behind, ' ' :: t⟩ = operand depth ⟨' ' :: behind, t⟩ := by
  cases depth <;> simp only [operand, skip_space]

theorem isIdentifierPart_name (f : ConditionFunction) :
    ∀ x ∈ f.name.toList, isIdentifierPart x = true :=
  List.all_eq_true.1 (by cases f <;> decide)

theorem word_name (f : ConditionFunction) :
    word ⟨behind, f.name.toList ++ '(' :: t⟩ = f.name.toList :=
  takeWhile_append_of_stops (isIdentifierPart_name f) (stops_cons (by decide))

theorem afterWord_name (f : ConditionFunction) :
    afterWord ⟨behind, f.name.toList ++ '(' :: t⟩ =
      ⟨f.name.toList.reverse ++ behind, '(' :: t⟩ :=
  Cursor.skipWhile_append behind (isIdentifierPart_name f) (stops_cons (by decide))

theorem sign_ahead (missing : Cursor → SourceError) (h : Text.isSpace c = false) :
    sign c missing ⟨behind, c :: t⟩ = .ok ⟨c :: behind, t⟩ := by
  simp [sign, skip_visible h]

theorem call_encode (f : ConditionFunction) (s : Text) :
    call f ⟨behind, '(' :: (Quoted.encode s ++ ')' :: rest)⟩ =
      .ok (⟨f, ⟨'(' :: behind, Quoted.encode s ++ ')' :: rest⟩⟩,
        ⟨')' :: ((Quoted.encode s).reverse ++ '(' :: behind), rest⟩) := by
  have hquote : skip ⟨'(' :: behind, Quoted.encode s ++ ')' :: rest⟩ =
      ⟨'(' :: behind, Quoted.encode s ++ ')' :: rest⟩ := skip_visible (by decide)
  have hhead : (Quoted.encode s ++ ')' :: rest).head? = some '"' := rfl
  simp only [call, sign_ahead _ (by decide : Text.isSpace '(' = false), hquote,
    hhead, Quoted.close?_encode, sign_ahead _ (by decide : Text.isSpace ')' = false), bind,
    Except.bind, pure, Except.pure, ne_eq, not_true_eq_false, ↓reduceIte]

end Tokens

section Tests

variable [PatternEngine] {read : PatternReader}

inductive Stands (read : PatternReader) (f : ConditionFunction) : Text → Test → Prop
  | always : Stands read f [] .always
  | pattern {s : Text} {p : PatternEngine.Compiled} : s ≠ [] → f.takesPattern = true →
      read s = .ok p → Stands read f s (.search f (.pattern s p))
  | substring {s : Text} : s ≠ [] → f.takesPattern = false →
      Stands read f s (.search f (.substring s))

theorem makes_iff {call : Call} {t : Test} :
    Makes read call t ↔ ∃ s stop, Quoted.decodeInSource call.quote = .ok (s, stop) ∧
      Stands read call.function s t := by
  simp only [Makes, testOf, bind, Except.bind, pure, Except.pure]
  cases hd : Quoted.decodeInSource call.quote with
  | error e => simp
  | ok r =>
      obtain ⟨s, stop⟩ := r
      dsimp only
      constructor
      · intro h
        refine ⟨s, stop, rfl, ?_⟩
        split at h
        · rename_i hs
          obtain rfl := List.isEmpty_iff.1 hs
          obtain rfl := Except.ok.inj h
          exact .always
        · rename_i hs
          have hs : s ≠ [] := fun h => hs (List.isEmpty_iff.2 h)
          split at h
          · rename_i hf
            split at h
            · rename_i p hp
              obtain rfl := Except.ok.inj h
              exact .pattern hs hf hp
            · simp at h
          · rename_i hf
            obtain rfl := Except.ok.inj h
            exact .substring hs (by simpa using hf)
      · rintro ⟨s', stop', heq, hstands⟩
        obtain ⟨rfl, rfl⟩ := Prod.mk.inj (Except.ok.inj heq)
        cases hstands with
        | always => rfl
        | pattern hs hf hp => simp [hs, hf, hp]
        | substring hs hf => simp [hs, hf]

theorem text_of_stands {f : ConditionFunction} {s : Text} {t : Test} (h : Stands read f s t) :
    ∃ f' s', t.text = f'.name.toList ++ '(' :: Quoted.encode s' ++ [')'] ∧ Stands read f' s' t := by
  cases h with
  | always => exact ⟨.systContains, [], rfl, .always⟩
  | pattern hs hf hp => exact ⟨f, s, rfl, .pattern hs hf hp⟩
  | substring hs hf => exact ⟨f, s, rfl, .substring hs hf⟩

theorem reads_test {t : Test} (h : ∃ call, Makes read call t) (depth : Nat) (rest : Text) :
    Reads (Makes read) id (term (depth + 1)) t.text rest (.test t) := by
  obtain ⟨call₀, h⟩ := h
  obtain ⟨_, _, -, hstands⟩ := makes_iff.1 h
  obtain ⟨f, s, htext, hstands⟩ := text_of_stands hstands
  intro behind
  have happend : t.text ++ rest = f.name.toList ++ '(' :: (Quoted.encode s ++ ')' :: rest) := by
    simp [htext]
  have hmakes (u : Text) : Makes read ⟨f, ⟨u, Quoted.encode s ++ ')' :: rest⟩⟩ t :=
    makes_iff.2 ⟨s, _, Quoted.decodeInSource_encode s u _, hstands⟩
  let quote := '(' :: (f.name.toList.reverse ++ behind)
  refine ⟨.test _, ')' :: ((Quoted.encode s).reverse ++ quote), ?_, hmakes quote⟩
  rw [happend, term, word_name, ConditionFunction.ofName?_name, afterWord_name]
  dsimp only
  rw [call_encode]
  rfl

end Tests

section Chains

variable {rest : Text} {depth : Nat}

def Ends (t : Text) : Prop :=
  t = [] ∨ ∃ u, t = ')' :: u

theorem connective?_of_ends {behind : Text} (h : Ends rest) :
    connective? (skip ⟨behind, rest⟩) = none := by
  rcases h with rfl | ⟨u, rfl⟩
  · rfl
  · rw [skip_visible (by decide)]
    have hword : word ⟨behind, ')' :: u⟩ = [] := takeWhile_of_stops (stops_cons (by decide))
    simp only [connective?, hword]
    decide

theorem links_of_ends {behind : Text} (h : Ends rest) (depth : Nat) :
    links depth ⟨behind, rest⟩ = .ok ([], ⟨behind, rest⟩) := by
  cases depth with
  | zero => rfl
  | succ depth => rw [links, connective?_of_ends h]

theorem isIdentifierPart_keyword (op : Connective) :
    ∀ x ∈ op.keyword, isIdentifierPart x = true :=
  List.all_eq_true.1 (by cases op <;> decide)

theorem connective?_keyword (op : Connective) (behind t : Text) :
    connective? ⟨behind, op.keyword ++ ' ' :: t⟩ = some op := by
  have hword : word ⟨behind, op.keyword ++ ' ' :: t⟩ = op.keyword :=
    takeWhile_append_of_stops (isIdentifierPart_keyword op) (stops_cons (by decide))
  simp only [connective?, hword]
  cases op <;> decide

theorem links_connective (op : Connective) (behind t : Text) (depth : Nat) :
    links (depth + 1) ⟨behind, op.text ++ t⟩ = (do
      let (p, c) ← operand depth ⟨' ' :: op.keyword.reverse ++ ' ' :: behind, t⟩
      let (rest, c) ← links depth c
      return ((op, p) :: rest, c)) := by
  have hskip : skip ⟨behind, op.text ++ t⟩ =
      ⟨' ' :: behind, op.keyword ++ ' ' :: t⟩ := by
    rw [Connective.text_eq]
    simp only [List.cons_append, skip_space, List.append_assoc, List.nil_append]
    cases op <;> exact skip_visible (by decide)
  have hafter : afterWord ⟨' ' :: behind, op.keyword ++ ' ' :: t⟩ =
      ⟨op.keyword.reverse ++ ' ' :: behind, ' ' :: t⟩ :=
    Cursor.skipWhile_append _ (isIdentifierPart_keyword op) (stops_cons (by decide))
  rw [links, hskip, connective?_keyword, hafter, operand_space]
  rfl

variable [PatternEngine] {read : PatternReader} {p : Condition}

def ReadsOperand (read : PatternReader) (p : Condition) : Prop :=
  ∀ depth, 3 * (operandText 2 p (text p)).length ≤ depth + 1 → ∀ rest,
    Reads (Makes read) SignedFormula.formula (operand depth) (operandText 2 p (text p)) rest p

def ReadsExpression (read : PatternReader) (p : Condition) : Prop :=
  ∀ depth, 3 * (text p).length ≤ depth → ∀ rest, Ends rest →
    Reads (Makes read) id (expression depth) (text p) rest p

theorem reads_links {ls : List (Connective × Condition)} (h : ∀ l ∈ ls, ReadsOperand read l.2)
    (hrest : Ends rest) (depth : Nat) (hdepth : 3 * (ls.flatMap linkText).length ≤ depth)
    (behind : Text) :
    ∃ qs behind', links depth ⟨behind, ls.flatMap linkText ++ rest⟩ =
        .ok (qs, ⟨behind', rest⟩) ∧
      List.Forall₂ (fun l l' => l.1 = l'.1 ∧ Related (Makes read) l.2.formula l'.2) qs ls := by
  induction ls generalizing depth behind with
  | nil => exact ⟨[], behind, links_of_ends hrest depth, .nil⟩
  | cons l ls ih =>
      obtain ⟨op, p⟩ := l
      have hop : 4 ≤ op.text.length := by cases op <;> decide
      simp only [List.flatMap_cons, linkText, List.length_append] at hdepth
      obtain ⟨depth, rfl⟩ : ∃ d, depth = d + 1 := ⟨depth - 1, by omega⟩
      have hp : ReadsOperand read p := h (op, p) List.mem_cons_self
      obtain ⟨q, u, hq, hrel⟩ := hp depth (by omega)
        (ls.flatMap linkText ++ rest) (' ' :: op.keyword.reverse ++ ' ' :: behind)
      obtain ⟨qs, u', hqs, hrels⟩ := ih (fun l hl => h l (List.mem_cons_of_mem _ hl)) depth
        (by omega) u
      refine ⟨(op, q) :: qs, u', ?_, .cons ⟨rfl, hrel⟩ hrels⟩
      rw [List.flatMap_cons, linkText, List.append_assoc, List.append_assoc, links_connective, hq]
      simp only [bind, Except.bind, hqs, pure, Except.pure]

theorem text_test (t : Test) :
    ∃ (f : ConditionFunction) (s : Text),
      t.text = f.name.toList ++ '(' :: (Quoted.encode s ++ [')']) := by
  cases t with
  | always => exact ⟨.systContains, [], rfl⟩
  | search f s => exact ⟨f, s.source, List.append_assoc _ ('(' :: Quoted.encode s.source) [')']⟩

theorem term_start (p : Condition) :
    ∃ u t, operandText 3 p (text p) = u ++ '(' :: t ∧
      (u = [] ∨ ∃ f : ConditionFunction, u = f.name.toList) := by
  cases p with
  | test t =>
      obtain ⟨f, s, h⟩ := text_test t
      exact ⟨_, _, h, .inr ⟨f, rfl⟩⟩
  | not p => exact ⟨[], _, rfl, .inl rfl⟩
  | and p q => exact ⟨[], _, rfl, .inl rfl⟩
  | or p q => exact ⟨[], _, rfl, .inl rfl⟩

theorem length_term_pos (p : Condition) : 0 < (operandText 3 p (text p)).length := by
  obtain ⟨u, t, h, -⟩ := term_start p
  rw [h, List.length_append, List.length_cons]
  omega

theorem skip_term (p : Condition) (behind rest : Text) :
    skip ⟨behind, operandText 3 p (text p) ++ rest⟩ =
      ⟨behind, operandText 3 p (text p) ++ rest⟩ := by
  obtain ⟨u, t, h, rfl | ⟨f, rfl⟩⟩ := term_start p
  · rw [h]
    exact skip_visible (by decide)
  · rw [h]
    cases f <;> exact skip_visible (by decide)

theorem operand_term (p : Condition) (behind rest : Text) (depth : Nat) :
    operand (depth + 1) ⟨behind, operandText 3 p (text p) ++ rest⟩ = (do
      let (q, c) ← term depth ⟨behind, operandText 3 p (text p) ++ rest⟩
      return (⟨false, q⟩, c)) := by
  have hword : isKeyword "not" (word ⟨behind, operandText 3 p (text p) ++ rest⟩) = false := by
    obtain ⟨u, t, h, hu⟩ := term_start p
    have hparts : ∀ x ∈ u, isIdentifierPart x = true := by
      rcases hu with rfl | ⟨f, rfl⟩
      · simp
      · exact isIdentifierPart_name f
    have hword : word ⟨behind, operandText 3 p (text p) ++ rest⟩ = u := by
      rw [h, List.append_assoc]
      exact takeWhile_append_of_stops hparts (stops_cons (by decide))
    rw [hword]
    rcases hu with rfl | ⟨f, rfl⟩
    · decide
    · cases f <;> decide
  rw [operand, skip_term, hword, if_neg Bool.false_ne_true]

theorem operand_not (p : Condition) (behind rest : Text) (depth : Nat) :
    operand (depth + 1) ⟨behind, "not ".toList ++ (operandText 3 p (text p) ++ rest)⟩ = (do
      let (q, c) ← term depth
        ⟨"not ".toList.reverse ++ behind, operandText 3 p (text p) ++ rest⟩
      return (⟨true, q⟩, c)) := by
  have hskip (t : Text) : skip ⟨behind, "not".toList ++ ' ' :: t⟩ =
      ⟨behind, "not".toList ++ ' ' :: t⟩ := skip_visible (by decide)
  have hparts : ∀ x ∈ "not".toList, isIdentifierPart x = true := List.all_eq_true.1 (by decide)
  have hword (t : Text) : word ⟨behind, "not".toList ++ ' ' :: t⟩ = "not".toList :=
    takeWhile_append_of_stops hparts (stops_cons (by decide))
  have hafter (t : Text) : afterWord ⟨behind, "not".toList ++ ' ' :: t⟩ =
      ⟨"not".toList.reverse ++ behind, ' ' :: t⟩ :=
    Cursor.skipWhile_append _ hparts (stops_cons (by decide))
  have hsplit (t : Text) : "not ".toList ++ t = "not".toList ++ ' ' :: t := rfl
  rw [hsplit, operand, hskip, hword, hafter, skip_space, skip_term, if_pos (by decide)]
  rfl

theorem reads_group {p : Condition} (h : ReadsExpression read p)
    (hdepth : 3 * (text p).length ≤ depth) (rest : Text) :
    Reads (Makes read) id (term (depth + 1)) ('(' :: text p ++ [')']) rest p := by
  intro behind
  obtain ⟨q, u, hq, hrel⟩ := h depth hdepth (')' :: rest) (.inr ⟨rest, rfl⟩) ('(' :: behind)
  have happend : '(' :: text p ++ [')'] ++ rest = '(' :: (text p ++ ')' :: rest) := by simp
  have hword : word ⟨behind, '(' :: (text p ++ ')' :: rest)⟩ = [] :=
    takeWhile_of_stops (stops_cons (by decide))
  have hname : ConditionFunction.ofName? [] = none := by decide
  refine ⟨q, ')' :: u, ?_, hrel⟩
  rw [happend, term, hword, hname]
  simp only [List.head?_cons, ↓reduceIte, Cursor.next_cons, hq, bind, Except.bind,
    sign_ahead _ (by decide : Text.isSpace ')' = false), pure, Except.pure]

theorem reads_term {p : Condition} (hp : p.All fun t => ∃ call, Makes read call t)
    (h : p.strength < 3 → ReadsExpression read p) (depth : Nat)
    (hdepth : 3 * (operandText 3 p (text p)).length ≤ depth + 2) (rest : Text) :
    Reads (Makes read) id (term depth) (operandText 3 p (text p)) rest p := by
  have hpos := length_term_pos p
  obtain ⟨depth, rfl⟩ : ∃ d, depth = d + 1 := ⟨depth - 1, by omega⟩
  have hgroup (hs : p.strength < 3) :
      Reads (Makes read) id (term (depth + 1)) (operandText 3 p (text p)) rest p := by
    rw [operandText, if_pos hs] at hdepth ⊢
    simp only [List.cons_append, List.length_cons, List.length_append, List.length_nil] at hdepth
    exact reads_group (h hs) (by omega) rest
  cases p with
  | test t => exact reads_test hp depth rest
  | not p => exact hgroup (by simp [Formula.strength])
  | and p q => exact hgroup (by simp [Formula.strength])
  | or p q => exact hgroup (by simp [Formula.strength])

theorem readsOperand_of_strength {p : Condition} (hp : p.All fun t => ∃ call, Makes read call t)
    (h : p.strength < 3 → ReadsExpression read p) (hs : p.strength ≠ 2) :
    ReadsOperand read p := by
  have htext : operandText 2 p (text p) = operandText 3 p (text p) := by
    have hlt : p.strength < 2 ↔ p.strength < 3 := by omega
    simp only [operandText, hlt]
  intro depth hdepth rest behind
  rw [htext] at hdepth ⊢
  have hpos := length_term_pos p
  obtain ⟨depth, rfl⟩ : ∃ d, depth = d + 1 := ⟨depth - 1, by omega⟩
  obtain ⟨q, u, hq, hrel⟩ := reads_term hp h depth (by omega) rest behind
  refine ⟨⟨false, q⟩, u, ?_, hrel⟩
  rw [operand_term, hq]
  rfl

theorem readsOperand_not {p : Condition} (hp : p.All fun t => ∃ call, Makes read call t)
    (h : ReadsExpression read p) : ReadsOperand read (.not p) := by
  have htext : operandText 2 (.not p) (text (.not p)) =
      "not ".toList ++ operandText 3 p (text p) := by
    simp [operandText, Formula.strength, text]
  intro depth hdepth rest behind
  rw [htext] at hdepth ⊢
  have hlength : "not ".toList.length = 4 := by decide
  rw [List.length_append, hlength] at hdepth
  obtain ⟨depth, rfl⟩ : ∃ d, depth = d + 1 := ⟨depth - 1, by omega⟩
  obtain ⟨q, u, hq, hrel⟩ := reads_term hp (fun _ => h) depth (by omega) rest
    ("not ".toList.reverse ++ behind)
  refine ⟨⟨true, q⟩, u, ?_, hrel⟩
  rw [List.append_assoc, operand_not, hq]
  rfl

theorem operand_start (p : Condition) :
    ∃ x t, operandText 2 p (text p) = x :: t ∧ Text.isSpace x = false := by
  cases p with
  | test t =>
      obtain ⟨f, s, h⟩ := text_test t
      rw [operandText, if_neg (by simp [Formula.strength]), text, h]
      cases f <;> exact ⟨_, _, rfl, by decide⟩
  | not p => exact ⟨'n', _, rfl, by decide⟩
  | and p q => exact ⟨'(', _, rfl, by decide⟩
  | or p q => exact ⟨'(', _, rfl, by decide⟩

theorem text_start (p : Condition) : ∃ x t, text p = x :: t ∧ Text.isSpace x = false := by
  obtain ⟨x, t, h, hx⟩ := operand_start p.spine.1
  exact ⟨x, _, by rw [text_spine, h, List.cons_append], hx⟩

theorem readsExpression_of_spine {p : Condition} (hfirst : ReadsOperand read p.spine.1)
    (hrest : ∀ l ∈ p.spine.2, ReadsOperand read l.2) : ReadsExpression read p := by
  intro depth hdepth rest hends behind
  have hlength := congrArg List.length (text_spine p)
  obtain ⟨x, t, hstart, -⟩ := operand_start p.spine.1
  rw [List.length_append, hstart, List.length_cons] at hlength
  obtain ⟨depth, rfl⟩ : ∃ d, depth = d + 1 := ⟨depth - 1, by omega⟩
  obtain ⟨q, u, hq, hrel⟩ := hfirst depth (by rw [hstart, List.length_cons]; omega)
    (p.spine.2.flatMap linkText ++ rest) behind
  obtain ⟨qs, u', hqs, hrels⟩ := reads_links hrest hends depth (by omega) u
  refine ⟨SignedFormula.grouped q qs, u', ?_, ?_⟩
  · rw [text_spine, List.append_assoc, expression, hq]
    simp only [bind, Except.bind, hqs, pure, Except.pure]
  · have hchain := SignedFormula.related_grouped hrel hrels
    rwa [Formula.chain_spine] at hchain

structure Readable (read : PatternReader) (p : Condition) : Prop where
  expression : ReadsExpression read p
  operand : ReadsOperand read p
  conjuncts : ReadsOperand read p.conjuncts.1 ∧ ∀ l ∈ p.conjuncts.2, ReadsOperand read l.2
  spine : ReadsOperand read p.spine.1 ∧ ∀ l ∈ p.spine.2, ReadsOperand read l.2

theorem readable_of_operand {p : Condition} (h : ReadsOperand read p)
    (hconjuncts : p.conjuncts = (p, [])) (hspine : p.spine = (p, [])) : Readable read p := by
  have hs : ReadsOperand read p.spine.1 ∧ ∀ l ∈ p.spine.2, ReadsOperand read l.2 := by
    rw [hspine]
    exact ⟨h, by simp⟩
  refine ⟨readsExpression_of_spine hs.1 hs.2, h, ?_, hs⟩
  rw [hconjuncts]
  exact ⟨h, by simp⟩

theorem readable_of_all {p : Condition} (h : p.All fun t => ∃ call, Makes read call t) :
    Readable read p := by
  induction p with
  | test t =>
      exact readable_of_operand (readsOperand_of_strength h (by simp [Formula.strength])
        (by simp [Formula.strength])) rfl rfl
  | not p ih => exact readable_of_operand (readsOperand_not h (ih h).expression) rfl rfl
  | and p q ihp ihq =>
      have hp := ihp h.1
      have hchain : ReadsOperand read (Formula.and p q).conjuncts.1 ∧
          ∀ l ∈ (Formula.and p q).conjuncts.2, ReadsOperand read l.2 := by
        refine ⟨hp.conjuncts.1, fun l hl => ?_⟩
        rcases List.mem_append.1 hl with hl | hl
        · exact hp.conjuncts.2 l hl
        · obtain rfl := List.mem_singleton.1 hl
          exact (ihq h.2).operand
      have hexpression : ReadsExpression read (.and p q) :=
        readsExpression_of_spine hchain.1 hchain.2
      exact ⟨hexpression, readsOperand_of_strength h (fun _ => hexpression)
        (by simp [Formula.strength]), hchain, hchain⟩
  | or p q ihp ihq =>
      have hp := ihp h.1
      have hq := ihq h.2
      have hchain : ReadsOperand read (Formula.or p q).spine.1 ∧
          ∀ l ∈ (Formula.or p q).spine.2, ReadsOperand read l.2 := by
        refine ⟨hp.spine.1, fun l hl => ?_⟩
        rcases List.mem_append.1 hl with hl | hl
        · exact hp.spine.2 l hl
        · rcases List.mem_cons.1 hl with rfl | hl
          · exact hq.conjuncts.1
          · exact hq.conjuncts.2 l hl
      have hexpression : ReadsExpression read (.or p q) :=
        readsExpression_of_spine hchain.1 hchain.2
      have hoperand : ReadsOperand read (.or p q) :=
        readsOperand_of_strength h (fun _ => hexpression) (by simp [Formula.strength])
      exact ⟨hexpression, hoperand, ⟨hoperand, by simp [Formula.conjuncts]⟩, hchain⟩

end Chains

section Sources

variable [PatternEngine] {read : PatternReader} {source : Text} {p : Condition}

theorem makes_always : Makes read ⟨.systContains, ⟨[], Quoted.encode []⟩⟩ .always := rfl

theorem all_of_compileWith (h : compileWith read source = .ok p) :
    p.All fun t => ∃ call, Makes read call t := by
  rw [compileWith] at h
  cases hs : ofSource source with
  | error e => simp [hs, bind, Except.bind] at h
  | ok o =>
      rw [hs] at h
      cases o with
      | none =>
          obtain rfl := Except.ok.inj h
          exact ⟨_, makes_always⟩
      | some q => exact (Formula.mapM_eq_ok_iff.1 h).all

theorem compileWith_text (h : p.All fun t => ∃ call, Makes read call t) :
    compileWith read (text p) = .ok p := by
  obtain ⟨x, t, htext, hx⟩ := text_start p
  have hstart : skip (Cursor.ofText (text p)) = ⟨[], text p⟩ := by
    rw [htext]
    exact skip_visible hx
  have hvisible : (text p).isEmpty = false := by rw [htext]; rfl
  obtain ⟨q, u, hq, hrel⟩ := (readable_of_all h).expression (3 * (text p).length + 3) (by omega) []
    (.inl rfl) []
  rw [List.append_nil] at hq
  have hstop : (skip ⟨u, []⟩).ahead.isEmpty = true := rfl
  have hsource : ofSource (text p) = .ok (some q) := by
    simp only [ofSource, hstart, hvisible, hq, hstop, bind, Except.bind, pure, Except.pure,
      Bool.false_eq_true, ↓reduceIte]
  rw [compileWith, hsource]
  exact Formula.mapM_eq_ok_iff.2 hrel

/-- Whatever engine makes the patterns, the text of a condition that a source compiles to compiles
to the same condition. -/
theorem compile_text (h : compile source = .ok p) : compile (text p) = .ok p :=
  compileWith_text (all_of_compileWith h)

end Sources

namespace Grouped

def source : Text :=
  "NOT (Syst_contains( \"a\\\"\" ) or welcome_contains(\"\")) AND reg_exp_in_syst(\"b+\")".toList

def condition : Condition :=
  .and (.not (.or (.test (.search .systContains (.substring "a\"".toList))) (.test .always)))
    (.test (.search .regExpInSyst (.pattern "b+".toList
      (.inl (.repetition (.set (.caseless (.stretches [⟨98, 98, 1⟩]))) 1 none true)))))

theorem compile_text_condition :
    compile source = .ok condition ∧ compile (text condition) = .ok condition :=
  ⟨by decide +kernel, compile_text (show compile source = .ok condition by decide +kernel)⟩

end Grouped

end Condition

end ListingRules
