import ListingRules.Condition.Formula

namespace ListingRules

inductive LogicalOperator where
  | binary (op : Connective)
  | negation
  deriving DecidableEq, Repr

namespace LogicalOperator

def table : List LogicalOperator :=
  [.binary .or, .binary .and, .negation]

def precedence (o : LogicalOperator) : Nat :=
  10 * (table.idxOf o + 1)

end LogicalOperator

def Formula.join {α : Type} : Connective → Formula α → Formula α → Formula α
  | .and => .and
  | .or => .or

structure SignedFormula (α : Type) where
  isNegated : Bool
  term : Formula α
  deriving DecidableEq, Repr

namespace SignedFormula

variable {α : Type}

def formula (p : SignedFormula α) : Formula α :=
  if p.isNegated then .not p.term else p.term

mutual

def climb : Nat → Nat → SignedFormula α → List (Connective × SignedFormula α) →
    Formula α × List (Connective × SignedFormula α)
  | 0, _, p, links => (p.formula, links)
  | n + 1, bound, ⟨true, p⟩, links =>
      let (p, links) := climb n (LogicalOperator.negation.precedence - 1) ⟨false, p⟩ links
      climbOn n bound (.not p) links
  | n + 1, bound, ⟨false, p⟩, links => climbOn n bound p links

def climbOn : Nat → Nat → Formula α → List (Connective × SignedFormula α) →
    Formula α × List (Connective × SignedFormula α)
  | 0, _, p, links => (p, links)
  | _ + 1, _, p, [] => (p, [])
  | n + 1, bound, p, (op, q) :: links =>
      if bound < (LogicalOperator.binary op).precedence then
        let (q, links) := climb n (LogicalOperator.binary op).precedence q links
        climbOn n bound (.join op p q) links
      else (p, (op, q) :: links)

end

/-- The formula of a chain. Two steps are enough for each link. -/
def grouped (first : SignedFormula α) (links : List (Connective × SignedFormula α)) : Formula α :=
  (climb (2 * links.length + 1) 0 first links).1

def formulas (links : List (Connective × SignedFormula α)) : List (Connective × Formula α) :=
  links.map fun l => (l.1, l.2.formula)

variable {p : Formula α} {links : List (Connective × SignedFormula α)} {bound : Nat}

theorem precedence_binary_le (op : Connective) : (LogicalOperator.binary op).precedence ≤ 20 := by
  cases op <;> decide

theorem climbOn_of_le (h : 20 ≤ bound) (n : Nat) : climbOn n bound p links = (p, links) := by
  cases n with
  | zero => rfl
  | succ n =>
      cases links with
      | nil => rfl
      | cons l links =>
          have hop := precedence_binary_le l.1
          rw [climbOn, if_neg (by omega)]

/-- A negation takes the term alone, since it binds more than what may follow. -/
theorem climb_succ (n : Nat) (q : SignedFormula α) :
    climb (n + 1) bound q links = climbOn n bound q.formula links := by
  obtain ⟨_ | _, p⟩ := q
  · rw [climb]
    rfl
  · have hterm :
        climb n (LogicalOperator.negation.precedence - 1) ⟨false, p⟩ links = (p, links) := by
      have hbound : 20 ≤ LogicalOperator.negation.precedence - 1 := by decide
      cases n with
      | zero => rfl
      | succ n => rw [climb, climbOn_of_le hbound]
    rw [climb, hterm]
    rfl

theorem climb_of_le (h : 20 ≤ bound) (n : Nat) (q : SignedFormula α) :
    climb n bound q links = (q.formula, links) := by
  cases n with
  | zero => rfl
  | succ n => rw [climb_succ, climbOn_of_le h]

def Closes (links : List (Connective × SignedFormula α)) : Prop :=
  ∀ l ∈ links.head?, l.1 = .or

theorem chainFrom_of_closes (h : Closes links) (before p : Formula α) :
    Formula.chainFrom (some before) p (formulas links) =
      Formula.chain (.or before p) (formulas links) := by
  cases links with
  | nil => rfl
  | cons l links =>
      obtain ⟨op, q⟩ := l
      obtain rfl : op = .or := h _ rfl
      rfl

theorem climbOn_or {n : Nat} (hn : 2 * links.length ≤ n) :
    ∃ run left, climbOn n (LogicalOperator.binary .or).precedence p links = (run, left) ∧
      left.length ≤ links.length ∧ Closes left ∧
      ∀ before, Formula.chainFrom before p (formulas links) =
        Formula.chainFrom before run (formulas left) := by
  induction links generalizing n p with
  | nil =>
      refine ⟨p, [], ?_, Nat.le_refl _, by simp [Closes], fun _ => rfl⟩
      cases n <;> rfl
  | cons l links ih =>
      obtain ⟨op, q⟩ := l
      simp only [List.length_cons] at hn
      obtain ⟨n, rfl⟩ : ∃ m, n = m + 1 := ⟨n - 1, by omega⟩
      cases op with
      | or => exact ⟨p, _, by rw [climbOn, if_neg (by decide)], Nat.le_refl _, by simp [Closes],
          fun _ => rfl⟩
      | and =>
          obtain ⟨run, left, hclimb, hle, hcloses, hchain⟩ := ih (p := .and p q.formula) (n := n)
            (by omega)
          refine ⟨run, left, ?_, by simp; omega, hcloses, hchain⟩
          rw [climbOn, if_pos (by decide), climb_of_le (by decide)]
          exact hclimb

theorem climbOn_eq_chain {n : Nat} (hn : 2 * links.length ≤ n) :
    climbOn n 0 p links = (Formula.chain p (formulas links), []) := by
  induction n using Nat.strongRecOn generalizing p links with
  | _ n ih =>
      cases links with
      | nil => cases n <;> rfl
      | cons l links =>
          obtain ⟨op, q⟩ := l
          simp only [List.length_cons] at hn
          obtain ⟨n, rfl⟩ : ∃ m, n = m + 1 := ⟨n - 1, by omega⟩
          rw [climbOn, if_pos (by cases op <;> decide)]
          cases op with
          | and =>
              rw [climb_of_le (by decide)]
              exact ih n (Nat.lt_succ_self n) (by omega)
          | or =>
              obtain ⟨m, rfl⟩ : ∃ m, n = m + 1 := ⟨n - 1, by omega⟩
              have hm : 2 * links.length ≤ m := by omega
              obtain ⟨run, left, hclimb, hle, hcloses, hchain⟩ := climbOn_or (p := q.formula) hm
              rw [climb_succ, hclimb]
              have hnext : Formula.chain p (formulas ((.or, q) :: links)) =
                  Formula.chain (.or p run) (formulas left) := by
                rw [← chainFrom_of_closes hcloses, ← hchain]
                rfl
              rw [hnext]
              exact ih (m + 1) (Nat.lt_succ_self _) (by omega)

theorem climb_eq_chain (first : SignedFormula α) (links : List (Connective × SignedFormula α)) :
    climb (2 * links.length + 1) 0 first links =
      (Formula.chain first.formula (formulas links), []) := by
  rw [climb_succ, climbOn_eq_chain (Nat.le_refl _)]

theorem grouped_eq_chain (first : SignedFormula α) (links : List (Connective × SignedFormula α)) :
    grouped first links = Formula.chain first.formula (formulas links) := by
  rw [grouped, climb_eq_chain]

end SignedFormula

end ListingRules
