namespace ListingRules

inductive Formula (α : Type) where
  | test (a : α)
  | not (p : Formula α)
  | and (p q : Formula α)
  | or (p q : Formula α)
  deriving DecidableEq, Repr

inductive Connective where
  | and
  | or
  deriving DecidableEq, Repr

namespace Formula

variable {α β : Type}

def evaluate (holds : α → Bool) : Formula α → Bool
  | test a => holds a
  | not p => !p.evaluate holds
  | and p q => p.evaluate holds && q.evaluate holds
  | or p q => p.evaluate holds || q.evaluate holds

def mapM {m : Type → Type} [Monad m] (f : α → m β) : Formula α → m (Formula β)
  | test a => return test (← f a)
  | not p => return not (← p.mapM f)
  | and p q => return and (← p.mapM f) (← q.mapM f)
  | or p q => return or (← p.mapM f) (← q.mapM f)

def closeRun (before : Option (Formula α)) (run : Formula α) : Formula α :=
  match before with
  | none => run
  | some p => or p run

/-- Groups a chain to the left, where `and` binds more than `or`: `before` are the runs that are
complete, `run` is the one that goes on. -/
def chainFrom (before : Option (Formula α)) (run : Formula α) :
    List (Connective × Formula α) → Formula α
  | [] => closeRun before run
  | (.and, p) :: rest => chainFrom before (and run p) rest
  | (.or, p) :: rest => chainFrom (some (closeRun before run)) p rest

def chain (first : Formula α) (rest : List (Connective × Formula α)) : Formula α :=
  chainFrom none first rest

def runsFrom (run : List (Formula α)) : List (Connective × Formula α) → List (List (Formula α))
  | [] => [run]
  | (.and, p) :: rest => runsFrom (run ++ [p]) rest
  | (.or, p) :: rest => run :: runsFrom [p] rest

def runs (first : Formula α) (rest : List (Connective × Formula α)) : List (List (Formula α)) :=
  runsFrom [first] rest

theorem evaluate_closeRun (holds : α → Bool) (before : Option (Formula α)) (run : Formula α) :
    (closeRun before run).evaluate holds =
      (before.any (·.evaluate holds) || run.evaluate holds) := by
  cases before <;> rfl

theorem evaluate_chainFrom (holds : α → Bool) (before : Option (Formula α)) (run : Formula α)
    (conjuncts : List (Formula α)) (rest : List (Connective × Formula α))
    (h : run.evaluate holds = conjuncts.all (·.evaluate holds)) :
    (chainFrom before run rest).evaluate holds =
      (before.any (·.evaluate holds) ||
        (runsFrom conjuncts rest).any fun r => r.all (·.evaluate holds)) := by
  induction rest generalizing before run conjuncts with
  | nil => simp [chainFrom, runsFrom, evaluate_closeRun, h]
  | cons step rest ih =>
      obtain ⟨_ | _, p⟩ := step
      · exact ih before (and run p) (conjuncts ++ [p]) (by simp [evaluate, h])
      · rw [chainFrom, ih (some (closeRun before run)) p [p] (by simp)]
        simp [runsFrom, evaluate_closeRun, h, Bool.or_assoc]

theorem evaluate_chain (holds : α → Bool) (first : Formula α)
    (rest : List (Connective × Formula α)) :
    (chain first rest).evaluate holds =
      (runs first rest).any fun r => r.all (·.evaluate holds) := by
  rw [chain, evaluate_chainFrom holds none first [first] rest (by simp)]
  simp [runs]

def strength : Formula α → Nat
  | or .. => 0
  | and .. => 1
  | not _ => 2
  | test _ => 3

end Formula

end ListingRules
