import ListingRules.Column.Set
import ListingRules.Rule.Function
import ListingRules.Rule.Param

namespace ListingRules

structure Call where
  function : RuleFunction
  params : List Param
  deriving DecidableEq, Repr

def Call.printWith (column : ColumnRef → Text) (c : Call) : Text :=
  c.function.name.toList ++
    '(' :: Text.joinWith [',', ' '] (c.params.map (Param.printWith column)) ++ [')']

structure Rule where
  calls : List Call
  deriving DecidableEq, Repr

def Rule.printWith (column : ColumnRef → Text) (r : Rule) : Text :=
  '*' :: ' ' :: Text.joinWith [',', ' '] (r.calls.map (Call.printWith column)) ++ [';']

def Rule.print (r : Rule) : Text :=
  r.printWith ColumnRef.print

structure RuleSet where
  rules : List Rule
  columns : ColumnSet
  deriving DecidableEq, Repr

namespace RuleSet

def printWith (column : ColumnRef → Text) (s : RuleSet) : Text :=
  Text.joinWith ['\n'] (s.rules.map (Rule.printWith column))

def print (s : RuleSet) : Text :=
  s.printWith ColumnRef.print

def operands (s : RuleSet) : List Operand :=
  s.rules.flatMap fun r => r.calls.flatMap fun c => c.params.flatMap Param.operands

def texts (s : RuleSet) : List Text :=
  s.operands.filterMap Operand.text?

theorem mem_texts {s : RuleSet} {t : Text} : t ∈ s.texts ↔ .text t ∈ s.operands := by
  simp only [texts, List.mem_filterMap]
  constructor
  · rintro ⟨o, ho, h⟩
    cases o <;> simp only [Operand.text?, Option.some.injEq, reduceCtorEq] at h
    exact h ▸ ho
  · intro h
    exact ⟨_, h, rfl⟩

end RuleSet

end ListingRules
