import ListingRules.Pattern.Engine
import ListingRules.Proofs.Bytewise.ConditionSource
import ListingRules.Proofs.Bytewise.RuleSource

namespace ListingRules.Bytewise

/-- A source compiles to a result or to an error that marks whole characters of it, which the fault
suits, and does so through byte offsets, where each cut is between two of its characters. -/
structure Diagnosed {α : Type} (known : SourceFault → Text → Bool) (source : Text)
    (compiled : Except SourceError α) (bytewise : Compiling α) : Prop where
  marks : ∀ e, compiled = .error e → e.Marks known source
  bytewise_eq : bytewise = told id compiled
  not_trapped : ∀ t, bytewise ≠ .error (.trap t)

theorem Diagnosed.of_eq {α : Type} {known : SourceFault → Text → Bool} {source : Text}
    {compiled : Except SourceError α} {bytewise : Compiling α}
    (hmarks : ∀ e, compiled = .error e → e.Marks known source)
    (heq : bytewise = told id compiled) : Diagnosed known source compiled bytewise :=
  ⟨hmarks, heq, fun t => heq ▸ told_ne_trap id compiled t⟩

/-- Every rule source over every set of columns, and every condition source with every reader of
patterns. -/
theorem compile_diagnosed [PatternEngine] (source : Text) (columns : ColumnSet)
    (read : PatternReader) :
    Diagnosed (RuleSet.knows columns) source (RuleSet.compile source columns)
        (compileRules source columns) ∧
      Diagnosed Condition.knows source (Condition.compileWith read source)
        (compileCondition read source) :=
  ⟨.of_eq (fun _ => RuleSet.marks_of_compile) (compileRules_eq source columns),
    .of_eq (fun _ => Condition.marks_of_compileWith) (compileCondition_eq read source)⟩

namespace Misspelled

def columns : ColumnSet :=
  ⟨[⟨"name".toList, .name, .empty⟩], 0⟩

def rules : Text :=
  "# é\r* wörd(<name>);".toList

def condition : Text :=
  "not syst_contains(\"é\\ö\")".toList

theorem compile_diagnosed_misspelled :
    let function : SourceError := ⟨.unknownFunction, 7, 1, none⟩
    let escape : SourceError := ⟨.unknownEscape, 21, 3, none⟩
    compileRules rules columns = fail function ∧
      function.Marks (RuleSet.knows columns) rules ∧
      compileCondition Condition.patterns condition = fail escape ∧
      escape.Marks Condition.knows condition := by
  intro function escape
  have hrules : RuleSet.compile rules columns = .error function := by rfl
  have hcondition : Condition.compileWith Condition.patterns condition = .error escape := by rfl
  have hr := (compile_diagnosed rules columns Condition.patterns).1
  have hc := (compile_diagnosed condition columns Condition.patterns).2
  refine ⟨?_, hr.marks _ hrules, ?_, hc.marks _ hcondition⟩
  · rw [hr.bytewise_eq, hrules]
    rfl
  · rw [hc.bytewise_eq, hcondition]
    rfl

end Misspelled

end ListingRules.Bytewise
