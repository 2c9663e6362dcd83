import ListingRules.Catalog.Compile
import ListingRules.Proofs.KnownText

namespace ListingRules.LongFormat

open Listing (callOn nextChar)

def columns : ColumnSet where
  columns :=
    [⟨['n', 'a', 'm', 'e'], .name, .empty⟩, ⟨['e', 'x', 't'], .extension, .empty⟩,
     ⟨['s', 'i', 'z', 'e'], .size, .number 0⟩, ⟨['t', 'y', 'p', 'e'], .fileType, .text []⟩,
     ⟨['d', 'a', 't', 'e'], .date, .date Date.earliest⟩,
     ⟨['t', 'i', 'm', 'e'], .time, .time Time.midnight⟩,
     ⟨['r', 'i', 'g', 'h', 't', 's'], .text, .text []⟩, ⟨['l', 'i', 'n', 'k'], .text, .text []⟩,
     ⟨['u', 's', 'e', 'r'], .text, .text []⟩, ⟨['g', 'r', 'o', 'u', 'p'], .text, .text []⟩,
     ⟨['d', 'e', 'v', 'i', 'c', 'e'], .text, .text []⟩]
  nameIndex := 0

def field (f : RuleFunction) (places : List Nat) : List Call :=
  [callOn f places, callOn .whiteSpaces []]

def headCalls : List Call :=
  ⟨.require, [nextChar .notEqual 'l']⟩ ::
    ⟨.assign, [.operand (.column .isDir), nextChar .equal 'd']⟩ ::
      (field .word [6] ++ (field .word [] ++ (field .word [8] ++ (field .word [9] ++
        (field .positiveNumber [2] ++ (field .month3 [4] ++ field .day [4]))))))

def nameCalls (blanks : Nat) : List Call :=
  [⟨.whiteSpaces, [.operand (.number blanks)]⟩,
   ⟨.assign, [.operand (.column .isHidden), nextChar .equal '.']⟩, callOn .restOfLine [0]]

def yearRule : Rule :=
  ⟨headCalls ++ callOn .year [4] :: nameCalls 2⟩

def timeRule : Rule :=
  ⟨headCalls ++ callOn .yearOrTime [4, 5] :: nameCalls 1⟩

theorem ofDefinitions_unix1 : ColumnSet.ofDefinitions Stock.unix1.columns = .ok columns := by
  rfl

set_option maxRecDepth 20000 in
theorem take_compile_unix1 :
    ((RuleSet.compile Stock.unix1.rules columns).toOption.map fun r =>
      (r.columns, r.rules.take 2)) = some (columns, [yearRule, timeRule]) := by
  unfold Stock.unix1 ServerTypeDefinition.ofStrings
  dsimp only
  -- The kernel reads a list of characters much faster than a string.
  rw [String.toList_ofList]
  decide +kernel

theorem exists_rules_unix1 : ∃ more, RuleSet.compile Stock.unix1.rules columns =
    .ok ⟨yearRule :: timeRule :: more, columns⟩ := by
  obtain ⟨r, hr, htake⟩ := Option.map_eq_some_iff.1 take_compile_unix1
  obtain ⟨hcolumns, htake⟩ := Prod.mk.inj htake
  have hcompile : RuleSet.compile Stock.unix1.rules columns = .ok r := by
    cases hc : RuleSet.compile Stock.unix1.rules columns with
    | error e =>
        rw [hc] at hr
        cases hr
    | ok r' =>
        rw [hc] at hr
        rw [Option.some.inj hr]
  refine ⟨r.rules.drop 2, ?_⟩
  have hsplit := List.take_append_drop 2 r.rules
  rw [htake] at hsplit
  rw [hcompile, ← hcolumns]
  exact congrArg (Except.ok ∘ (RuleSet.mk · r.columns)) hsplit.symm

variable [PatternEngine]

set_option maxRecDepth 20000 in
/-- The condition holds no pattern. -/
theorem exists_condition_unix1 : ∃ c, Condition.compile Stock.unix1.condition = .ok c := by
  unfold Stock.unix1 ServerTypeDefinition.ofStrings
  dsimp only
  rw [String.toList_ofList]
  exact ⟨_, by rfl⟩

theorem exists_compile_unix1 : ∃ t more, Stock.unix1.compile = .ok t ∧
    t.rules = ⟨yearRule :: timeRule :: more, columns⟩ := by
  obtain ⟨c, hc⟩ := exists_condition_unix1
  obtain ⟨more, hmore⟩ := exists_rules_unix1
  exact ⟨_, more, ServerTypeDefinition.compile_of_ok ofDefinitions_unix1 hc hmore, rfl⟩

end ListingRules.LongFormat
