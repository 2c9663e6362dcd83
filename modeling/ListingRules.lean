import ListingRules.Main
import ListingRules.Proofs.Movement
import ListingRules.Proofs.Passes
import ListingRules.Proofs.Assignment
import ListingRules.Proofs.FailedAttempts
import ListingRules.Proofs.CutShort
import ListingRules.Proofs.Selection
import ListingRules.Proofs.PrintedConditions
import ListingRules.Proofs.PrintedRules
import ListingRules.Proofs.Bytewise.Reading
import ListingRules.Proofs.Margin.Reader
import ListingRules.Proofs.Margin.Attempt
import ListingRules.Proofs.Margin.Line
import ListingRules.Proofs.LineByLine
import ListingRules.Proofs.NonemptyLines
import ListingRules.Proofs.LineEndings.Attempt
import ListingRules.Proofs.LineEndings.Reading
import ListingRules.Proofs.KnownText
import ListingRules.Proofs.LongFormat.Entry
import ListingRules.Proofs.LongFormat.ReadBack
import ListingRules.Proofs.AddedRules
import ListingRules.Proofs.LineNumbers
import ListingRules.Proofs.SizeColumn
import ListingRules.Proofs.RecordShape
import ListingRules.Proofs.MonthLanguages
import ListingRules.Proofs.GuessedYears
import ListingRules.Proofs.ShownTimes
import ListingRules.Proofs.MonthLists.Short
import ListingRules.Proofs.SeparatedNumbers
import ListingRules.Proofs.Occurrences
import ListingRules.Proofs.LineSpans
import ListingRules.Proofs.LinkParts
import ListingRules.Proofs.LinkGuess
import ListingRules.Proofs.Bytewise.CompileErrors
import ListingRules.Proofs.TextComparison
import ListingRules.Proofs.EmptyCells
import ListingRules.Proofs.ConditionChains
import ListingRules.Proofs.RuleLayout
import ListingRules.Proofs.ColumnSets
import ListingRules.Proofs.CompiledCatalogs
import ListingRules.Proofs.BackAndForth
import ListingRules.Proofs.DeviceNumbers
import ListingRules.Proofs.QuotedGrammar
