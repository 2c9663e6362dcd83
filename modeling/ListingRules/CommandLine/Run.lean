import ListingRules.Catalog.Detect
import ListingRules.CommandLine.Request
import ListingRules.Condition.Print
import ListingRules.Pattern.Engine
import ListingRules.Report.Json
import ListingRules.Report.Line
import ListingRules.Text.Utf8

namespace ListingRules.CommandLine

open Listing (Context FileRecord)

inductive Stop where
  | misused
  | failure (message : Text)
  | diagnosis (message : Text)
  deriving DecidableEq, Repr

def Stop.code : Stop → Nat
  | misused => 2
  | failure _ | diagnosis _ => 1

structure World (m : Type → Type) where
  file : Text → m (Option (List UInt8))
  input : m (List UInt8)
  today : m Date

abbrev Run (m : Type → Type) := ExceptT Stop m

variable {m : Type → Type} [Monad m]

def sourceText (w : World m) (path : Text) : Run m Text := do
  if path = ['-'] then return Utf8.decodeShowing (← w.input)
  match ← w.file path with
  | some bytes => return Utf8.decodeShowing bytes
  | none => throw (.failure ("failed to read ".toList ++ path))

def columnsOf (list : Text) : Run m ColumnSet :=
  match ColumnSet.ofList list with
  | .ok s => return s
  | .error _ => throw (.failure ("invalid column list '".toList ++ list ++ ['\'']))

def rulesOf (source : Text) (columns : ColumnSet) : Run m RuleSet :=
  match RuleSet.compile source columns with
  | .ok r => return r
  | .error e => throw (.diagnosis e.message)

def compiled (c : Except CatalogError Catalog) : Run m Catalog :=
  match c with
  | .ok c => return c
  | .error e => throw (.diagnosis e.message)

def catalogOf (w : World m) (path : Option Text) : Run m Catalog := do
  match path with
  | none => compiled Catalog.stock
  | some path =>
      match (← w.file path).bind Utf8.decode? with
      | some t => compiled (Catalog.ofToml t)
      | none => throw (.diagnosis ("failed to read server types from ".toList ++ path))

def recordsOf (rules : RuleSet) (listing : Text) (context : Context) : Run m (List FileRecord) :=
  match Listing.parse rules listing context with
  | .ok records => return records
  | .error u => throw (.failure u.message)

def reportText (format : Format) (serverType : Option Text) (columns : ColumnSet)
    (records : List FileRecord) : Text :=
  match format with
  | .text => records.flatMap fun r => Report.line columns r ++ ['\n']
  | .json => (Report.JsonValue.ofRecords serverType records).pretty 0 ++ ['\n']

def unknownServerType (name : Text) : Stop :=
  .failure ("unknown server type '".toList ++ name ++ ['\''])

def readListing (w : World m) (r : ReadRequest) : Run m Text := do
  let some path := r.listing | throw (.failure "a listing file is required".toList)
  let listing ← sourceText w path
  let today ← match r.today with
    | some d => pure d
    | none => w.today
  let context : Context := { today, incomplete := r.incomplete }
  match r.method with
  | .rules file list =>
      let columns ← columnsOf list
      let rules ← rulesOf (← sourceText w file) columns
      return reportText r.format none columns (← recordsOf rules listing context)
  | .serverType name =>
      match (← catalogOf w r.catalog).get? name with
      | none => throw (unknownServerType name)
      | some t =>
          return reportText r.format t.name t.rules.columns (← recordsOf t.rules listing context)
  | .detection =>
      let catalog ← catalogOf w r.catalog
      match catalog.detect? r.lastUsed r.greeting listing context with
      | none => throw (.failure ("no server type can read ".toList ++ path))
      | some d =>
          match catalog.get? d.serverType with
          | none => throw (unknownServerType d.serverType)
          | some t => return reportText r.format d.serverType t.rules.columns d.records

def run (w : World m) (arguments : List Text) : Run m Text := do
  match Request.ofArguments? arguments with
  | none => throw .misused
  | some (.read r) => readListing w r
  | some (.checkRules file list) =>
      let columns ← columnsOf list
      let _ ← rulesOf (← sourceText w file) columns
      return []
  | some (.checkCondition source) =>
      match Condition.compile source with
      | .ok c => return c.text ++ ['\n']
      | .error e => throw (.diagnosis e.message)

end ListingRules.CommandLine
