import ListingRules.Calendar.Date
import ListingRules.CommandLine.Arguments
import ListingRules.Condition.Call

namespace ListingRules.CommandLine

inductive Method where
  | rules (file columns : Text)
  | serverType (name : Text)
  | detection
  deriving DecidableEq, Repr

inductive Format where
  | text
  | json
  deriving DecidableEq, Repr

structure ReadRequest where
  listing : Option Text
  method : Method
  catalog : Option Text
  greeting : Greeting
  lastUsed : Option Text
  today : Option Date
  incomplete : Bool
  format : Format
  deriving DecidableEq, Repr

inductive Request where
  | read (r : ReadRequest)
  | checkRules (file columns : Text)
  | checkCondition (source : Text)
  deriving DecidableEq, Repr

namespace Request

def readForms : List OptionForm :=
  [⟨"rules", none, true⟩, ⟨"columns", none, true⟩, ⟨"server-type", none, true⟩,
   ⟨"welcome", none, true⟩, ⟨"syst", none, true⟩, ⟨"last-used", none, true⟩,
   ⟨"server-types", none, true⟩, ⟨"today", none, true⟩, ⟨"incomplete", none, false⟩,
   ⟨"format", none, true⟩, ⟨"verbose", some 'v', false⟩]

def checkRulesForms : List OptionForm :=
  [⟨"columns", none, true⟩]

def file? (given : Option Text) : Option (Option Text) :=
  if given = some [] then none else some given

def methodOf? (g : Given) : Option Method := do
  match ← file? (g.value? "rules"), g.value? "columns", g.value? "server-type" with
  | none, _, none => return .detection
  | none, _, some name => return .serverType name
  | some file, some columns, none => return .rules file columns
  | _, _, _ => none

def formatOf? (g : Given) : Option Format :=
  match (g.value? "format").map String.ofList with
  | none | some "text" => some .text
  | some "json" => some .json
  | _ => none

def todayOf? (g : Given) : Option (Option Date) :=
  match g.value? "today" with
  | none => some none
  | some t => (Date.parse? t).map some

def readOf? (arguments : List Text) : Option ReadRequest := do
  let g ← Given.read? readForms arguments
  guard (g.plain.length ≤ 1)
  return {
    listing := ← file? g.plain.head?
    method := ← methodOf? g
    catalog := ← file? (g.value? "server-types")
    greeting := ⟨(g.value? "welcome").getD [], (g.value? "syst").getD []⟩
    lastUsed := g.value? "last-used"
    today := ← todayOf? g
    incomplete := g.has "incomplete"
    format := ← formatOf? g }

/-- The request that arguments make, if they make one. Only the first of them can ask for a
check. -/
def ofArguments? : List Text → Option Request
  | [] => read <$> readOf? []
  | first :: rest =>
      if first = "check-rules".toList then do
        let g ← Given.read? checkRulesForms rest
        match g.plain, g.value? "columns" with
        | [file], some columns =>
            guard !file.isEmpty
            return .checkRules file columns
        | _, _ => none
      else if first = "check-condition".toList then do
        match (← Given.read? [] rest).plain with
        | [source] => return .checkCondition source
        | _ => none
      else read <$> readOf? (first :: rest)

end Request

end ListingRules.CommandLine
