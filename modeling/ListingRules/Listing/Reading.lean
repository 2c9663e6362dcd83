import ListingRules.Listing.Attempt
import ListingRules.Listing.Record

namespace ListingRules.Listing

structure Context where
  today : Date
  languages : Languages := Languages.all
  incomplete : Bool := false
  deriving DecidableEq, Repr

structure Unread where
  offset : Nat
  line : Nat
  deriving DecidableEq, Repr

def Unread.message (u : Unread) : Text :=
  "no rule matches line ".toList ++ Decimal.digits u.line ++ " of the listing (offset ".toList ++
    Decimal.digits u.offset ++ [')']

inductive Match where
  | matched (stop : Cursor) (row : Row) (languages : Languages)
  | skipsRest (languages : Languages)
  | fails (languages : Languages)
  deriving DecidableEq, Repr

def applyAll (e : Surroundings) : List Call → Attempt → Outcome
  | [], a => .continues a
  | call :: more, a =>
      match a.apply e call with
      | .continues a => applyAll e more a
      | o => o

def Row.hasEmptyName (s : ColumnSet) (r : Row) : Bool :=
  r.text? s.nameIndex == some []

/-- Applies a rule at a place. It has to come to the end of a line, which is passed, and must not
leave the name empty. -/
def applyRule (e : Surroundings) (place : Cursor) (languages : Languages) (r : Rule) : Match :=
  match applyAll e r.calls ⟨place, Row.empty e.columns, languages⟩ with
  | .continues a =>
      if a.row.hasEmptyName e.columns || !a.place.atLineEnd then .fails a.languages
      else .matched a.place.skipLineEnd a.row a.languages
  | .skipsRest a =>
      if a.row.hasEmptyName e.columns then .fails a.languages else .skipsRest a.languages
  | .fails languages => .fails languages
  | .stuck => .fails languages

/-- Applies the first rule that does not fail; the languages that a rule leaves are those that the
next one starts from. -/
def applyRules (e : Surroundings) (place : Cursor) : Languages → List Rule → Match
  | languages, [] => .fails languages
  | languages, r :: more =>
      match applyRule e place languages r with
      | .fails languages => applyRules e place languages more
      | m => m

structure Reading where
  place : Cursor
  line : Nat
  languages : Languages
  finished : Bool
  deriving DecidableEq, Repr

inductive Result where
  | record (r : FileRecord)
  | done
  | unread (u : Unread)
  deriving DecidableEq, Repr

namespace Reading

def start (text : Text) (context : Context) : Reading :=
  ⟨Cursor.ofText text, 1, context.languages, false⟩

def finish (r : Reading) : Reading :=
  { r with finished := true }

def surroundings (s : ColumnSet) (context : Context) (text : Text) : Surroundings :=
  ⟨s, context.today, context.incomplete, NonemptyLines.ofText text⟩

def textUpTo (c d : Cursor) : Text :=
  c.ahead.take (c.ahead.length - d.ahead.length)

def step (e : Surroundings) (rules : List Rule) (r : Reading) : Option Result × Reading :=
  if r.finished || r.place.ahead.isEmpty then (some .done, r.finish)
  else match applyRules e r.place r.languages rules with
    | .skipsRest languages => (some .done, { r with place := r.place.toEnd, languages }.finish)
    | .fails languages =>
        let r := { r with languages }
        if e.incomplete && !r.place.ahead.any Text.isLineEnd then
          (some .done, { r with place := r.place.toEnd }.finish)
        else (some (.unread ⟨r.place.offset, r.line⟩), r.finish)
    | .matched stop row languages =>
        let r : Reading :=
          { place := stop, line := r.line + countLineEnds (textUpTo r.place stop)
            languages, finished := false }
        if (row.text? e.columns.nameIndex).isSome then
          (some (.record (row.toRecord e.columns e.today)), r)
        else (none, r)

/-- Reads lines up to and with the next one that has a name. Each takes a character, so that the
length of what is ahead bounds their number. -/
def nextFrom (e : Surroundings) (rules : List Rule) : Nat → Reading → Result × Reading
  | 0, r => (.done, r.finish)
  | n + 1, r =>
      match step e rules r with
      | (some x, r) => (x, r)
      | (none, r) => nextFrom e rules n r

/-- The next record, the end of the listing, or a line that no rule reads. Behind the end and
behind such a line nothing more is read. -/
def next (e : Surroundings) (rules : List Rule) (r : Reading) : Result × Reading :=
  nextFrom e rules (r.place.ahead.length + 1) r

def recordsFrom (e : Surroundings) (rules : List Rule) :
    Nat → Reading → Except Unread (List FileRecord)
  | 0, _ => .ok []
  | n + 1, r =>
      match next e rules r with
      | (.done, _) => .ok []
      | (.unread u, _) => .error u
      | (.record x, r) => do return x :: (← recordsFrom e rules n r)

end Reading

def parse (rules : RuleSet) (text : Text) (context : Context) :
    Except Unread (List FileRecord) := do
  let e := Reading.surroundings rules.columns context text
  let records ← Reading.recordsFrom e rules.rules (text.length + 1) (Reading.start text context)
  return records.filter (!·.isDotEntry)

end ListingRules.Listing
