import ListingRules.Listing.Record

namespace ListingRules.Report

open Listing (FileRecord)

inductive JsonValue where
  | null
  | bool (b : Bool)
  | number (n : Int)
  | text (t : Text)
  | list (items : List JsonValue)
  | object (fields : List (Text × JsonValue))
  deriving Repr

namespace JsonValue

def escape (c : Char) : Text :=
  if c = '"' ∨ c = '\\' then ['\\', c]
  else if c = '\n' then ['\\', 'n']
  else if c = '\r' then ['\\', 'r']
  else if c = '\t' then ['\\', 't']
  else if c = '\x08' then ['\\', 'b']
  else if c = '\x0c' then ['\\', 'f']
  else if c.toNat < 0x20 then
    let digits := Decimal.hexDigits c.toNat
    ['\\', 'u'] ++ List.replicate (4 - digits.length) '0' ++ digits
  else [c]

def quote (t : Text) : Text :=
  '"' :: t.flatMap escape ++ ['"']

def newLine (depth : Nat) : Text :=
  '\n' :: List.replicate (2 * depth) ' '

def block (opening closing : Char) (depth : Nat) (items : List Text) : Text :=
  if items.isEmpty then [opening, closing]
  else
    opening :: newLine (depth + 1) ++ Text.joinWith (',' :: newLine (depth + 1)) items ++
      newLine depth ++ [closing]

mutual

def pretty (depth : Nat) : JsonValue → Text
  | null => "null".toList
  | bool b => (if b then "true" else "false").toList
  | number n => Decimal.ofInt n
  | text t => quote t
  | list items => block '[' ']' depth (prettyItems (depth + 1) items)
  | object fields => block '\x7b' '\x7d' depth (prettyFields (depth + 1) fields)

def prettyItems (depth : Nat) : List JsonValue → List Text
  | [] => []
  | v :: more => v.pretty depth :: prettyItems depth more

def prettyFields (depth : Nat) : List (Text × JsonValue) → List Text
  | [] => []
  | (k, v) :: more => (quote k ++ ':' :: ' ' :: v.pretty depth) :: prettyFields depth more

end

def ofOption (t : Option Text) : JsonValue :=
  t.elim null text

def ofValue : Value → JsonValue
  | .empty => null
  | .number n => number n
  | v => text v.shown

def ofRecord (r : FileRecord) : JsonValue :=
  object [
    ("extension".toList, ofOption r.extension),
    ("is_dir".toList, bool r.isDir),
    ("is_hidden".toList, bool r.isHidden),
    ("is_link".toList, bool r.isLink),
    ("modified".toList, ofOption (r.modified.map Moment.compactText)),
    ("name".toList, text r.name),
    ("size".toList, number r.size),
    ("values".toList, list (r.values.map ofValue))]

def ofRecords (serverType : Option Text) (records : List FileRecord) : JsonValue :=
  object [
    ("records".toList, list (records.map ofRecord)),
    ("server_type".toList, ofOption serverType)]

end JsonValue

end ListingRules.Report
