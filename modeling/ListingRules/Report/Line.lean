import ListingRules.Listing.Record

namespace ListingRules.Report

open Listing (FileRecord)

def alignRight (width : Nat) (t : Text) : Text :=
  List.replicate (width - t.length) ' ' ++ t

def extra? (c : Column) (v : Value) : Option Text :=
  match c.kind, v with
  | _, .empty | _, .text [] => none
  | .text, v | .number, v | .generalDate, v | .generalTime, v => some (c.id ++ '=' :: v.shown)
  | _, _ => none

def line (s : ColumnSet) (r : FileRecord) : Text :=
  let flag (b : Bool) (c : Char) : Char := if b then c else '-'
  let flags := [flag r.isDir 'd', flag r.isLink 'l', flag r.isHidden 'h']
  let modified := r.modified.elim ['-'] Moment.plainText
  let extras := (s.columns.zip r.values).filterMap fun (c, v) => extra? c v
  Text.joinWith [' '] [flags, alignRight 12 (Decimal.digits r.size), modified, r.name] ++
    if extras.isEmpty then [] else ' ' :: ' ' :: Text.joinWith [' '] extras

end ListingRules.Report
