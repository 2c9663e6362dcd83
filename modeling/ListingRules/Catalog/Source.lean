import ListingRules.Catalog.Definition
import ListingRules.Toml.Document

namespace ListingRules.ServerTypeDefinition

open Toml (Node Entries)

def text? : Node → Option Text
  | .text t => some t
  | _ => none

def optionalText? (key : String) (es : Entries) : Option (Option Text) :=
  match es.get? key.toList with
  | none => some none
  | some n => (text? n).map some

def requiredText? (key : String) (es : Entries) : Option Text :=
  (es.get? key.toList).bind text?

/-- The tables in a list, however it is written. In place of a table there may be a list of what
stands under its keys, in a fixed order. -/
def tables? (keys : List String) : Node → Option (List Entries)
  | .tables items => some items
  | .list items => items.mapM fun
      | .table _ es => some es
      | .list values => some ((keys.map String.toList).zip values)
      | _ => none
  | _ => none

def label? : Node → Option Text
  | .text t | .table _ [(t, .table _ [])] | .table _ [(t, .list [])] => some t
  | _ => none

def columnOfTable? (es : Entries) : Option ColumnDefinition := do
  let label ← (es.get? "kind".toList).bind label?
  return ⟨← requiredText? "id" es, ← ColumnKind.ofLabel? label, ← optionalText? "empty" es⟩

def ofTable? (es : Entries) : Option ServerTypeDefinition := do
  let name ← requiredText? "name" es
  let condition ← optionalText? "condition" es
  let columns ← (← (es.get? "columns".toList).bind (tables? ["id", "kind", "empty"])).mapM
    columnOfTable?
  return ⟨name, condition.getD [], columns, ← requiredText? "rules" es⟩

/-- The server types of a document, in their order. Keys that a catalog does not know may stand
anywhere. -/
def ofToml? (document : Text) : Option (List ServerTypeDefinition) := do
  match (← Toml.parse? document).get? "server_type".toList with
  | none => return []
  | some n => (← tables? ["name", "condition", "columns", "rules"] n).mapM ofTable?

end ListingRules.ServerTypeDefinition
