import ListingRules.Column.Set

namespace ListingRules

structure ServerTypeDefinition where
  name : Text
  condition : Text := []
  columns : List ColumnDefinition
  rules : Text
  deriving DecidableEq, Repr

def ServerTypeDefinition.ofStrings (name : String) (columns : List (String × ColumnKind))
    (condition rules : String) : ServerTypeDefinition :=
  ⟨name.toList, condition.toList, columns.map fun (id, kind) => ⟨id.toList, kind, none⟩,
    rules.toList⟩

end ListingRules
