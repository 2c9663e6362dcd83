import ListingRules.Catalog.Source
import ListingRules.Catalog.Stock
import ListingRules.Condition.Compile
import ListingRules.Rule.Compile

namespace ListingRules

structure ServerType [PatternEngine] where
  name : Text
  condition : Condition
  rules : RuleSet
  deriving DecidableEq

inductive DefinitionFault where
  | columns (e : ColumnError)
  | condition (e : SourceError)
  | rules (e : SourceError)
  deriving DecidableEq, Repr

inductive CatalogError where
  | malformed
  | duplicate (name : Text)
  | invalid (name : Text) (fault : DefinitionFault)
  deriving DecidableEq, Repr

namespace CatalogError

def name? : CatalogError → Option Text
  | malformed => none
  | duplicate name | invalid name _ => some name

def message : CatalogError → Text
  | malformed => "invalid server type catalog".toList
  | duplicate name => "server type '".toList ++ name ++ "' is declared twice".toList
  | invalid name fault =>
      "server type '".toList ++ name ++
        match fault with
        | .columns _ => "' has invalid columns".toList
        | .condition _ => "' has an invalid autodetect condition".toList
        | .rules _ => "' has invalid rules".toList

end CatalogError

variable [PatternEngine]

namespace ServerTypeDefinition

def compile (d : ServerTypeDefinition) : Except DefinitionFault ServerType := do
  let columns ← (ColumnSet.ofDefinitions d.columns).mapError .columns
  let condition ← (Condition.compile d.condition).mapError .condition
  let rules ← (RuleSet.compile d.rules columns).mapError .rules
  return ⟨d.name, condition, rules⟩

theorem compile_of_ok {d : ServerTypeDefinition} {columns : ColumnSet} {condition : Condition}
    {rules : RuleSet} (hcolumns : ColumnSet.ofDefinitions d.columns = .ok columns)
    (hcondition : Condition.compile d.condition = .ok condition)
    (hrules : RuleSet.compile d.rules columns = .ok rules) :
    d.compile = .ok ⟨d.name, condition, rules⟩ := by
  rw [compile, hcolumns, hcondition]
  change ((RuleSet.compile d.rules columns).mapError DefinitionFault.rules >>= fun rules =>
    pure (ServerType.mk d.name condition rules)) = _
  rw [hrules]
  rfl

theorem name_compile {d : ServerTypeDefinition} {t : ServerType} (h : d.compile = .ok t) :
    t.name = d.name := by
  simp only [compile, bind, Except.bind, pure, Except.pure] at h
  split at h
  · simp at h
  · split at h
    · simp at h
    · split at h
      · simp at h
      · obtain rfl := Except.ok.inj h
        rfl

end ServerTypeDefinition

abbrev Catalog := List ServerType

namespace Catalog

def compileFrom (before : Catalog) : List ServerTypeDefinition → Except CatalogError Catalog
  | [] => .ok before
  | d :: more =>
      if before.any (Text.sameAscii ·.name d.name) then .error (.duplicate d.name)
      else
        match d.compile with
        | .ok t => compileFrom (before ++ [t]) more
        | .error fault => .error (.invalid d.name fault)

def compile (ds : List ServerTypeDefinition) : Except CatalogError Catalog :=
  compileFrom [] ds

def ofToml (document : Text) : Except CatalogError Catalog :=
  match ServerTypeDefinition.ofToml? document with
  | some ds => compile ds
  | none => .error .malformed

def stock : Except CatalogError Catalog :=
  compile Stock.definitions

def find? (types : Catalog) (name : Text) : Option Nat :=
  types.findIdx? fun t => Text.sameAscii t.name name

def get? (types : Catalog) (name : Text) : Option ServerType :=
  (types.find? name).bind (types[·]?)

theorem names_compileFrom {before c : Catalog} {ds : List ServerTypeDefinition}
    (h : compileFrom before ds = .ok c) :
    c.map (·.name) = before.map (·.name) ++ ds.map (·.name) := by
  induction ds generalizing before with
  | nil =>
      obtain rfl := Except.ok.inj h
      simp
  | cons d ds ih =>
      simp only [compileFrom] at h
      split at h
      · simp at h
      · split at h
        · rename_i t ht
          rw [ih h]
          simp [ServerTypeDefinition.name_compile ht]
        · simp at h

theorem names_compile {c : Catalog} {ds : List ServerTypeDefinition} (h : compile ds = .ok c) :
    c.map (·.name) = ds.map (·.name) := by
  simpa using names_compileFrom h

end Catalog

end ListingRules
