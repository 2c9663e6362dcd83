import ListingRules.Character.Whitespace
import ListingRules.Column.Value

namespace ListingRules

structure ColumnDefinition where
  id : Text
  kind : ColumnKind
  empty : Option Text := none
  deriving DecidableEq, Repr

structure Column where
  id : Text
  kind : ColumnKind
  empty : Value
  deriving DecidableEq, Repr

structure ColumnSet where
  columns : List Column
  nameIndex : Nat
  deriving DecidableEq, Repr

inductive ColumnError where
  | missingName
  | duplicateKind (kind : ColumnKind)
  | duplicateId (id : Text)
  | invalidId (id : Text)
  | invalidEmptyValue (id value : Text)
  deriving DecidableEq, Repr

namespace ColumnError

def name : ColumnError → String
  | missingName => "missing_name"
  | duplicateKind _ => "duplicate_kind"
  | duplicateId _ => "duplicate_id"
  | invalidId _ => "invalid_id"
  | invalidEmptyValue .. => "invalid_empty_value"

def message : ColumnError → Text
  | missingName => "column set needs exactly one column of kind 'name'".toList
  | duplicateKind k => s!"column kind '{k.label}' may appear only once".toList
  | duplicateId id => "column id '".toList ++ id ++ "' is declared twice".toList
  | invalidId id => '\'' :: id ++ "' is not a valid column id".toList
  | invalidEmptyValue id value =>
      "empty value '".toList ++ value ++ "' is not valid for column '".toList ++ id ++ ['\'']

end ColumnError

def isIdentifierStart (c : Char) : Bool :=
  c.isAlpha || c == '_'

def isIdentifierPart (c : Char) : Bool :=
  c.isAlphanum || c == '_'

def isIdentifier : Text → Bool
  | [] => false
  | c :: rest => isIdentifierStart c && rest.all isIdentifierPart

theorem isIdentifierPart_of_isIdentifierStart {c : Char} (h : isIdentifierStart c = true) :
    isIdentifierPart c = true := by
  simp only [isIdentifierStart, isIdentifierPart, Char.isAlphanum, Bool.or_eq_true] at h ⊢
  exact h.imp_left .inl

def flagIds : List Text :=
  ["is_dir".toList, "is_hidden".toList, "is_link".toList]

namespace ColumnSet

def columnOf (before : List Column) (d : ColumnDefinition) :
    Except ColumnError Column :=
  if !isIdentifier d.id || flagIds.any (Text.sameAscii d.id) then .error (.invalidId d.id)
  else if before.any (Text.sameAscii d.id ·.id) then .error (.duplicateId d.id)
  else if d.kind.isUnique && before.any (·.kind == d.kind) then .error (.duplicateKind d.kind)
  else match d.empty with
    | none => .ok ⟨d.id, d.kind, Value.defaultFor d.kind⟩
    | some t =>
        match Value.parse? d.kind t with
        | some v => .ok ⟨d.id, d.kind, v⟩
        | none => .error (.invalidEmptyValue d.id t)

def columnsFrom (before : List Column) : List ColumnDefinition → Except ColumnError (List Column)
  | [] => .ok before
  | d :: rest => do columnsFrom (before ++ [← columnOf before d]) rest

def ofDefinitions (ds : List ColumnDefinition) : Except ColumnError ColumnSet := do
  let columns ← columnsFrom [] ds
  match columns.findIdx? (·.kind == .name) with
  | some i => .ok ⟨columns, i⟩
  | none => .error .missingName

def definitionOfItem (item : Text) : Except ColumnError ColumnDefinition :=
  let (id, kind) := match item.dropWhile (· != ':') with
    | [] => (item, item)
    | _ :: kind => (Character.trim (item.takeWhile (· != ':')), Character.trim kind)
  match ColumnKind.ofName? kind with
  | some k => .ok ⟨id, k, none⟩
  | none => .error (.invalidId item)

def ofList (list : Text) : Except ColumnError ColumnSet := do
  let items := ((list.splitOn ',').map Character.trim).filter (!·.isEmpty)
  ofDefinitions (← items.mapM definitionOfItem)

def get? (s : ColumnSet) (i : Nat) : Option Column :=
  s.columns[i]?

def find? (s : ColumnSet) (id : Text) : Option Nat :=
  s.columns.findIdx? fun c => Text.sameAscii c.id id

theorem get?_nameIndex {ds : List ColumnDefinition} {s : ColumnSet}
    (h : ofDefinitions ds = .ok s) : ∃ c, s.get? s.nameIndex = some c ∧ c.kind = .name := by
  simp only [ofDefinitions, bind, Except.bind] at h
  split at h
  · simp at h
  · split at h
    · rename_i i hi
      obtain rfl := Except.ok.inj h
      obtain ⟨hlt, hp, -⟩ := List.findIdx?_eq_some_iff_getElem.1 hi
      exact ⟨_, List.getElem?_eq_getElem hlt, by simpa using hp⟩
    · simp at h

end ColumnSet

end ListingRules
