import ListingRules.Column.Set
import ListingRules.Proofs.Gathering

namespace ListingRules

namespace ColumnDefinition

def emptyValue? (d : ColumnDefinition) : Option Value :=
  match d.empty with
  | none => some (Value.defaultFor d.kind)
  | some t => Value.parse? d.kind t

theorem fits_emptyValue? {d : ColumnDefinition} {v : Value} (h : d.emptyValue? = some v) :
    v.Fits d.kind := by
  unfold emptyValue? at h
  split at h
  · obtain rfl := Option.some.inj h
    exact Value.fits_defaultFor d.kind
  · exact Value.fits_of_parse? h

def HasOwnId (d : ColumnDefinition) : Prop :=
  isIdentifier d.id = true ∧ ∀ flag ∈ flagIds, Text.sameAscii d.id flag = false

def SharesId (ids : List Text) (d : ColumnDefinition) : Prop :=
  ∃ id ∈ ids, Text.sameAscii d.id id = true

def SharesKind (kinds : List ColumnKind) (d : ColumnDefinition) : Prop :=
  d.kind.isUnique = true ∧ d.kind ∈ kinds

instance (d : ColumnDefinition) : Decidable d.HasOwnId :=
  inferInstanceAs (Decidable (_ ∧ _))

instance (ids : List Text) (d : ColumnDefinition) : Decidable (d.SharesId ids) :=
  inferInstanceAs (Decidable (∃ id ∈ ids, _))

instance (kinds : List ColumnKind) (d : ColumnDefinition) : Decidable (d.SharesKind kinds) :=
  inferInstanceAs (Decidable (_ ∧ _))

end ColumnDefinition

namespace ColumnSet

variable {before columns : List Column} {ds : List ColumnDefinition} {d : ColumnDefinition}
  {c : Column}

theorem columnOf_eq (before : List Column) (d : ColumnDefinition) :
    columnOf before d =
      if d.HasOwnId then
        if d.SharesId (before.map (·.id)) then .error (.duplicateId d.id)
        else if d.SharesKind (before.map (·.kind)) then .error (.duplicateKind d.kind)
        else match d.emptyValue? with
          | some v => .ok ⟨d.id, d.kind, v⟩
          | none => .error (.invalidEmptyValue d.id (d.empty.getD []))
      else .error (.invalidId d.id) := by
  have hown : (!isIdentifier d.id || flagIds.any (Text.sameAscii d.id)) = true ↔ ¬ d.HasOwnId := by
    simp [ColumnDefinition.HasOwnId, imp_iff_not_or]
  have hid : before.any (Text.sameAscii d.id ·.id) = true ↔ d.SharesId (before.map (·.id)) := by
    simp [ColumnDefinition.SharesId]
  have hkind : (d.kind.isUnique && before.any (·.kind == d.kind)) = true ↔
      d.SharesKind (before.map (·.kind)) := by
    simp [ColumnDefinition.SharesKind]
  rw [columnOf, if_congr hown rfl rfl, if_congr hid rfl rfl, if_congr hkind rfl rfl, ite_not]
  cases hempty : d.empty with
  | none => simp [ColumnDefinition.emptyValue?, hempty]
  | some t => cases hv : Value.parse? d.kind t <;> simp [ColumnDefinition.emptyValue?, hempty, hv]

theorem columnOf_eq_ok_iff :
    columnOf before d = .ok c ↔
      d.HasOwnId ∧ ¬ d.SharesId (before.map (·.id)) ∧ ¬ d.SharesKind (before.map (·.kind)) ∧
        c.id = d.id ∧ c.kind = d.kind ∧ d.emptyValue? = some c.empty := by
  rw [columnOf_eq]
  split <;> rename_i hown
  · split <;> rename_i hid
    · simp [hid]
    · split <;> rename_i hkind
      · simp [hkind]
      · obtain ⟨id, kind, value⟩ := c
        cases d.emptyValue? <;> simp [hown, hid, hkind, eq_comm]
  · simp [hown]

theorem columnsFrom_eq_gather (before : List Column) (ds : List ColumnDefinition) :
    columnsFrom before ds = gather columnOf before ds := by
  induction ds generalizing before with
  | nil => rfl
  | cons d ds ih =>
      rw [columnsFrom, gather]
      cases columnOf before d with
      | error e => rfl
      | ok c => exact ih (before ++ [c])

theorem forall₂_of_columnsFrom (h : columnsFrom [] ds = .ok columns) :
    List.Forall₂ (fun d c => c.id = d.id ∧ c.kind = d.kind ∧ d.emptyValue? = some c.empty)
      ds columns := by
  rw [columnsFrom_eq_gather] at h
  obtain ⟨new, rfl, hall⟩ := forall₂_gather h fun _ _ _ hc => (columnOf_eq_ok_iff.1 hc).2.2.2
  exact hall

theorem columnsFrom_of_definitions {s : ColumnSet} (h : ofDefinitions ds = .ok s) :
    columnsFrom [] ds = .ok s.columns := by
  cases hcolumns : columnsFrom [] ds with
  | error e => simp [ofDefinitions, hcolumns, bind, Except.bind] at h
  | ok columns =>
      simp only [ofDefinitions, hcolumns, bind, Except.bind] at h
      split at h
      · obtain rfl := Except.ok.inj h
        rfl
      · cases h

end ColumnSet

end ListingRules
