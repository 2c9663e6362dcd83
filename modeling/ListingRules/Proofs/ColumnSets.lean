import ListingRules.Proofs.ColumnChecks
import ListingRules.Proofs.EmptyTexts
import ListingRules.Proofs.NamedColumns
import ListingRules.Proofs.RecordValues

namespace ListingRules

namespace ColumnDefinition

inductive GivesEmpty (d : ColumnDefinition) : Value → Prop
  | default : d.empty = none → GivesEmpty d (Value.defaultFor d.kind)
  | told {t : Text} {v : Value} : d.empty = some t → Value.IsToldBy t d.kind v → GivesEmpty d v

inductive Offends (before : List ColumnDefinition) (d : ColumnDefinition) : ColumnError → Prop
  | id : ¬ d.HasOwnId → Offends before d (.invalidId d.id)
  | sharedId : d.HasOwnId → d.SharesId (before.map (·.id)) → Offends before d (.duplicateId d.id)
  | sharedKind : d.HasOwnId → ¬ d.SharesId (before.map (·.id)) →
      d.SharesKind (before.map (·.kind)) → Offends before d (.duplicateKind d.kind)
  | empty {t : Text} : d.HasOwnId → ¬ d.SharesId (before.map (·.id)) →
      ¬ d.SharesKind (before.map (·.kind)) → d.empty = some t →
      (∀ v, ¬ Value.IsToldBy t d.kind v) → Offends before d (.invalidEmptyValue d.id t)

structure MayFollow (before : List ColumnDefinition) (d : ColumnDefinition) : Prop where
  hasOwnId : d.HasOwnId
  id_free : ¬ d.SharesId (before.map (·.id))
  kind_free : ¬ d.SharesKind (before.map (·.kind))
  told : ∀ t ∈ d.empty, ∃ v, Value.IsToldBy t d.kind v

structure AreValid (ds : List ColumnDefinition) : Prop where
  ids : ∀ d ∈ ds, d.HasOwnId
  distinct : ds.Pairwise fun a b => Text.sameAscii a.id b.id = false
  oneName : ∃! i : Nat, ds[i]?.map (·.kind) = some .name
  kinds : ds.Pairwise fun a b => a.kind = b.kind → a.kind.isUnique = false
  empties : ∀ d ∈ ds, ∀ t ∈ d.empty, ∃ v, Value.IsToldBy t d.kind v

variable {before ds : List ColumnDefinition} {d : ColumnDefinition} {v : Value} {e : ColumnError}

theorem emptyValue?_eq_some_iff : d.emptyValue? = some v ↔ d.GivesEmpty v := by
  cases hempty : d.empty with
  | none =>
      rw [emptyValue?, hempty]
      constructor
      · intro h
        obtain rfl := Option.some.inj h
        exact .default hempty
      · intro h
        cases h with
        | default => rfl
        | told ht => simp [hempty] at ht
  | some t =>
      rw [emptyValue?, hempty]
      constructor
      · intro h
        exact .told hempty (Value.parse?_eq_some_iff.1 h)
      · intro h
        cases h with
        | default hnone => simp [hempty] at hnone
        | told ht htold =>
            obtain rfl := Option.some.inj (hempty.symm.trans ht)
            exact Value.parse?_eq_some_iff.2 htold

theorem emptyValue?_eq_none_iff :
    d.emptyValue? = none ↔ ∃ t, d.empty = some t ∧ ∀ v, ¬ Value.IsToldBy t d.kind v := by
  cases hempty : d.empty with
  | none => simp [emptyValue?, hempty]
  | some t =>
      simp [emptyValue?, hempty, Option.eq_none_iff_forall_ne_some, Value.parse?_eq_some_iff]

theorem MayFollow.not_offends (h : d.MayFollow before) : ¬ d.Offends before e := by
  intro hoffends
  cases hoffends with
  | id hid => exact hid h.hasOwnId
  | sharedId _ hid => exact h.id_free hid
  | sharedKind _ _ hkind => exact h.kind_free hkind
  | empty _ _ _ ht hnone =>
      obtain ⟨v, hv⟩ := h.told _ ht
      exact hnone v hv

theorem forall_not_offends_iff : (∀ e, ¬ d.Offends before e) ↔ d.MayFollow before := by
  refine ⟨fun h => ?_, fun h e => h.not_offends⟩
  -- An error is told only if all checks before it pass, so they are taken in their order.
  have hid : d.HasOwnId := by
    by_contra hid
    exact h _ (.id hid)
  have hfree : ¬ d.SharesId (before.map (·.id)) := fun hshared => h _ (.sharedId hid hshared)
  have hkind : ¬ d.SharesKind (before.map (·.kind)) := fun hshared =>
    h _ (.sharedKind hid hfree hshared)
  refine ⟨hid, hfree, hkind, fun t ht => ?_⟩
  by_contra hnone
  exact h _ (.empty hid hfree hkind ht (not_exists.1 hnone))

end ColumnDefinition

open ColumnDefinition (AreValid GivesEmpty Offends)

namespace ColumnSet

structure IsMadeOf (s : ColumnSet) (ds : List ColumnDefinition) : Prop where
  inOrder : List.Forall₂ (fun d c => c.id = d.id ∧ c.kind = d.kind ∧ d.GivesEmpty c.empty)
    ds s.columns
  name : ∀ i, (s.get? i).map (·.kind) = some .name ↔ i = s.nameIndex
  found : ∀ i c id, s.get? i = some c → Text.sameAscii c.id id = true → s.find? id = some i
  fits : ∀ c ∈ s.columns, c.empty.Fits c.kind

variable {before columns : List Column} {ds done : List ColumnDefinition} {d : ColumnDefinition}
  {s : ColumnSet} {e : ColumnError}

theorem columnOf_eq_error_iff (hids : before.map (·.id) = done.map (·.id))
    (hkinds : before.map (·.kind) = done.map (·.kind)) :
    columnOf before d = .error e ↔ d.Offends done e := by
  rw [columnOf_eq, hids, hkinds]
  constructor
  · intro h
    split at h
    · rename_i hid
      split at h
      · obtain rfl := Except.error.inj h
        exact .sharedId hid ‹_›
      · split at h
        · obtain rfl := Except.error.inj h
          exact .sharedKind hid ‹_› ‹_›
        · split at h
          · cases h
          · rename_i hnone
            obtain rfl := Except.error.inj h
            obtain ⟨t, ht, hall⟩ := ColumnDefinition.emptyValue?_eq_none_iff.1 hnone
            rw [ht]
            exact .empty hid ‹_› ‹_› ht hall
    · obtain rfl := Except.error.inj h
      exact .id ‹_›
  · intro h
    cases h with
    | id hid => rw [if_neg hid]
    | sharedId hid hshared => rw [if_pos hid, if_pos hshared]
    | sharedKind hid hfree hshared => rw [if_pos hid, if_neg hfree, if_pos hshared]
    | empty hid hfree hkind ht hall =>
        have hnone := ColumnDefinition.emptyValue?_eq_none_iff.2 ⟨_, ht, hall⟩
        rw [if_pos hid, if_neg hfree, if_neg hkind, hnone, ht]
        rfl

theorem describes_columnOf : Describes Offends columnOf := by
  intro done made d e h
  have hall := forall₂_of_columnsFrom ((columnsFrom_eq_gather [] done).trans h)
  exact columnOf_eq_error_iff (map_eq_of_forall₂ (fun _ _ h => h.1) hall)
    (map_eq_of_forall₂ (fun _ _ h => h.2.1) hall)

theorem columnsFrom_eq_error_iff : columnsFrom [] ds = .error e ↔ FailsFirst Offends ds e := by
  rw [columnsFrom_eq_gather]
  exact gather_error_iff_failsFirst describes_columnOf

theorem exists_columnsFrom_iff :
    (∃ columns, columnsFrom [] ds = .ok columns) ↔ ∀ i e, ¬ FailsAt Offends ds i e := by
  rw [← exists_gather_iff describes_columnOf]
  simp only [columnsFrom_eq_gather]

theorem hasName_iff (h : columnsFrom [] ds = .ok columns) :
    (∃ i, columns.findIdx? (·.kind == .name) = some i) ↔ ∃ d ∈ ds, d.kind = .name := by
  have hkinds := map_eq_of_forall₂ (fun _ _ h => h.2.1) (forall₂_of_columnsFrom h)
  have hmem : .name ∈ columns.map (·.kind) ↔ .name ∈ ds.map (·.kind) := by rw [hkinds]
  rw [← Option.isSome_iff_exists, List.findIdx?_isSome]
  simpa using hmem

theorem ofDefinitions_of_columnsFrom (h : columnsFrom [] ds = .ok columns) :
    ofDefinitions ds =
      match columns.findIdx? (·.kind == .name) with
      | some i => .ok ⟨columns, i⟩
      | none => .error .missingName := by
  rw [ofDefinitions, h]
  rfl

theorem exists_ofDefinitions_iff :
    (∃ s, ofDefinitions ds = .ok s) ↔
      (∀ i e, ¬ FailsAt Offends ds i e) ∧ ∃ d ∈ ds, d.kind = .name := by
  rw [← exists_columnsFrom_iff]
  constructor
  · rintro ⟨s, h⟩
    have hcolumns := columnsFrom_of_definitions h
    refine ⟨⟨s.columns, hcolumns⟩, (hasName_iff hcolumns).1 ?_⟩
    rw [ofDefinitions_of_columnsFrom hcolumns] at h
    cases hname : s.columns.findIdx? (·.kind == .name) with
    | none => simp [hname] at h
    | some i => exact ⟨i, rfl⟩
  · rintro ⟨⟨columns, hcolumns⟩, hname⟩
    obtain ⟨i, hi⟩ := (hasName_iff hcolumns).2 hname
    exact ⟨⟨columns, i⟩, by rw [ofDefinitions_of_columnsFrom hcolumns, hi]⟩

theorem ofDefinitions_eq_error_iff :
    ofDefinitions ds = .error e ↔
      FailsFirst Offends ds e ∨
        (∀ i f, ¬ FailsAt Offends ds i f) ∧ (∀ d ∈ ds, d.kind ≠ .name) ∧ e = .missingName := by
  rw [← columnsFrom_eq_error_iff, ← exists_columnsFrom_iff]
  cases hcolumns : columnsFrom [] ds with
  | error f => simp [ofDefinitions, hcolumns, bind, Except.bind]
  | ok columns =>
      have hname := hasName_iff hcolumns
      rw [ofDefinitions_of_columnsFrom hcolumns]
      cases hfind : columns.findIdx? (·.kind == .name) with
      | some i =>
          obtain ⟨d, hd, hkind⟩ := hname.1 ⟨i, hfind⟩
          simp only [reduceCtorEq, false_or, false_iff, not_and]
          exact fun _ hnone => absurd hkind (hnone d hd)
      | none =>
          have hnone (d : ColumnDefinition) (hd : d ∈ ds) : d.kind ≠ .name := by
            intro hkind
            obtain ⟨i, hi⟩ := hname.2 ⟨d, hd, hkind⟩
            simp [hfind] at hi
          simpa [eq_comm (a := e)] using fun _ => hnone

theorem forall_mayFollow_iff :
    (∀ (i : Nat) (d : ColumnDefinition), ds[i]? = some d → d.MayFollow (ds.take i)) ↔
      (∀ d ∈ ds, d.HasOwnId) ∧ (ds.Pairwise fun a b => Text.sameAscii a.id b.id = false) ∧
        (ds.Pairwise fun a b => a.kind = b.kind → a.kind.isUnique = false) ∧
        ∀ d ∈ ds, ∀ t ∈ d.empty, ∃ v, Value.IsToldBy t d.kind v := by
  rw [pairwise_iff_take, pairwise_iff_take]
  constructor
  · intro h
    refine ⟨fun d hd => ?_, fun i d hd b hb => ?_, fun i d hd b hb hkind => ?_, fun d hd => ?_⟩
    · obtain ⟨i, hi⟩ := List.mem_iff_getElem?.1 hd
      exact (h i d hi).hasOwnId
    · rw [Text.sameAscii_comm, ← Bool.not_eq_true]
      exact fun hshared => (h i d hd).id_free ⟨b.id, List.mem_map_of_mem hb, hshared⟩
    · rw [hkind, ← Bool.not_eq_true]
      exact fun hunique => (h i d hd).kind_free ⟨hunique, List.mem_map.2 ⟨b, hb, hkind⟩⟩
    · obtain ⟨i, hi⟩ := List.mem_iff_getElem?.1 hd
      exact (h i d hi).told
  · rintro ⟨hids, hdistinct, hkinds, htold⟩ i d hd
    have hmem := List.mem_of_getElem? hd
    refine ⟨hids d hmem, ?_, ?_, htold d hmem⟩
    · rintro ⟨id, hid, hshared⟩
      obtain ⟨b, hb, rfl⟩ := List.mem_map.1 hid
      rw [Text.sameAscii_comm, hdistinct i d hd b hb] at hshared
      cases hshared
    · rintro ⟨hunique, hkind⟩
      obtain ⟨b, hb, hkind⟩ := List.mem_map.1 hkind
      rw [← hkind, hkinds i d hd b hb hkind] at hunique
      cases hunique

theorem forall_not_failsAt_iff :
    (∀ i e, ¬ FailsAt Offends ds i e) ↔
      ∀ (i : Nat) (d : ColumnDefinition), ds[i]? = some d → d.MayFollow (ds.take i) := by
  constructor
  · intro h i d hd
    exact ColumnDefinition.forall_not_offends_iff.1 fun e he => h i e ⟨d, hd, he⟩
  · rintro h i e ⟨d, hd, he⟩
    exact (h i d hd).not_offends he

theorem areValid_iff :
    AreValid ds ↔ (∀ i e, ¬ FailsAt Offends ds i e) ∧ ∃ d ∈ ds, d.kind = .name := by
  rw [forall_not_failsAt_iff, forall_mayFollow_iff]
  constructor
  · intro h
    obtain ⟨i, hname, -⟩ := h.oneName
    obtain ⟨d, hd, hkind⟩ := Option.map_eq_some_iff.1 hname
    exact ⟨⟨h.ids, h.distinct, h.kinds, h.empties⟩, d, List.mem_of_getElem? hd, hkind⟩
  · rintro ⟨⟨hids, hdistinct, hkinds, htold⟩, d, hd, hname⟩
    refine ⟨hids, hdistinct, ?_, hkinds, htold⟩
    obtain ⟨i, hi⟩ := List.mem_iff_getElem?.1 hd
    refine ⟨i, by simp [hi, hname], fun j hj => ?_⟩
    obtain ⟨b, hb, hkind⟩ := Option.map_eq_some_iff.1 hj
    -- A second name would be of a kind that may be declared once.
    exact eq_of_pairwise hkinds hb hi (fun h => by simp [hname, hkind, ColumnKind.isUnique] at h)
      (fun h => by simp [hname, hkind, ColumnKind.isUnique] at h)

theorem isMadeOf_of_definitions (h : ofDefinitions ds = .ok s) : s.IsMadeOf ds := by
  have hkinded := wellKinded_of_definitions h
  obtain ⟨c, hc, hname⟩ := get?_nameIndex h
  refine ⟨?_, fun i => ⟨fun hi => ?_, ?_⟩, fun i c id hi hid => ?_, hkinded.fits⟩
  · refine (forall₂_of_columnsFrom (columnsFrom_of_definitions h)).imp fun d c hmade => ?_
    exact ⟨hmade.1, hmade.2.1, ColumnDefinition.emptyValue?_eq_some_iff.1 hmade.2.2⟩
  · by_contra hother
    exact kind_ne_name h hi hother rfl
  · rintro rfl
    rw [hc, Option.map_some, hname]
  · exact findIdx?_sameAscii (wellNamed_of_definitions h).distinct hi hid

/-- Definitions make a set of columns exactly if they are valid together. Else the first that
offends is told, and that there is no name only if none offends. -/
theorem ofDefinitions_valid (ds : List ColumnDefinition) :
    ((∃ s, ofDefinitions ds = .ok s) ↔ AreValid ds) ∧
      (∀ s, ofDefinitions ds = .ok s → s.IsMadeOf ds) ∧
      ∀ e, ofDefinitions ds = .error e ↔
        FailsFirst Offends ds e ∨
          (∀ i f, ¬ FailsAt Offends ds i f) ∧ (∀ d ∈ ds, d.kind ≠ .name) ∧ e = .missingName :=
  ⟨exists_ofDefinitions_iff.trans areValid_iff.symm, fun _ => isMadeOf_of_definitions,
    fun _ => ofDefinitions_eq_error_iff⟩

end ColumnSet

end ListingRules
