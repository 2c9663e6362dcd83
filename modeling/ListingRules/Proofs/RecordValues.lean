import ListingRules.Listing.Record
import ListingRules.Proofs.CheckedRules
import ListingRules.Proofs.ColumnChecks

namespace ListingRules

namespace ColumnSet

structure WellKinded (columns : List Column) : Prop where
  fits : ∀ c ∈ columns, c.empty.Fits c.kind
  distinct : columns.Pairwise fun b c => c.kind.isUnique = true → b.kind ≠ c.kind

theorem kind_of_columnOf {before : List Column} {d : ColumnDefinition} {c : Column}
    (h : columnOf before d = .ok c) :
    c.empty.Fits c.kind ∧ (c.kind.isUnique = true → ∀ b ∈ before, b.kind ≠ c.kind) := by
  obtain ⟨-, -, hfree, -, hkind, hempty⟩ := columnOf_eq_ok_iff.1 h
  rw [hkind]
  refine ⟨ColumnDefinition.fits_emptyValue? hempty, fun hunique b hb hshared => hfree ⟨hunique, ?_⟩⟩
  exact List.mem_map.2 ⟨b, hb, hshared⟩

theorem WellKinded.append {before : List Column} {d : ColumnDefinition} {c : Column}
    (hbefore : WellKinded before) (h : columnOf before d = .ok c) : WellKinded (before ++ [c]) := by
  obtain ⟨hfits, hunique⟩ := kind_of_columnOf h
  refine ⟨?_, ?_⟩
  · simpa using fun a ha => ha.elim (hbefore.fits a) fun h => h ▸ hfits
  · exact List.pairwise_append.2 ⟨hbefore.distinct, List.pairwise_singleton ..,
      by simpa using fun b hb hu => hunique hu b hb⟩

theorem WellKinded.columnsFrom {before columns : List Column} {ds : List ColumnDefinition}
    (hbefore : WellKinded before) (h : columnsFrom before ds = .ok columns) :
    WellKinded columns := by
  induction ds generalizing before with
  | nil =>
      obtain rfl := Except.ok.inj h
      exact hbefore
  | cons d ds ih =>
      obtain ⟨c, hc, h⟩ := RuleSet.bind_eq_ok.1 h
      exact ih (hbefore.append hc) h

theorem wellKinded_of_definitions {ds : List ColumnDefinition} {s : ColumnSet}
    (h : ofDefinitions ds = .ok s) : WellKinded s.columns :=
  WellKinded.columnsFrom ⟨by simp, .nil⟩ (columnsFrom_of_definitions h)

theorem WellKinded.eq_of_kind {columns : List Column} (h : WellKinded columns) {i j : Nat}
    {b c : Column} (hi : columns[i]? = some b) (hj : columns[j]? = some c)
    (hkind : b.kind = c.kind) (hunique : c.kind.isUnique = true) : i = j :=
  eq_of_pairwise h.distinct hi hj (fun hne => hne hunique hkind)
    (fun hne => hne (hkind ▸ hunique) hkind.symm)

theorem kind_ne_name {ds : List ColumnDefinition} {s : ColumnSet} (h : ofDefinitions ds = .ok s)
    {i : Nat} {k : ColumnKind} (hi : (s.get? i).map (·.kind) = some k) (hother : i ≠ s.nameIndex) :
    k ≠ .name := by
  obtain ⟨c, hc, hname⟩ := get?_nameIndex h
  obtain ⟨column, hcolumn, rfl⟩ := Option.map_eq_some_iff.1 hi
  intro hkind
  exact hother ((wellKinded_of_definitions h).eq_of_kind hcolumn hc (hkind.trans hname.symm)
    (by rw [hname]; rfl))

end ColumnSet

namespace Listing

theorem valueOfKind?_eq {s : ColumnSet} (hs : ColumnSet.WellKinded s.columns) {i : Nat}
    {column : Column} (hi : s.get? i = some column) (hunique : column.kind.isUnique = true)
    {values : List Value} {v : Value} (hv : values[i]? = some v) :
    valueOfKind? s column.kind values = some v := by
  have hzip : (s.columns.zip values)[i]? = some (column, v) :=
    List.getElem?_zip_eq_some.2 ⟨hi, hv⟩
  obtain ⟨hlt, hat⟩ := List.getElem?_eq_some_iff.1 hzip
  have hfind : (s.columns.zip values).find? (·.1.kind == column.kind) = some (column, v) := by
    refine List.find?_eq_some_iff_getElem.2 ⟨by simp, i, hlt, hat, fun j hj => ?_⟩
    have hne := List.pairwise_iff_getElem.1 hs.distinct j i (by simp at hlt; omega)
      (by simp at hlt; omega) hj
    obtain ⟨_, rfl⟩ := List.getElem?_eq_some_iff.1 hi
    simpa using hne hunique
  simp [valueOfKind?, hfind]

theorem valueOfKind?_eq_none {s : ColumnSet} {k : ColumnKind} (h : ∀ c ∈ s.columns, c.kind ≠ k)
    (values : List Value) : valueOfKind? s k values = none := by
  simp only [valueOfKind?, Option.map_eq_none_iff, List.find?_eq_none, beq_iff_eq]
  exact fun p hp => h p.1 (List.of_mem_zip hp).1

namespace Row

variable {s : ColumnSet} {r : Row}

def shownName (s : ColumnSet) (r : Row) : Text :=
  (r.text? s.nameIndex).getD []

def shownExtension (s : ColumnSet) (r : Row) : Option Text :=
  if r.isDir then none else extensionOf? (r.shownName s)

theorem value_toRecord {i : Nat} {column : Column} {cell : Cell} (hi : s.get? i = some column)
    (hcell : r.cells[i]? = some cell) (today : Date) :
    (r.toRecord s today).values[i]? =
      some (shownValue today (r.shownName s) (r.shownExtension s) column cell) := by
  have hcolumn : s.columns[i]? = some column := hi
  simp [toRecord, FileRecord.ofValues, shownName, shownExtension, List.zip, List.getElem?_zipWith,
    hcell, hcolumn]

end Row

end Listing

end ListingRules
