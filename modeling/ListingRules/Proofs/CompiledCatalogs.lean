import ListingRules.Catalog.Compile
import ListingRules.Proofs.Gathering

namespace ListingRules

theorem mapError_bind_eq_error {α β γ ε : Type} {x : Except α β} {f : α → ε}
    {g : β → Except ε γ} {e : ε} :
    (x.mapError f >>= g) = .error e ↔
      (∃ a, x = .error a ∧ f a = e) ∨ ∃ b, x = .ok b ∧ g b = .error e := by
  cases x <;> simp [Except.mapError, bind, Except.bind]

variable [PatternEngine]

namespace ServerTypeDefinition

inductive Faults (d : ServerTypeDefinition) : DefinitionFault → Prop
  | columns {e : ColumnError} : ColumnSet.ofDefinitions d.columns = .error e →
      Faults d (.columns e)
  | condition {s : ColumnSet} {e : SourceError} : ColumnSet.ofDefinitions d.columns = .ok s →
      Condition.compile d.condition = .error e → Faults d (.condition e)
  | rules {s : ColumnSet} {c : Condition} {e : SourceError} :
      ColumnSet.ofDefinitions d.columns = .ok s → Condition.compile d.condition = .ok c →
      RuleSet.compile d.rules s = .error e → Faults d (.rules e)

def SharesName (names : List Text) (d : ServerTypeDefinition) : Prop :=
  ∃ name ∈ names, Text.sameAscii name d.name = true

inductive Fails (before : List ServerTypeDefinition) (d : ServerTypeDefinition) :
    CatalogError → Prop
  | duplicate : d.SharesName (before.map (·.name)) → Fails before d (.duplicate d.name)
  | invalid {fault : DefinitionFault} : ¬ d.SharesName (before.map (·.name)) → d.Faults fault →
      Fails before d (.invalid d.name fault)

variable {d : ServerTypeDefinition} {fault : DefinitionFault} {t : ServerType}

theorem compile_eq_error_iff : d.compile = .error fault ↔ d.Faults fault := by
  simp only [compile, mapError_bind_eq_error]
  constructor
  · rintro (⟨e, hcolumns, rfl⟩ | ⟨s, hcolumns, ⟨e, hcondition, rfl⟩ | ⟨c, hcondition, h⟩⟩)
    · exact .columns hcolumns
    · exact .condition hcolumns hcondition
    · obtain ⟨e, hrules, rfl⟩ | ⟨r, -, h⟩ := h
      · exact .rules hcolumns hcondition hrules
      · cases h
  · intro h
    cases h with
    | columns hcolumns => exact .inl ⟨_, hcolumns, rfl⟩
    | condition hcolumns hcondition => exact .inr ⟨_, hcolumns, .inl ⟨_, hcondition, rfl⟩⟩
    | rules hcolumns hcondition hrules =>
        exact .inr ⟨_, hcolumns, .inr ⟨_, hcondition, .inl ⟨_, hrules, rfl⟩⟩⟩

theorem exists_compile_iff : (∃ t, d.compile = .ok t) ↔ ∀ fault, ¬ d.Faults fault := by
  cases h : d.compile with
  | ok t => simp [← compile_eq_error_iff, h]
  | error fault =>
      have hfault := compile_eq_error_iff.1 h
      simpa using ⟨fault, hfault⟩

end ServerTypeDefinition

open ServerTypeDefinition (Fails)

namespace Catalog

structure IsMadeOf (types : Catalog) (ds : List ServerTypeDefinition) : Prop where
  inOrder : List.Forall₂ (fun d t => d.compile = .ok t) ds types
  found : ∀ (i : Nat) (d : ServerTypeDefinition) name, ds[i]? = some d →
    Text.sameAscii d.name name = true → ∃ t, types[i]? = some t ∧ types.get? name = some t

variable {before types : Catalog} {ds done : List ServerTypeDefinition} {d : ServerTypeDefinition}
  {e : CatalogError}

def typeOf (before : Catalog) (d : ServerTypeDefinition) : Except CatalogError ServerType :=
  if before.any (Text.sameAscii ·.name d.name) then .error (.duplicate d.name)
  else d.compile.mapError (.invalid d.name)

theorem compileFrom_eq_gather (before : Catalog) (ds : List ServerTypeDefinition) :
    compileFrom before ds = gather typeOf before ds := by
  induction ds generalizing before with
  | nil => rfl
  | cons d ds ih =>
      rw [compileFrom]
      split
      · rename_i hshared
        exact (gather_cons_of_error (by rw [typeOf, if_pos hshared])).symm
      · rename_i hfree
        split
        · rename_i t ht
          rw [ih]
          exact (gather_cons_of_ok (by rw [typeOf, if_neg hfree, ht]; rfl)).symm
        · rename_i fault hfault
          exact (gather_cons_of_error (by rw [typeOf, if_neg hfree, hfault]; rfl)).symm

theorem compile_of_typeOf {t : ServerType} (h : typeOf before d = .ok t) : d.compile = .ok t := by
  rw [typeOf] at h
  split at h
  · cases h
  · cases hd : d.compile with
    | error fault => simp [hd, Except.mapError] at h
    | ok u => simpa [hd, Except.mapError] using h

theorem forall₂_compile (h : gather typeOf [] ds = .ok types) :
    List.Forall₂ (fun d t => d.compile = .ok t) ds types := by
  obtain ⟨new, rfl, hall⟩ := forall₂_gather h fun _ _ _ => compile_of_typeOf
  exact hall

theorem typeOf_eq_error_iff (hnames : before.map (·.name) = done.map (·.name)) :
    typeOf before d = .error e ↔ Fails done d e := by
  have hshares : before.any (Text.sameAscii ·.name d.name) = true ↔
      d.SharesName (done.map (·.name)) := by
    rw [← hnames]
    simp [ServerTypeDefinition.SharesName]
  rw [typeOf]
  split
  · rename_i hshared
    constructor
    · intro h
      obtain rfl := Except.error.inj h
      exact .duplicate (hshares.1 hshared)
    · intro h
      cases h with
      | duplicate => rfl
      | invalid hfree => exact absurd (hshares.1 hshared) hfree
  · rename_i hfree
    have hfree := mt hshares.2 hfree
    constructor
    · intro h
      cases hd : d.compile with
      | ok t => simp [hd, Except.mapError] at h
      | error fault =>
          rw [hd] at h
          obtain rfl := Except.error.inj h
          exact .invalid hfree (ServerTypeDefinition.compile_eq_error_iff.1 hd)
    · intro h
      cases h with
      | duplicate hshared => exact absurd hshared hfree
      | invalid _ hfault =>
          rw [ServerTypeDefinition.compile_eq_error_iff.2 hfault]
          rfl

theorem describes_typeOf : Describes Fails typeOf := by
  intro done made d e h
  exact typeOf_eq_error_iff
    (map_eq_of_forall₂ (fun _ _ => ServerTypeDefinition.name_compile) (forall₂_compile h))

theorem forall_not_failsAt_iff :
    (∀ i e, ¬ FailsAt Fails ds i e) ↔
      (ds.Pairwise fun a b => Text.sameAscii a.name b.name = false) ∧
        ∀ d ∈ ds, ∃ t, d.compile = .ok t := by
  rw [pairwise_iff_take]
  constructor
  · intro h
    have hfree (i : Nat) (d : ServerTypeDefinition) (hd : ds[i]? = some d) :
        ¬ d.SharesName ((ds.take i).map (·.name)) :=
      fun hshared => h i _ ⟨d, hd, .duplicate hshared⟩
    refine ⟨fun i d hd b hb => ?_, fun d hd => ?_⟩
    · rw [← Bool.not_eq_true]
      exact fun hshared => hfree i d hd ⟨b.name, List.mem_map_of_mem hb, hshared⟩
    · obtain ⟨i, hi⟩ := List.mem_iff_getElem?.1 hd
      exact ServerTypeDefinition.exists_compile_iff.2 fun fault hfault =>
        h i _ ⟨d, hi, .invalid (hfree i d hi) hfault⟩
  · rintro ⟨hnames, hcompile⟩ i e ⟨d, hd, hfails⟩
    cases hfails with
    | duplicate hshared =>
        obtain ⟨name, hname, hshared⟩ := hshared
        obtain ⟨b, hb, rfl⟩ := List.mem_map.1 hname
        rw [hnames i d hd b hb] at hshared
        cases hshared
    | invalid _ hfault =>
        have hcompiles := hcompile d (List.mem_of_getElem? hd)
        exact ServerTypeDefinition.exists_compile_iff.1 hcompiles _ hfault

theorem exists_compile_iff :
    (∃ types, compile ds = .ok types) ↔
      (ds.Pairwise fun a b => Text.sameAscii a.name b.name = false) ∧
        ∀ d ∈ ds, ∃ t, d.compile = .ok t := by
  rw [← forall_not_failsAt_iff, ← exists_gather_iff describes_typeOf]
  simp only [compile, compileFrom_eq_gather]

theorem isMadeOf_of_compile (h : compile ds = .ok types) : IsMadeOf types ds := by
  have hall := forall₂_compile ((compileFrom_eq_gather [] ds).symm.trans h)
  have hnames : types.Pairwise fun a b => Text.sameAscii a.name b.name = false := by
    have hmap : (types.map (·.name)).Pairwise fun a b => Text.sameAscii a b = false := by
      rw [names_compile h]
      exact List.pairwise_map.2 (exists_compile_iff.1 ⟨types, h⟩).1
    exact List.pairwise_map.1 hmap
  refine ⟨hall, fun i d name hd hname => ?_⟩
  obtain ⟨hi, rfl⟩ := List.getElem?_eq_some_iff.1 hd
  have hi' : i < types.length := hall.length_eq ▸ hi
  have hcompile : ds[i].compile = .ok types[i] := hall.get hi hi'
  have hfind : types.find? name = some i := by
    refine findIdx?_sameAscii hnames (List.getElem?_eq_getElem hi') ?_
    rw [ServerTypeDefinition.name_compile hcompile]
    exact hname
  refine ⟨_, List.getElem?_eq_getElem hi', ?_⟩
  rw [get?, hfind]
  exact List.getElem?_eq_getElem hi'

/-- Definitions compile to a catalog exactly if their names differ and each compiles alone. Else
the first that repeats a name or does not compile is told, and of both that the name is taken. -/
theorem compile_definitions (ds : List ServerTypeDefinition) :
    ((∃ types, compile ds = .ok types) ↔
        (ds.Pairwise fun a b => Text.sameAscii a.name b.name = false) ∧
          ∀ d ∈ ds, ∃ t, d.compile = .ok t) ∧
      (∀ types, compile ds = .ok types → IsMadeOf types ds) ∧
      ∀ e, compile ds = .error e ↔ FailsFirst Fails ds e := by
  refine ⟨exists_compile_iff, fun types => isMadeOf_of_compile, fun e => ?_⟩
  rw [compile, compileFrom_eq_gather]
  exact gather_error_iff_failsFirst describes_typeOf

end Catalog

end ListingRules
