import Mathlib.Data.List.Perm.Basic
import ListingRules.Catalog.Detect

namespace ListingRules.Catalog

open Listing (Context FileRecord)

section Order

variable [PatternEngine] (types : Catalog) (lastUsed : Option Text) (g : Greeting)

def dueRound (i : Nat) : Nat :=
  if lastUsed.bind types.find? = some i then 0
  else if types.holdsAt g i then 1
  else 2

def Precedes (i j : Nat) : Prop :=
  types.dueRound lastUsed g i < types.dueRound lastUsed g j ∨
    types.dueRound lastUsed g i = types.dueRound lastUsed g j ∧ i < j

structure IsOrder (order : List Nat) : Prop where
  perm : order.Perm (List.range types.length)
  sorted : order.Pairwise (types.Precedes lastUsed g)

def order : List Nat :=
  let last := (lastUsed.bind types.find?).toList
  let others := (List.range types.length).filter (!last.contains ·)
  last ++ others.filter (types.holdsAt g) ++ others.filter (!types.holdsAt g ·)

end Order

section Rounds

variable [PatternEngine] {types : Catalog} {lastUsed : Option Text} {g : Greeting}

theorem find?_eq_some_iff {name : Text} {i : Nat} :
    types.find? name = some i ↔
      (∃ t, types[i]? = some t ∧ Text.sameAscii t.name name = true) ∧
        ∀ j < i, ∀ t, types[j]? = some t → Text.sameAscii t.name name = false := by
  rw [find?, List.findIdx?_eq_some_iff_getElem]
  constructor
  · rintro ⟨hi, hname, hbefore⟩
    refine ⟨⟨_, List.getElem?_eq_getElem hi, hname⟩, fun j hj t ht => ?_⟩
    obtain ⟨hjlt, rfl⟩ := List.getElem?_eq_some_iff.1 ht
    simpa using hbefore j hj
  · rintro ⟨⟨t, ht, hname⟩, hbefore⟩
    obtain ⟨hi, rfl⟩ := List.getElem?_eq_some_iff.1 ht
    refine ⟨hi, hname, fun j hj => ?_⟩
    simpa using hbefore j hj _ (List.getElem?_eq_getElem (Nat.lt_trans hj hi))

theorem precedes_asymm {i j : Nat} (h : types.Precedes lastUsed g i j) :
    ¬ types.Precedes lastUsed g j i := by
  simp only [Precedes] at h ⊢
  omega

theorem IsOrder.unique {l m : List Nat} (hl : types.IsOrder lastUsed g l)
    (hm : types.IsOrder lastUsed g m) : l = m :=
  (hl.perm.trans hm.perm.symm).eq_of_pairwise
    (fun _ _ _ _ hij hji => absurd hji (precedes_asymm hij)) hl.sorted hm.sorted

theorem order_perm (types : Catalog) (lastUsed : Option Text) (g : Greeting) :
    (types.order lastUsed g).Perm (List.range types.length) := by
  have hsplit (l : List Nat) (p : Nat → Bool) :
      (l.filter p ++ l.filter (!p ·)).Perm l := List.filter_append_perm p l
  simp only [order, List.append_assoc]
  refine (List.Perm.append_left _ (hsplit _ _)).trans ?_
  cases hl : lastUsed.bind types.find? with
  | none => simp [List.filter_eq_self.2]
  | some i =>
      have hi : i < types.length := by
        obtain ⟨name, _, hname⟩ := Option.bind_eq_some_iff.1 hl
        exact find?_lt hname
      have hmem : i ∈ List.range types.length := List.mem_range.2 hi
      have herase : (List.range types.length).filter (fun j => !([i] : List Nat).contains j) =
          (List.range types.length).erase i := by
        rw [List.nodup_range.erase_eq_filter]
        refine List.filter_congr fun j _ => ?_
        rw [Bool.eq_iff_iff]
        simp
      simp only [Option.toList_some, herase, List.singleton_append]
      exact (List.perm_cons_erase hmem).symm

theorem sorted_of_dueRound {l : List Nat} {n : Nat} (hlt : l.Pairwise (· < ·))
    (hround : ∀ i ∈ l, types.dueRound lastUsed g i = n) :
    l.Pairwise (types.Precedes lastUsed g) :=
  hlt.imp_of_mem fun hi hj hij => .inr ⟨(hround _ hi).trans (hround _ hj).symm, hij⟩

def others (types : Catalog) (lastUsed : Option Text) : List Nat :=
  (List.range types.length).filter (!(lastUsed.bind types.find?).toList.contains ·)

theorem order_eq (types : Catalog) (lastUsed : Option Text) (g : Greeting) :
    types.order lastUsed g = (lastUsed.bind types.find?).toList ++
      (types.others lastUsed).filter (types.holdsAt g) ++
        (types.others lastUsed).filter (!types.holdsAt g ·) := rfl

theorem dueRound_of_mem_others {i : Nat} (hi : i ∈ types.others lastUsed) :
    types.dueRound lastUsed g i = if types.holdsAt g i then 1 else 2 := by
  have hne : lastUsed.bind types.find? ≠ some i := by
    intro heq
    simp [others, heq] at hi
  simp only [dueRound, hne, ↓reduceIte]

theorem isOrder_order (types : Catalog) (lastUsed : Option Text) (g : Greeting) :
    types.IsOrder lastUsed g (types.order lastUsed g) := by
  refine ⟨order_perm types lastUsed g, ?_⟩
  have hfirst : ∀ i ∈ (lastUsed.bind types.find?).toList, types.dueRound lastUsed g i = 0 := by
    intro i hi
    simp [dueRound, Option.mem_toList.1 hi]
  have hsecond : ∀ i ∈ (types.others lastUsed).filter (types.holdsAt g),
      types.dueRound lastUsed g i = 1 := by
    intro i hi
    obtain ⟨hi, hholds⟩ := List.mem_filter.1 hi
    simp [dueRound_of_mem_others hi, hholds]
  have hthird : ∀ i ∈ (types.others lastUsed).filter (!types.holdsAt g ·),
      types.dueRound lastUsed g i = 2 := by
    intro i hi
    obtain ⟨hi, hholds⟩ := List.mem_filter.1 hi
    simp only [Bool.not_eq_true'] at hholds
    simp [dueRound_of_mem_others hi, hholds]
  have hothers : (types.others lastUsed).Pairwise (· < ·) := List.pairwise_lt_range.filter _
  simp only [order_eq, List.pairwise_append, List.mem_append]
  refine ⟨⟨?_, sorted_of_dueRound (hothers.filter _) hsecond, ?_⟩,
    sorted_of_dueRound (hothers.filter _) hthird, ?_⟩
  · cases lastUsed.bind types.find? with
    | none => exact .nil
    | some i => exact List.pairwise_singleton _ i
  · intro i hi j hj
    exact .inl (by rw [hfirst i hi, hsecond j hj]; omega)
  · rintro i (hi | hi) j hj
    · exact .inl (by rw [hfirst i hi, hthird j hj]; omega)
    · exact .inl (by rw [hsecond i hi, hthird j hj]; omega)

end Rounds

namespace Search

variable {attempt : Nat → Option Detection} {suits : Nat → Bool} {s : Search}

def follow (attempt : Nat → Option Detection) (s : Search) : List Nat → Search
  | [] => s
  | i :: more => if s.found.isSome then s else follow attempt ⟨s.tried ++ [i], attempt i⟩ more

theorem follow_of_found (h : s.found.isSome = true) (l : List Nat) : follow attempt s l = s := by
  cases l with
  | nil => rfl
  | cons i more => simp [follow, h]

theorem follow_append (l m : List Nat) :
    follow attempt s (l ++ m) = follow attempt (follow attempt s l) m := by
  induction l generalizing s with
  | nil => rfl
  | cons i l ih =>
      by_cases h : s.found.isSome = true
      · simp only [follow_of_found h]
      · simp only [List.cons_append, follow, h, Bool.false_eq_true, ↓reduceIte, ih]

theorem round_eq_follow {l : List Nat} (hl : l.Nodup) :
    s.round attempt suits l =
      follow attempt s (l.filter fun i => !s.tried.contains i && suits i) := by
  induction l generalizing s with
  | nil => rfl
  | cons i l ih =>
      obtain ⟨hi, hl⟩ := List.nodup_cons.1 hl
      have hcons : s.round attempt suits (i :: l) =
          (s.visit attempt suits i).round attempt suits l := rfl
      rw [hcons, ih hl]
      by_cases hfound : s.found.isSome = true
      · have hvisit : s.visit attempt suits i = s := by simp [visit, hfound]
        rw [hvisit, follow_of_found hfound, follow_of_found hfound]
      · simp only [Bool.not_eq_true] at hfound
        have hdue (j : Nat) : (!s.tried.contains j && suits j) =
            !(s.tried.contains j || !suits j) := by simp
        cases hskip : s.tried.contains i || !suits i with
        | true =>
            have hvisit : s.visit attempt suits i = s := by
              rw [visit, Bool.or_assoc, hskip, Bool.or_true, if_pos rfl]
            rw [hvisit, List.filter_cons_of_neg (by rw [hdue, hskip]; decide)]
        | false =>
            have hvisit : s.visit attempt suits i = ⟨s.tried ++ [i], attempt i⟩ := by
              rw [visit, Bool.or_assoc, hskip, hfound, Bool.or_false, if_neg Bool.false_ne_true]
            -- marking `i` takes no other position out of the round
            have hrest : l.filter (fun j => !(s.tried ++ [i]).contains j && suits j) =
                l.filter fun j => !s.tried.contains j && suits j := by
              refine List.filter_congr fun j hj => ?_
              have hne : j ≠ i := fun h => hi (h ▸ hj)
              simp [hne]
            rw [hvisit, List.filter_cons_of_pos (by rw [hdue, hskip]; decide), hrest, follow,
              hfound, if_neg Bool.false_ne_true]

inductive Follows (attempt : Nat → Option Detection) (s : Search) (l : List Nat) : Search → Prop
  | found {before after : List Nat} {i : Nat} {d : Detection} :
      l = before ++ i :: after → (∀ j ∈ before, attempt j = none) → attempt i = some d →
      Follows attempt s l ⟨s.tried ++ (before ++ [i]), some d⟩
  | missed : (∀ j ∈ l, attempt j = none) → Follows attempt s l ⟨s.tried ++ l, none⟩

theorem follows_follow (h : s.found = none) (l : List Nat) :
    Follows attempt s l (follow attempt s l) := by
  induction l generalizing s with
  | nil =>
      obtain ⟨tried, found⟩ := s
      obtain rfl : found = none := h
      have hmissed : Follows attempt ⟨tried, none⟩ [] ⟨tried ++ [], none⟩ := .missed (by simp)
      simpa [follow] using hmissed
  | cons i l ih =>
      rw [follow, h, Option.isSome_none, if_neg Bool.false_ne_true]
      cases hi : attempt i with
      | some d =>
          rw [follow_of_found rfl]
          have hfound : Follows attempt s (i :: l) ⟨s.tried ++ ([] ++ [i]), some d⟩ :=
            .found rfl (by simp) hi
          exact hfound
      | none =>
          have hmore := ih (s := ⟨s.tried ++ [i], none⟩) rfl
          generalize follow attempt ⟨s.tried ++ [i], none⟩ l = r at hmore ⊢
          cases hmore with
          | @found before after j d hl hbefore hd =>
              have hfound : Follows attempt s (i :: l)
                  ⟨s.tried ++ (i :: before ++ [j]), some d⟩ :=
                .found (congrArg (i :: ·) hl) (by simpa [hi] using hbefore) hd
              simpa using hfound
          | missed hmissed =>
              have hall : Follows attempt s (i :: l) ⟨s.tried ++ i :: l, none⟩ :=
                .missed (by simpa [hi] using hmissed)
              simpa using hall

variable {l : List Nat} {r : Search}

theorem round_follow {m : List Nat} (hs : s.found = none) (hm : m.Nodup) :
    (follow attempt s l).round attempt suits m =
      follow attempt (follow attempt s l)
        (m.filter fun i => !(s.tried ++ l).contains i && suits i) := by
  rw [round_eq_follow hm]
  have hfollows : Follows attempt s l (follow attempt s l) := follows_follow hs l
  generalize follow attempt s l = r at hfollows ⊢
  cases hfollows with
  | found _ _ _ => rw [follow_of_found rfl, follow_of_found rfl]
  | missed _ => rfl

theorem Follows.exists_rest (h : Follows attempt s l r) :
    ∃ rest, s.tried ++ l = r.tried ++ rest ∧ (r.found = none → rest = []) := by
  cases h with
  | @found before after i d hl hbefore hd => exact ⟨after, by simp [hl], by simp⟩
  | missed hmissed => exact ⟨[], by simp, fun _ => rfl⟩

theorem Follows.found_eq_some_iff (h : Follows attempt {} l r) {d : Detection} :
    r.found = some d ↔ ∃ before i, r.tried = before ++ [i] ∧ attempt i = some d ∧
      ∀ j ∈ before, attempt j = none := by
  cases h with
  | @found before after i found hl hbefore hfound =>
      constructor
      · intro hd
        obtain rfl := Option.some.inj hd
        exact ⟨before, i, rfl, hfound, hbefore⟩
      · rintro ⟨before', i', htried, hd, -⟩
        have htried : before ++ [i] = before' ++ [i'] := htried
        obtain rfl : i = i' := List.singleton_inj.1 (List.append_inj' htried rfl).2
        exact hfound.symm.trans hd
  | missed hmissed =>
      refine ⟨by simp, ?_⟩
      rintro ⟨before, i, htried, hd, -⟩
      have hl : l = before ++ [i] := htried
      simp [hmissed i (by simp [hl])] at hd

theorem Follows.found_eq_none_iff (h : Follows attempt s l r) :
    r.found = none ↔ ∀ i ∈ l, attempt i = none := by
  cases h with
  | @found before after i d hl hbefore hd =>
      refine ⟨by simp, fun hnone => ?_⟩
      simp [hnone i (by simp [hl])] at hd
  | missed hmissed => exact ⟨fun _ => hmissed, fun _ => rfl⟩

end Search

variable [PatternEngine] {types : Catalog} {lastUsed : Option Text} {g : Greeting}
  {listing : Text} {context : Context}

def attemptAt? (types : Catalog) (listing : Text) (context : Context) (i : Nat) :
    Option Detection :=
  types[i]?.bind (attempt? listing context)

theorem attempt?_eq_some_iff {t : ServerType} {d : Detection} :
    attempt? listing context t = some d ↔
      d.serverType = t.name ∧ Listing.parse t.rules listing context = .ok d.records := by
  obtain ⟨name, records⟩ := d
  simp only [attempt?]
  cases Listing.parse t.rules listing context with
  | ok read => simp [eq_comm]
  | error u => simp

theorem attempt?_eq_none_iff {t : ServerType} :
    attempt? listing context t = none ↔
      ∃ u, Listing.parse t.rules listing context = .error u := by
  simp only [attempt?]
  cases Listing.parse t.rules listing context <;> simp

theorem search_eq_follow (types : Catalog) (lastUsed : Option Text) (g : Greeting) (listing : Text)
    (context : Context) :
    types.search lastUsed g listing context =
      Search.follow (types.attemptAt? listing context) {} (types.order lastUsed g) := by
  let attempt := types.attemptAt? listing context
  let last := (lastUsed.bind types.find?).toList
  have hlast : last.Nodup := by
    simp only [last]
    cases lastUsed.bind types.find? <;> simp
  have hfirst : Search.round attempt (fun _ => true) {} last = Search.follow attempt {} last := by
    rw [Search.round_eq_follow hlast]
    simp
  have hsecond : (List.range types.length).filter
      (fun i => !(({} : Search).tried ++ last).contains i && types.holdsAt g i) =
        (types.others lastUsed).filter (types.holdsAt g) := by
    simp [others, last, List.filter_filter, Bool.and_comm]
  have hthird : (List.range types.length).filter
      (fun i => !(({} : Search).tried ++
        (last ++ (types.others lastUsed).filter (types.holdsAt g))).contains i && true) =
          (types.others lastUsed).filter (!types.holdsAt g ·) := by
    simp only [others, last, List.filter_filter, Bool.and_true]
    refine List.filter_congr fun i hi => ?_
    rw [Bool.eq_iff_iff]
    simp [hi]
    tauto
  have hunfold : types.search lastUsed g listing context =
      ((Search.round attempt (fun _ => true) {} last).round attempt (types.holdsAt g)
        (List.range types.length)).round attempt (fun _ => true) (List.range types.length) := rfl
  rw [hunfold, hfirst, Search.round_follow rfl List.nodup_range, hsecond, ← Search.follow_append,
    Search.round_follow rfl List.nodup_range, hthird, ← Search.follow_append]
  rfl

theorem attemptAt?_eq_some_iff {i : Nat} {d : Detection} :
    types.attemptAt? listing context i = some d ↔ ∃ t, types[i]? = some t ∧
      d.serverType = t.name ∧ Listing.parse t.rules listing context = .ok d.records := by
  simp only [attemptAt?, Option.bind_eq_some_iff, attempt?_eq_some_iff]

theorem attemptAt?_eq_none_iff {i : Nat} (hi : i ∈ types.order lastUsed g) :
    types.attemptAt? listing context i = none ↔
      ∃ t e, types[i]? = some t ∧ Listing.parse t.rules listing context = .error e := by
  have hlt := List.mem_range.1 ((order_perm types lastUsed g).mem_iff.1 hi)
  have ht : types[i]? = some types[i] := List.getElem?_eq_getElem hlt
  rw [attemptAt?, ht, Option.bind_some, attempt?_eq_none_iff]
  simp

theorem forall_attemptAt?_eq_none_iff :
    (∀ i ∈ types.order lastUsed g, types.attemptAt? listing context i = none) ↔
      ∀ t ∈ types, ∃ e, Listing.parse t.rules listing context = .error e := by
  constructor
  · intro hnone t ht
    obtain ⟨i, hi, rfl⟩ := List.getElem_of_mem ht
    have hmem := (order_perm types lastUsed g).mem_iff.2 (List.mem_range.2 hi)
    obtain ⟨u, e, hu, he⟩ := (attemptAt?_eq_none_iff hmem).1 (hnone i hmem)
    rw [List.getElem?_eq_getElem hi] at hu
    exact ⟨e, Option.some.inj hu ▸ he⟩
  · intro herror i hi
    have hlt := List.mem_range.1 ((order_perm types lastUsed g).mem_iff.1 hi)
    obtain ⟨e, he⟩ := herror _ (List.getElem_mem hlt)
    exact (attemptAt?_eq_none_iff hi).2 ⟨_, e, List.getElem?_eq_getElem hlt, he⟩

structure Account (types : Catalog) (lastUsed : Option Text) (g : Greeting) (listing : Text)
    (context : Context) (s : Search) : Prop where
  inOrder : ∃ rest, types.IsOrder lastUsed g (s.tried ++ rest) ∧ (s.found = none → rest = [])
  once : s.tried.Nodup
  found : ∀ d, s.found = some d ↔ ∃ before i t, s.tried = before ++ [i] ∧ types[i]? = some t ∧
    d.serverType = t.name ∧ Listing.parse t.rules listing context = .ok d.records ∧
    ∀ j ∈ before, ∃ u e, types[j]? = some u ∧ Listing.parse u.rules listing context = .error e
  missed : s.found = none ↔ ∀ t ∈ types, ∃ e, Listing.parse t.rules listing context = .error e

/-- A catalog is searched in one order, which ends at the first server type that reads the whole
listing; nothing is found just when no server type reads it. -/
theorem account_search (types : Catalog) (lastUsed : Option Text) (g : Greeting) (listing : Text)
    (context : Context) :
    types.detect? lastUsed g listing context = (types.search lastUsed g listing context).found ∧
      types.Account lastUsed g listing context (types.search lastUsed g listing context) := by
  refine ⟨rfl, ?_⟩
  rw [search_eq_follow]
  have horder := isOrder_order types lastUsed g
  have hfollows : Search.Follows (types.attemptAt? listing context) {} (types.order lastUsed g)
      (Search.follow (types.attemptAt? listing context) {} (types.order lastUsed g)) :=
    Search.follows_follow rfl _
  generalize Search.follow (types.attemptAt? listing context) {} (types.order lastUsed g) = s
    at hfollows ⊢
  obtain ⟨rest, hrest, hall⟩ := hfollows.exists_rest
  have htried : types.order lastUsed g = s.tried ++ rest := hrest
  have hmem {i : Nat} (hi : i ∈ s.tried) : i ∈ types.order lastUsed g :=
    htried ▸ List.mem_append_left rest hi
  constructor
  · exact ⟨rest, htried ▸ horder, hall⟩
  · have hnodup := horder.perm.nodup_iff.2 List.nodup_range
    rw [htried] at hnodup
    exact (List.nodup_append.1 hnodup).1
  · intro d
    rw [hfollows.found_eq_some_iff]
    constructor
    · rintro ⟨before, i, heq, hd, hbefore⟩
      obtain ⟨t, ht, hname, hparse⟩ := attemptAt?_eq_some_iff.1 hd
      exact ⟨before, i, t, heq, ht, hname, hparse, fun j hj =>
        (attemptAt?_eq_none_iff (hmem (by simp [heq, hj]))).1 (hbefore j hj)⟩
    · rintro ⟨before, i, t, heq, ht, hname, hparse, hbefore⟩
      exact ⟨before, i, heq, attemptAt?_eq_some_iff.2 ⟨t, ht, hname, hparse⟩, fun j hj =>
        (attemptAt?_eq_none_iff (hmem (by simp [heq, hj]))).2 (hbefore j hj)⟩
  · rw [hfollows.found_eq_none_iff, forall_attemptAt?_eq_none_iff]

end ListingRules.Catalog
