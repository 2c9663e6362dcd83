import ListingRules.Text.Basic

namespace ListingRules.Toml

inductive Origin where
  | implicit
  | dotted
  | header
  | braces
  deriving DecidableEq, Repr

inductive Node where
  | text (t : Text)
  | scalar
  | list (items : List Node)
  | table (origin : Origin) (entries : List (Text × Node))
  | tables (items : List (List (Text × Node)))
  deriving Repr

abbrev Entries := List (Text × Node)

namespace Entries

def get? (key : Text) (es : Entries) : Option Node :=
  (es.find? (·.1 == key)).map (·.2)

def alter (key : Text) (f : Option Node → Option Node) : Entries → Option Entries
  | [] => do return [(key, ← f none)]
  | (k, n) :: es =>
      if k = key then do return (k, ← f (some n)) :: es
      else do return (k, n) :: (← alter key f es)

def insert (key : Text) (n : Node) : Entries → Option Entries :=
  alter key fun old => if old.isNone then some n else none

theorem get?_alter {key : Text} {f : Option Node → Option Node} {es fs : Entries}
    (h : alter key f es = some fs) : ∃ n, f (get? key es) = some n ∧ get? key fs = some n := by
  induction es generalizing fs with
  | nil =>
      simp only [alter, Option.bind_eq_bind, Option.bind_eq_some_iff, Option.pure_def,
        Option.some.injEq] at h
      obtain ⟨n, hn, rfl⟩ := h
      exact ⟨n, by simpa [get?] using hn, by simp [get?]⟩
  | cons e es ih =>
      obtain ⟨k, n⟩ := e
      simp only [alter] at h
      split at h
      · rename_i hk
        simp only [Option.bind_eq_bind, Option.bind_eq_some_iff, Option.pure_def,
          Option.some.injEq] at h
        obtain ⟨m, hm, rfl⟩ := h
        exact ⟨m, by simpa [get?, hk] using hm, by simp [get?, hk]⟩
      · rename_i hk
        simp only [Option.bind_eq_bind, Option.bind_eq_some_iff, Option.pure_def,
          Option.some.injEq] at h
        obtain ⟨rest, hrest, rfl⟩ := h
        have hne : (k == key) = false := by simpa using hk
        simpa [get?, hne] using ih hrest

theorem get?_insert {key : Text} {n : Node} {es fs : Entries} (h : insert key n es = some fs) :
    get? key es = none ∧ get? key fs = some n := by
  obtain ⟨m, hm, hg⟩ := get?_alter h
  split at hm
  · rename_i hnone
    obtain rfl := Option.some.inj hm
    exact ⟨by simpa using hnone, hg⟩
  · simp at hm

/-- Changes the table at the end of a path. Tables that are missing on the way are made. A key with
points does not reach into tables that have headers. -/
def edit (dotted : Bool) : List Text → (Entries → Option Entries) → Entries → Option Entries
  | [], f, es => f es
  | key :: path, f, es =>
      alter key (fun
        | none => do
            return .table (if dotted then .dotted else .implicit) (← edit dotted path f [])
        | some (.table origin inner) =>
            if origin = .braces ∨ dotted ∧ origin = .header then none
            else do return .table origin (← edit dotted path f inner)
        | some (.tables items) =>
            match items.getLast? with
            | some last =>
                if dotted then none
                else do return .tables (items.dropLast ++ [← edit dotted path f last])
            | none => none
        | some _ => none) es

def insertAt (path : List Text) (n : Node) (es : Entries) : Option Entries :=
  match path.getLast? with
  | none => none
  | some key => edit true path.dropLast (insert key n) es

/-- Opens the table of a header. A table that was only named on the way may still be opened. -/
def openTable (path : List Text) (es : Entries) : Option Entries :=
  match path.getLast? with
  | none => none
  | some key =>
      edit false path.dropLast (alter key fun
        | none => some (.table .header [])
        | some (.table .implicit inner) => some (.table .header inner)
        | some _ => none) es

def addTable (path : List Text) (es : Entries) : Option Entries :=
  match path.getLast? with
  | none => none
  | some key =>
      edit false path.dropLast (alter key fun
        | none => some (.tables [[]])
        | some (.tables items) => some (.tables (items ++ [[]]))
        | some _ => none) es

end Entries

end ListingRules.Toml
