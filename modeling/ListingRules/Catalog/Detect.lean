import ListingRules.Catalog.Compile
import ListingRules.Listing.Reading

namespace ListingRules.Catalog

open Listing (Context FileRecord)

structure Detection where
  serverType : Text
  records : List FileRecord
  deriving DecidableEq, Repr

structure Search where
  tried : List Nat := []
  found : Option Detection := none
  deriving DecidableEq, Repr

namespace Search

def visit (attempt : Nat → Option Detection) (suits : Nat → Bool) (s : Search) (i : Nat) :
    Search :=
  if s.found.isSome || s.tried.contains i || !suits i then s
  else ⟨s.tried ++ [i], attempt i⟩

def round (attempt : Nat → Option Detection) (suits : Nat → Bool) (s : Search)
    (positions : List Nat) : Search :=
  positions.foldl (visit attempt suits) s

end Search

def undetectedMessage : Text :=
  "no server type can read this listing".toList

variable [PatternEngine]

def attempt? (listing : Text) (context : Context) (t : ServerType) : Option Detection :=
  match Listing.parse t.rules listing context with
  | .ok records => some ⟨t.name, records⟩
  | .error _ => none

def holdsAt (types : Catalog) (g : Greeting) (i : Nat) : Bool :=
  types[i]?.any fun t => t.condition.evaluate g

def search (types : Catalog) (lastUsed : Option Text) (g : Greeting) (listing : Text)
    (context : Context) : Search :=
  let attempt i := types[i]?.bind (attempt? listing context)
  let positions := List.range types.length
  let first := Search.round attempt (fun _ => true) {} (lastUsed.bind types.find?).toList
  let second := first.round attempt (types.holdsAt g) positions
  second.round attempt (fun _ => true) positions

def detect? (types : Catalog) (lastUsed : Option Text) (g : Greeting) (listing : Text)
    (context : Context) : Option Detection :=
  (types.search lastUsed g listing context).found

theorem find?_lt {types : Catalog} {name : Text} {i : Nat} (h : types.find? name = some i) :
    i < types.length :=
  (List.findIdx?_eq_some_iff_findIdx_eq.1 h).1

end ListingRules.Catalog
