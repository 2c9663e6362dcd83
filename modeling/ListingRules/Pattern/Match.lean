import ListingRules.Pattern.Node

/-!
Matching patterns. The ways to match are tried in order, and each goes on with what is left of the
pattern.
-/

namespace ListingRules.Pattern

structure State where
  place : Cursor
  start : Cursor
  origin : Cursor
  captures : List (Nat × Text) := []
  deriving DecidableEq, Repr

namespace State

def moveTo (s : State) (c : Cursor) : State :=
  { s with place := c }

def capture? (s : State) (index : Nat) : Option Text :=
  (s.captures.find? (·.1 == index)).map (·.2)

end State

def pass? (same : Char → Char → Bool) : Text → Cursor → Option Cursor
  | [], c => some c
  | x :: t, c => if c.ahead.head?.any (same x) then pass? same t c.next else none

abbrev Continuation := State → Option State

def times (body : State → Continuation → Option State) : Nat → State → Continuation → Option State
  | 0, s, k => k s
  | n + 1, s, k => body s fun t => times body n t k

/-- A part of a pattern up to a number of times. A time that takes no characters is the last. -/
def upTo (body : State → Continuation → Option State) (greedy : Bool) :
    Nat → State → Continuation → Option State
  | 0, s, k => k s
  | n + 1, s, k =>
      let again (_ : Unit) := body s fun t =>
        if t.place.ahead.length < s.place.ahead.length then upTo body greedy n t k else k t
      if greedy then (again ()).or (k s) else (k s).or (again ())

namespace Node

def matchWith (call : Nat → State → Continuation → Option State) :
    Node → State → Continuation → Option State
  | empty, s, k => k s
  | set cs, s, k =>
      match s.place.ahead with
      | [] => none
      | c :: _ => if cs.contains c then k (s.moveTo s.place.next) else none
  | assertion a, s, k => if a.holds s.origin s.place then k s else none
  | sequence a b, s, k => a.matchWith call s fun t => b.matchWith call t k
  | choice a b, s, k =>
      match a.matchWith call s k with
      | some t => some t
      | none => b.matchWith call s k
  | repetition body least most greedy, s, k =>
      let room := s.place.ahead.length + 1
      times (body.matchWith call) (min least room) s fun t =>
        upTo (body.matchWith call) greedy (most.elim room fun m => min room (m - least)) t k
  | group index body, s, k =>
      body.matchWith call s fun t =>
        let taken := t.place.behind.take (t.place.behind.length - s.place.behind.length)
        k { t with captures := (index, taken.reverse) :: t.captures }
  | atomic body, s, k => (body.matchWith call s some).bind k
  | lookAhead negative body, s, k =>
      match body.matchWith call s some, negative with
      | some t, false => k { s with captures := t.captures }
      | none, true => k s
      | _, _ => none
  | lookBehind negative body, s, k =>
      let (least, most) := body.width?.getD (0, 0)
      let found := (List.range (most + 1 - least)).findSome? fun i =>
        let n := least + i
        if s.place.behind.length < n then none
        else
          let back : Cursor :=
            ⟨s.place.behind.drop n, (s.place.behind.take n).reverse ++ s.place.ahead⟩
          body.matchWith call (s.moveTo back) fun t =>
            if t.place.ahead.length = s.place.ahead.length then some t else none
      match found, negative with
      | some t, false => k { s with captures := t.captures }
      | none, true => k s
      | _, _ => none
  | reference index ignoreCase, s, k =>
      match s.capture? index with
      | none => none
      | some t =>
          let same (a b : Char) :=
            if ignoreCase then (Character.caseVariants a).contains b else a == b
          (pass? same t s.place).bind fun c => k (s.moveTo c)
  | ifGroup index yes no, s, k =>
      if (s.capture? index).isSome then yes.matchWith call s k else no.matchWith call s k
  | recursion index, s, k => call index s k
  | keepOut, s, k => k { s with start := s.place }

def matchTo (whole : Node) : Nat → Node → State → Continuation → Option State
  | 0, n, s, k => n.matchWith (fun _ _ _ => none) s k
  | depth + 1, n, s, k =>
      n.matchWith (fun index s k =>
        match if index = 0 then some whole else whole.group? index with
        | some body => matchTo whole depth body s fun t => k { t with captures := s.captures }
        | none => none) s k

def findFrom? (whole : Node) (origin : Cursor) : Text → Text → Option State
  | behind, [] =>
      matchTo whole origin.ahead.length whole ⟨⟨behind, []⟩, ⟨behind, []⟩, origin, []⟩ some
  | behind, c :: ahead =>
      let here : Cursor := ⟨behind, c :: ahead⟩
      (matchTo whole origin.ahead.length whole ⟨here, here, origin, []⟩ some).or
        (findFrom? whole origin (c :: behind) ahead)

def firstTry? (whole : Node) (c : Cursor) : Option Cursor :=
  (findFrom? whole c c.behind c.ahead).map (·.start)

end Node

end ListingRules.Pattern
