import ListingRules.Text.Basic

namespace ListingRules.Utf8

structure Partial where
  missing : Nat
  least : Nat
  most : Nat
  value : Nat
  deriving DecidableEq, Repr

inductive Start where
  | whole (c : Char)
  | partly (p : Partial)
  | invalid
  deriving DecidableEq, Repr

def start (b : Nat) : Start :=
  if b < 0x80 then .whole (Char.ofNat b)
  else if b < 0xc2 then .invalid
  else if b < 0xe0 then .partly ⟨1, 0x80, 0xbf, b - 0xc0⟩
  else if b = 0xe0 then .partly ⟨2, 0xa0, 0xbf, 0⟩
  else if b = 0xed then .partly ⟨2, 0x80, 0x9f, 0xd⟩
  else if b < 0xf0 then .partly ⟨2, 0x80, 0xbf, b - 0xe0⟩
  else if b = 0xf0 then .partly ⟨3, 0x90, 0xbf, 0⟩
  else if b < 0xf4 then .partly ⟨3, 0x80, 0xbf, b - 0xf0⟩
  else if b = 0xf4 then .partly ⟨3, 0x80, 0x8f, 4⟩
  else .invalid

/-- The characters of bytes, with nothing in the place of each row of bytes that starts like a
character and does not go on like one. -/
def decodeFrom : Option Partial → List UInt8 → List (Option Char)
  | none, [] => []
  | some _, [] => [none]
  | pending, b :: rest =>
      let n := b.toNat
      let fresh (_ : Unit) := match start n with
        | .whole c => some c :: decodeFrom none rest
        | .partly p => decodeFrom (some p) rest
        | .invalid => none :: decodeFrom none rest
      match pending with
      | none => fresh ()
      | some p =>
          if p.least ≤ n && n ≤ p.most then
            let value := 64 * p.value + (n - 0x80)
            if p.missing = 1 then some (Char.ofNat value) :: decodeFrom none rest
            else decodeFrom (some ⟨p.missing - 1, 0x80, 0xbf, value⟩) rest
          else none :: fresh ()

def decodeShowing (bytes : List UInt8) : Text :=
  (decodeFrom none bytes).map (·.getD '\ufffd')

def decode? (bytes : List UInt8) : Option Text :=
  (decodeFrom none bytes).mapM id

end ListingRules.Utf8
