import ListingRules.Calendar.Date
import ListingRules.Text.Reader

/-!
Truth values, numbers, dates and times of TOML. Catalogs only need to know that they are written
correctly.
-/

namespace ListingRules.Toml

def isDigits (base : Nat) (t : Text) : Bool :=
  (t.splitOn '_').all fun part => !part.isEmpty && part.all (isDigitTo base)

def isPlainNumber (t : Text) : Bool :=
  isDigits 10 t && (t.head? != some '0' || t.length == 1)

def dropSign : Text → Text
  | '+' :: t | '-' :: t => t
  | t => t

def isInteger : Text → Bool
  | '0' :: 'x' :: t => isDigits 16 t
  | '0' :: 'o' :: t => isDigits 8 t
  | '0' :: 'b' :: t => isDigits 2 t
  | t => isPlainNumber (dropSign t)

def isFloat (t : Text) : Bool :=
  let t := dropSign t
  let isExponent (c : Char) := c == 'e' || c == 'E'
  let exponent := (t.dropWhile (!isExponent ·)).drop 1
  let mantissa := t.takeWhile (!isExponent ·)
  let whole := mantissa.takeWhile (· != '.')
  let fraction := (mantissa.dropWhile (· != '.')).drop 1
  let hasExponent := t.any isExponent
  let hasFraction := mantissa.contains '.'
  t == "inf".toList || t == "nan".toList ||
    (hasExponent || hasFraction) && isPlainNumber whole &&
      (!hasFraction || isDigits 10 fraction) && (!hasExponent || isDigits 10 (dropSign exponent))

def twoDigits? (bound : Nat) : Text → Option (Nat × Text)
  | a :: b :: t =>
      let n := Decimal.value [a, b]
      if a.isDigit && b.isDigit && n < bound then some (n, t) else none
  | _ => none

def afterDate? (t : Text) : Option Text := do
  let year := t.take 4
  guard (year.length = 4 && year.all Char.isDigit)
  let '-' :: t := t.drop 4 | none
  let (month, t) ← twoDigits? 13 t
  let '-' :: t := t | none
  let (day, t) ← twoDigits? 32 t
  let _ ← Date.ofParts? (Decimal.value year) month day
  return t

def afterTime? (t : Text) : Option Text := do
  let (_, t) ← twoDigits? 24 t
  let ':' :: t := t | none
  let (_, t) ← twoDigits? 60 t
  match t with
  | ':' :: t =>
      let (_, t) ← twoDigits? 61 t
      match t with
      | '.' :: t =>
          guard (t.head?.any Char.isDigit)
          return t.dropWhile Char.isDigit
      | t => return t
  | t => return t

def isZone : Text → Bool
  | [] | ['Z'] | ['z'] => true
  | sign :: t =>
      (sign == '+' || sign == '-') &&
        match twoDigits? 24 t with
        | some (_, ':' :: t) => (twoDigits? 60 t).any (·.2.isEmpty)
        | _ => false

def isMoment (t : Text) : Bool :=
  match afterDate? t with
  | some [] => true
  | some (c :: t) => (c == 'T' || c == 't' || c == ' ') && (afterTime? t).any isZone
  | none => afterTime? t == some []

def isScalar (t : Text) : Bool :=
  t == "true".toList || t == "false".toList || isInteger t || isFloat t || isMoment t

end ListingRules.Toml
