import RetainerTable.Text.Hex
import RetainerTable.Toml.Value

namespace RetainerTable.Toml

open RetainerTable.Text

/-- Digits of a base with single underscores between them, at least one. -/
def digits? (base : Nat) : List Char → Option (List Nat)
  | [] => none
  | [c] => (digit? c).map ([·])
  | c :: '_' :: cs => return (← digit? c) :: (← digits? base cs)
  | c :: cs => return (← digit? c) :: (← digits? base cs)
where
  /-- A digit of the base. -/
  digit? (c : Char) : Option Nat := (hexDigit? c).filter (· < base)

/-- The number that digits of a base spell, the most significant first. -/
def spelled (base : Nat) (digits : List Nat) : Nat :=
  digits.foldl (fun value digit => base * value + digit) 0

/-- A sign and what follows it; the flag says that the sign is a minus. -/
def unsigned : List Char → Bool × List Char
  | '+' :: cs => (false, cs)
  | '-' :: cs => (true, cs)
  | cs => (false, cs)

/-- Decimal digits that do not begin with a needless zero. -/
def decimal? (cs : List Char) : Option (List Nat) :=
  match cs with
  | '0' :: _ :: _ => none
  | _ => digits? 10 cs

/-- Integers from `-2 ^ 127` to `2 ^ 128 - 1` can be read. -/
def isIntegerInRange (negative : Bool) (magnitude : Nat) : Bool :=
  decide (if negative then magnitude ≤ Nat.pow 2 127 else magnitude < Nat.pow 2 128)

/-- An integer: decimal with or without a sign, or in another base without one. -/
def integer? (cs : List Char) : Option Value :=
  match cs with
  | '0' :: 'x' :: cs => (digits? 16 cs).map fun ds => .number (isIntegerInRange false (spelled 16 ds))
  | '0' :: 'o' :: cs => (digits? 8 cs).map fun ds => .number (isIntegerInRange false (spelled 8 ds))
  | '0' :: 'b' :: cs => (digits? 2 cs).map fun ds => .number (isIntegerInRange false (spelled 2 ds))
  | _ =>
    let (negative, cs) := unsigned cs
    (decimal? cs).map fun ds => .number (isIntegerInRange negative (spelled 10 ds))

/-- Whether `digits · 10 ^ exponent` is nearer to a double than to `2 ^ 1024`. A number of more than
    400 digits before the point is too large, one of fewer than 300 is not. -/
def isDoubleInRange (digits : List Nat) (exponent : Int) : Bool :=
  let significant := digits.dropWhile (· = 0)
  let length : Int := significant.length + exponent
  if significant.isEmpty || decide (length < 300) then true
  else if 400 < length then false
  else
    let value := spelled 10 significant
    let limit := Nat.pow 2 1024 - Nat.pow 2 970
    decide (value * Nat.pow 10 exponent.toNat < limit * Nat.pow 10 (-exponent).toNat)

/-- An exponent: digits with or without a sign. -/
def exponent? (cs : List Char) : Option Int :=
  let (negative, cs) := unsigned cs
  (digits? 10 cs).map fun ds => if negative then -(spelled 10 ds : Int) else spelled 10 ds

/-- A number with a fraction, an exponent or both, or one of the special numbers. -/
def float? (cs : List Char) : Option Value :=
  let (_, cs) := unsigned cs
  if cs = "inf".toList ∨ cs = "nan".toList then some (.number true)
  else
    let mantissa := cs.takeWhile fun c => c ≠ 'e' ∧ c ≠ 'E'
    let whole := mantissa.takeWhile (· ≠ '.')
    let exponent? : Option Int :=
      match cs.drop mantissa.length with
      | [] => some 0
      | _ :: cs => exponent? cs
    match mantissa.drop whole.length with
    | [] =>
      if mantissa.length = cs.length then none
      else return .number (isDoubleInRange (← decimal? whole) (← exponent?))
    | _ :: fraction => do
      let high ← decimal? whole
      let low ← digits? 10 fraction
      return .number (isDoubleInRange (high ++ low) ((← exponent?) - low.length))

/-- So many decimal digits and what follows them. -/
def fixed? : Nat → List Char → Option (Nat × List Char)
  | count, cs =>
    let digits := cs.take count
    if digits.length = count ∧ digits.all Char.isDigit then
      some (spelled 10 (digits.map fun c => c.toNat - 48), cs.drop count)
    else none

/-- The number of days in a month. -/
def daysIn (year month : Nat) : Nat :=
  if month = 2 then
    (if (year % 4 = 0 ∧ year % 100 ≠ 0) ∨ year % 400 = 0 then 29 else 28)
  else if month = 4 ∨ month = 6 ∨ month = 9 ∨ month = 11 then 30
  else 31

/-- The text after a date. -/
def afterDate? (cs : List Char) : Option (List Char) := do
  let (year, cs) ← fixed? 4 cs
  let '-' :: cs := cs | none
  let (month, cs) ← fixed? 2 cs
  let '-' :: cs := cs | none
  let (day, cs) ← fixed? 2 cs
  if 1 ≤ month ∧ month ≤ 12 ∧ 1 ≤ day ∧ day ≤ daysIn year month then some cs else none

/-- The text after a time of day: hours and minutes, then seconds, which may have a fraction, or
    not. -/
def afterTime? (cs : List Char) : Option (List Char) := do
  let (hour, cs) ← fixed? 2 cs
  let ':' :: cs := cs | none
  let (minute, cs) ← fixed? 2 cs
  if 23 < hour ∨ 59 < minute then none
  else
    match cs with
    | ':' :: cs =>
      let (second, cs) ← fixed? 2 cs
      if 60 < second then none
      else
        match cs with
        | '.' :: cs => if (cs.takeWhile Char.isDigit).isEmpty then none else some (cs.dropWhile Char.isDigit)
        | cs => some cs
    | cs => some cs

/-- The whole text is an offset from universal time, or nothing. -/
def isOffset (cs : List Char) : Bool :=
  match cs with
  | [] => true
  | [c] => c = 'Z' || c = 'z'
  | sign :: cs =>
    (sign = '+' || sign = '-') &&
      match fixed? 2 cs with
      | some (hour, ':' :: cs) =>
        match fixed? 2 cs with
        | some (minute, []) => decide (hour ≤ 23 ∧ minute ≤ 59)
        | _ => false
      | _ => false

/-- A date, a time of day, or both with or without an offset. -/
def moment? (cs : List Char) : Option Value :=
  match afterDate? cs with
  | some [] => some .moment
  | some (delimiter :: rest) =>
    if delimiter = 'T' ∨ delimiter = 't' ∨ delimiter = ' ' then
      match afterTime? rest with
      | some offset => if isOffset offset then some .moment else none
      | none => none
    else none
  | none => if afterTime? cs = some [] then some .moment else none

/-- The scalar that the whole text spells. -/
def scalar? (cs : List Char) : Option Value :=
  if cs = "true".toList then some (.boolean true)
  else if cs = "false".toList then some (.boolean false)
  else ((integer? cs).or (float? cs)).or (moment? cs)

/-- Ends a scalar that stands without quotes. -/
def endsScalar (c : Char) : Bool :=
  " \t\n\r,]\x7d#".toList.contains c

/-- The scalar at the head of the text and the text after it. One space may part a date from a
    time. -/
def readScalar? (cs : List Char) : Option (Value × List Char) :=
  let word := cs.takeWhile (!endsScalar ·)
  let rest := cs.dropWhile (!endsScalar ·)
  match afterDate? word, rest with
  | some [], ' ' :: c :: after =>
    if c.isDigit then
      let time := (c :: after).takeWhile (!endsScalar ·)
      (scalar? (word ++ ' ' :: time)).map (·, (c :: after).dropWhile (!endsScalar ·))
    else (scalar? word).map (·, rest)
  | _, _ => (scalar? word).map (·, rest)

end RetainerTable.Toml
