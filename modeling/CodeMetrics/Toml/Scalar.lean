import CodeMetrics.Toml

/-!
# Scalars of TOML without quotes

Truth values, whole numbers, floating-point numbers, dates and times. Each is one word, apart from a
date and a time with a space between them; the functions here take the whole word.

Whole numbers may have up to 128 bits, floating-point numbers must not exceed the range of double
precision.
-/

namespace CodeMetrics.Toml

/-! ### Digits -/

/-- The value of a digit in a base up to sixteen. -/
def digit? (base : Nat) (c : Char) : Option Nat :=
  let value :=
    if '0' ≤ c && c ≤ '9' then c.toNat - '0'.toNat
    else if 'a' ≤ c && c ≤ 'f' then c.toNat - 'a'.toNat + 10
    else if 'A' ≤ c && c ≤ 'F' then c.toNat - 'A'.toNat + 10
    else 16
  if value < base then some value else none

/-- The digits after the first one, with single underscores between digits left out. -/
def moreDigits? (base : Nat) : List Char → Option (List Nat)
  | [] => some []
  | '_' :: c :: cs => do return (← digit? base c) :: (← moreDigits? base cs)
  | c :: cs => do return (← digit? base c) :: (← moreDigits? base cs)

/-- The digits of a number, at least one, with single underscores between digits left out. -/
def digits? (base : Nat) : List Char → Option (List Nat)
  | [] => none
  | c :: cs => do return (← digit? base c) :: (← moreDigits? base cs)

/-- The number that digits stand for. -/
def ofDigits (base : Nat) (ds : List Nat) : Nat := ds.foldl (fun n d => n * base + d) 0

/-- Decimal digits without a needless zero at the front. -/
def decimal? (cs : List Char) : Option (List Nat) :=
  match digits? 10 cs with
  | some (0 :: _ :: _) => none
  | other => other

/-- The sign of a number, and the rest. -/
def splitSign : List Char → Bool × List Char
  | '-' :: cs => (true, cs)
  | '+' :: cs => (false, cs)
  | cs => (false, cs)

/-! ### Numbers -/

/-- A whole number of at most 128 bits. -/
def fitting? (n : Int) : Option Toml :=
  if -(Nat.pow 2 127 : Int) ≤ n && n < (Nat.pow 2 128 : Int) then some (.int n) else none

/-- A whole number; one in another base than ten has no sign. -/
def integer? (cs : List Char) : Option Toml :=
  match cs with
  | '0' :: 'x' :: ds => (digits? 16 ds).bind fun ds => fitting? (ofDigits 16 ds)
  | '0' :: 'o' :: ds => (digits? 8 ds).bind fun ds => fitting? (ofDigits 8 ds)
  | '0' :: 'b' :: ds => (digits? 2 ds).bind fun ds => fitting? (ofDigits 2 ds)
  | _ =>
    let (negative, ds) := splitSign cs
    (decimal? ds).bind fun ds =>
      fitting? (if negative then -(ofDigits 10 ds : Int) else (ofDigits 10 ds : Int))

/-- The least number that is too large for double precision: from half a unit in the last place above
the largest number on, rounding goes to infinity. -/
def floatLimit : Nat := Nat.pow 2 1024 - Nat.pow 2 970

/-- Whether digits times a power of ten stay in the range of double precision. -/
def inFloatRange (digits : List Nat) (exponent : Int) : Bool :=
  let significant := digits.dropWhile (· == 0)
  if significant.isEmpty then true
  else if (significant.length : Int) + exponent > 310 then false
  else if (significant.length : Int) + exponent < 0 then true
  else if exponent ≥ 0 then ofDigits 10 significant * Nat.pow 10 exponent.toNat < floatLimit
  else ofDigits 10 significant < floatLimit * Nat.pow 10 (-exponent).toNat

/-- Cuts at the first character that satisfies a condition. -/
def cutAt? (p : Char → Bool) (cs : List Char) : Option (List Char × List Char) :=
  match cs.dropWhile fun c => !p c with
  | [] => none
  | _ :: after => some (cs.takeWhile fun c => !p c, after)

/-- An exponent. -/
def exponent? (cs : List Char) : Option Int :=
  let (negative, ds) := splitSign cs
  (digits? 10 ds).map fun ds => if negative then -(ofDigits 10 ds : Int) else (ofDigits 10 ds : Int)

/-- A floating-point number without its sign. It has a fraction, an exponent, or both. -/
def unsignedFloat? (cs : List Char) : Bool :=
  let (mantissa, exponent) := match cutAt? (fun c => c == 'e' || c == 'E') cs with
    | some (m, e) => (m, some e)
    | none => (cs, none)
  let parts := match cutAt? (· == '.') mantissa with
    | some (whole, fraction) => (decimal? whole).bind fun w => (digits? 10 fraction).map (w, ·)
    | none => if exponent.isSome then (decimal? mantissa).map (·, []) else none
  match parts, exponent with
  | some (whole, fraction), none => inFloatRange (whole ++ fraction) (-fraction.length)
  | some (whole, fraction), some e =>
    match exponent? e with
    | some n => inFloatRange (whole ++ fraction) (n - fraction.length)
    | none => false
  | none, _ => false

/-- A floating-point number. -/
def float? (cs : List Char) : Option Toml :=
  let body := (splitSign cs).2
  if body = "inf".toList || body = "nan".toList || unsignedFloat? body then
    some (.float (String.ofList cs))
  else none

/-! ### Dates and times -/

/-- A number of exactly `count` digits at the front. -/
def fixedDigits? (count : Nat) (cs : List Char) : Option (Nat × List Char) :=
  let ds := cs.take count
  if ds.length = count && ds.all Char.isDigit then
    some (ofDigits 10 (ds.map fun c => c.toNat - '0'.toNat), cs.drop count)
  else none

/-- The number of days of a month. -/
def daysInMonth (year month : Nat) : Nat :=
  if month = 2 then
    if year % 4 = 0 && (year % 100 != 0 || year % 400 = 0) then 29 else 28
  else if month = 4 || month = 6 || month = 9 || month = 11 then 30
  else 31

/-- The text after a date at the front. -/
def afterDate? (cs : List Char) : Option (List Char) :=
  match fixedDigits? 4 cs with
  | some (year, '-' :: cs) =>
    match fixedDigits? 2 cs with
    | some (month, '-' :: cs) =>
      match fixedDigits? 2 cs with
      | some (day, cs) =>
        if 1 ≤ month && month ≤ 12 && 1 ≤ day && day ≤ daysInMonth year month then some cs else none
      | none => none
    | _ => none
  | _ => none

/-- The text after a fraction of a second, if there is one. -/
def afterFraction? : List Char → Option (List Char)
  | '.' :: c :: cs => if c.isDigit then some (cs.dropWhile Char.isDigit) else none
  | '.' :: [] => none
  | cs => some cs

/-- The text after a time at the front. The seconds may be left out. -/
def afterTime? (cs : List Char) : Option (List Char) :=
  match fixedDigits? 2 cs with
  | some (hour, ':' :: cs) =>
    match fixedDigits? 2 cs with
    | some (minute, cs) =>
      if hour ≤ 23 && minute ≤ 59 then
        match cs with
        | ':' :: cs =>
          match fixedDigits? 2 cs with
          | some (second, cs) => if second ≤ 60 then afterFraction? cs else none
          | none => none
        | _ => some cs
      else none
    | none => none
  | _ => none

/-- Whether a text is nothing or the distance from universal time. -/
def isOffset : List Char → Bool
  | [] => true
  | ['Z'] => true
  | ['z'] => true
  | sign :: cs =>
    if sign == '+' || sign == '-' then
      match fixedDigits? 2 cs with
      | some (hour, ':' :: cs) =>
        match fixedDigits? 2 cs with
        | some (minute, []) => hour ≤ 23 && minute ≤ 59
        | _ => false
      | _ => false
    else false

/-- Whether a word is a date, a time, or both. -/
def isMoment (cs : List Char) : Bool :=
  match afterDate? cs with
  | some [] => true
  | some (divider :: rest) =>
    if divider == 'T' || divider == 't' || divider == ' ' then
      match afterTime? rest with
      | some offset => isOffset offset
      | none => false
    else false
  | none => (afterTime? cs).any List.isEmpty

/-! ### Words -/

/-- Whether a character ends a word. -/
def endsWord (c : Char) : Bool :=
  c == ' ' || c == '\t' || c == '\n' || c == '\r' || c == ',' || c == ']' || c == '}' || c == '#'

/-- The word at the front of a text, and the rest. A date with a time after one space is one word. -/
def splitWord (cs : List Char) : List Char × List Char :=
  let word := cs.takeWhile fun c => !endsWord c
  let rest := cs.dropWhile fun c => !endsWord c
  match afterDate? word, rest with
  | some [], ' ' :: c :: more =>
    if c.isDigit then
      (word ++ ' ' :: (c :: more).takeWhile fun c => !endsWord c,
        (c :: more).dropWhile fun c => !endsWord c)
    else (word, rest)
  | _, _ => (word, rest)

/-- **The scalar that a word is.** -/
def ofWord? (cs : List Char) : Option Toml :=
  if cs = "true".toList then some (.bool true)
  else if cs = "false".toList then some (.bool false)
  else if isMoment cs then some (.moment (String.ofList cs))
  else (integer? cs).orElse fun _ => float? cs

end CodeMetrics.Toml
