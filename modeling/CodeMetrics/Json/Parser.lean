import CodeMetrics.Json

/-!
# Reading JSON

A strict reader: one value with blanks around it, no comments, no trailing commas, no leading
zeros, no control characters in strings, and no half of a surrogate pair.

The reader is bounded by the length of the text, since every step takes a character.
-/

namespace CodeMetrics.Json

/-- Whether a character may stand between tokens. -/
def isBlank (c : Char) : Bool := c == ' ' || c == '\t' || c == '\n' || c == '\r'

/-- Drops blanks at the front. -/
def skipBlanks (cs : List Char) : List Char := cs.dropWhile isBlank

/-- The value of a hexadecimal digit. -/
def hexValue? (c : Char) : Option Nat :=
  if '0' ≤ c && c ≤ '9' then some (c.toNat - '0'.toNat)
  else if 'a' ≤ c && c ≤ 'f' then some (c.toNat - 'a'.toNat + 10)
  else if 'A' ≤ c && c ≤ 'F' then some (c.toNat - 'A'.toNat + 10)
  else none

/-- The value of four hexadecimal digits. -/
def hex4? (a b c d : Char) : Option Nat := do
  let a ← hexValue? a
  let b ← hexValue? b
  let c ← hexValue? c
  let d ← hexValue? d
  return ((a * 16 + b) * 16 + c) * 16 + d

/-- The character that a backslash and a letter stand for. -/
def simpleEscape? (c : Char) : Option Char :=
  if c = '"' then some '"'
  else if c = '\\' then some '\\'
  else if c = '/' then some '/'
  else if c = 'b' then some '\x08'
  else if c = 'f' then some '\x0c'
  else if c = 'n' then some '\n'
  else if c = 'r' then some '\r'
  else if c = 't' then some '\t'
  else none

/-- A string after its opening quote: the characters up to the closing quote, and the rest. -/
def readString : List Char → Option (List Char × List Char)
  | [] => none
  | '"' :: rest => some ([], rest)
  | '\\' :: 'u' :: a :: b :: c :: d :: rest =>
    match hex4? a b c d with
    | none => none
    | some n =>
      if 0xD800 ≤ n && n ≤ 0xDBFF then
        match rest with
        | '\\' :: 'u' :: e :: f :: g :: h :: rest' =>
          match hex4? e f g h with
          | none => none
          | some low =>
            if 0xDC00 ≤ low && low ≤ 0xDFFF then
              (readString rest').map fun (s, r) =>
                (Char.ofNat (0x10000 + (n - 0xD800) * 0x400 + (low - 0xDC00)) :: s, r)
            else none
        | _ => none
      else if 0xDC00 ≤ n && n ≤ 0xDFFF then none
      else (readString rest).map fun (s, r) => (Char.ofNat n :: s, r)
  | '\\' :: c :: rest =>
    match simpleEscape? c with
    | none => none
    | some e => (readString rest).map fun (s, r) => (e :: s, r)
  | c :: rest =>
    if c.toNat < 0x20 || c == '\\' then none
    else (readString rest).map fun (s, r) => (c :: s, r)

/-- The number that digits stand for. -/
def digitsValue (cs : List Char) : Nat :=
  cs.foldl (fun n c => n * 10 + (c.toNat - '0'.toNat)) 0

/-- The fraction of a number, if it has one; a point needs digits. -/
def readFraction : List Char → Option (List Char × List Char)
  | '.' :: rest =>
    let digits := rest.takeWhile Char.isDigit
    if digits.isEmpty then none else some ('.' :: digits, rest.dropWhile Char.isDigit)
  | rest => some ([], rest)

/-- The sign of an exponent, if it has one. -/
def readSign : List Char → List Char × List Char
  | '+' :: rest => (['+'], rest)
  | '-' :: rest => (['-'], rest)
  | rest => ([], rest)

/-- The exponent of a number, if it has one; it needs digits. -/
def readExponent : List Char → Option (List Char × List Char)
  | c :: rest =>
    if c == 'e' || c == 'E' then
      let (sign, rest) := readSign rest
      let digits := rest.takeWhile Char.isDigit
      if digits.isEmpty then none
      else some (c :: sign ++ digits, rest.dropWhile Char.isDigit)
    else some ([], c :: rest)
  | [] => some ([], [])

/-- A number. The whole part has no leading zero. -/
def readNumber (cs : List Char) : Option (Json × List Char) :=
  let (sign, body) := match cs with
    | '-' :: rest => (['-'], rest)
    | _ => ([], cs)
  let digits := body.takeWhile Char.isDigit
  let rest := body.dropWhile Char.isDigit
  if digits.isEmpty then none
  else if digits.head? == some '0' && digits.length > 1 then none
  else do
    let (fraction, rest) ← readFraction rest
    let (exponent, rest) ← readExponent rest
    if sign.isEmpty && fraction.isEmpty && exponent.isEmpty then
      return (.nat (digitsValue digits), rest)
    else
      return (.number (String.ofList (sign ++ digits ++ fraction ++ exponent)), rest)

/-- The rest of a text after a word it begins with. -/
def afterWord? : List Char → List Char → Option (List Char)
  | [], cs => some cs
  | _ :: _, [] => none
  | w :: ws, c :: cs => if w = c then afterWord? ws cs else none

mutual

/-- A value at the front of a text, after blanks. -/
def readValue : Nat → List Char → Option (Json × List Char)
  | 0, _ => none
  | fuel + 1, cs =>
    match skipBlanks cs with
    | [] => none
    | '"' :: rest => (readString rest).map fun (s, r) => (.str (String.ofList s), r)
    | '[' :: rest =>
      match skipBlanks rest with
      | ']' :: r => some (.arr [], r)
      | _ => (readElements fuel rest).map fun (es, r) => (.arr es, r)
    | '{' :: rest =>
      match skipBlanks rest with
      | '}' :: r => some (.obj [], r)
      | _ => (readMembers fuel rest).map fun (ms, r) => (.obj ms, r)
    | 't' :: rest => (afterWord? "rue".toList rest).map fun r => (.bool true, r)
    | 'f' :: rest => (afterWord? "alse".toList rest).map fun r => (.bool false, r)
    | 'n' :: rest => (afterWord? "ull".toList rest).map fun r => (.null, r)
    | c :: rest => readNumber (c :: rest)

/-- Elements up to the closing bracket. -/
def readElements : Nat → List Char → Option (List Json × List Char)
  | 0, _ => none
  | fuel + 1, cs =>
    match readValue fuel cs with
    | none => none
    | some (v, rest) =>
      match skipBlanks rest with
      | ',' :: rest => (readElements fuel rest).map fun (vs, r) => (v :: vs, r)
      | ']' :: rest => some ([v], rest)
      | _ => none

/-- Members up to the closing brace. -/
def readMembers : Nat → List Char → Option (List (String × Json) × List Char)
  | 0, _ => none
  | fuel + 1, cs =>
    match skipBlanks cs with
    | '"' :: rest =>
      match readString rest with
      | none => none
      | some (name, rest) =>
        match skipBlanks rest with
        | ':' :: rest =>
          match readValue fuel rest with
          | none => none
          | some (v, rest) =>
            match skipBlanks rest with
            | ',' :: rest =>
              (readMembers fuel rest).map fun (ms, r) => ((String.ofList name, v) :: ms, r)
            | '}' :: rest => some ([(String.ofList name, v)], rest)
            | _ => none
        | _ => none
    | _ => none

end

/-- **The value that a text is**, blanks around it aside. -/
def parse? (s : String) : Option Json :=
  let cs := s.toList
  match readValue (cs.length + 1) cs with
  | some (v, rest) => if (skipBlanks rest).isEmpty then some v else none
  | none => none

end CodeMetrics.Json
