import CodeMetrics.Json.Parser
import CodeMetrics.Toml.Scalar

/-!
# Reading TOML

A document is a list of lines: a key with its value, the header of a table, or nothing, each with a
comment behind it if one is given. `Toml.parse?` reads the lines in order and builds the table that
they describe.

The reader is bounded by the length of the text, since every step takes a character.
-/

namespace CodeMetrics.Toml

/-! ### Blanks, line ends, comments -/

/-- Whether a character may stand between the parts of a line. -/
def isBlank (c : Char) : Bool := c == ' ' || c == '\t'

/-- Drops blanks at the front. -/
def skipBlanks (cs : List Char) : List Char := cs.dropWhile isBlank

/-- Whether a character may stand in a comment or in a string. -/
def isPrintable (c : Char) : Bool := c == '\t' || (c.toNat ≥ 0x20 && c.toNat != 0x7F)

/-- The text after a comment, if one is given. -/
def skipComment : List Char → List Char
  | '#' :: cs => cs.dropWhile isPrintable
  | cs => cs

/-- The text after the end of a line. -/
def afterLineEnd? : List Char → Option (List Char)
  | '\n' :: cs => some cs
  | '\r' :: '\n' :: cs => some cs
  | _ => none

/-- The text after blanks, comments and line ends, which may stand between the elements of an
array. -/
def skipLines : Nat → List Char → List Char
  | 0, cs => cs
  | fuel + 1, cs =>
    let rest := skipComment (skipBlanks cs)
    match afterLineEnd? rest with
    | some next => skipLines fuel next
    | none => rest

/-- The text after blanks, comments and line ends. -/
def skipSpace (cs : List Char) : List Char := skipLines cs.length cs

/-! ### Strings -/

/-- A character that is given by a number of hexadecimal digits. -/
def hexChar? (count : Nat) (cs : List Char) : Option (Char × List Char) :=
  let ds := cs.take count
  if ds.length = count then
    (ds.mapM Json.hexValue?).bind fun ds =>
      let n := ofDigits 16 ds
      if n < 0xD800 || (0xE000 ≤ n && n < 0x110000) then some (Char.ofNat n, cs.drop count) else none
  else none

/-- The character that an escape stands for, after its backslash. -/
def escape? : List Char → Option (Char × List Char)
  | 'b' :: cs => some ('\x08', cs)
  | 't' :: cs => some ('\t', cs)
  | 'n' :: cs => some ('\n', cs)
  | 'f' :: cs => some ('\x0c', cs)
  | 'r' :: cs => some ('\r', cs)
  | 'e' :: cs => some ('\x1b', cs)
  | '"' :: cs => some ('"', cs)
  | '\\' :: cs => some ('\\', cs)
  | 'x' :: cs => hexChar? 2 cs
  | 'u' :: cs => hexChar? 4 cs
  | 'U' :: cs => hexChar? 8 cs
  | _ => none

/-- A string with escapes, after its opening quote. -/
def readBasic : Nat → List Char → Option (List Char × List Char)
  | 0, _ => none
  | _ + 1, [] => none
  | _ + 1, '"' :: cs => some ([], cs)
  | fuel + 1, '\\' :: cs => do
    let (c, cs) ← escape? cs
    let (text, rest) ← readBasic fuel cs
    return (c :: text, rest)
  | fuel + 1, c :: cs =>
    if isPrintable c then (readBasic fuel cs).map fun (text, rest) => (c :: text, rest) else none

/-- A string without escapes, after its opening quote. -/
def readLiteral : List Char → Option (List Char × List Char)
  | [] => none
  | '\'' :: cs => some ([], cs)
  | c :: cs =>
    if isPrintable c then (readLiteral cs).map fun (text, rest) => (c :: text, rest) else none

/-- The text after a line end, blanks and further line ends; it begins with a line end after
blanks. -/
def afterContinuation? (cs : List Char) : Option (List Char) :=
  match afterLineEnd? (skipBlanks cs) with
  | none => none
  | some next => some (next.dropWhile fun c => isBlank c || c == '\n' || c == '\r')

/-- Whether every carriage return in a text is part of a line end. -/
def linesEndWell : List Char → Bool
  | [] => true
  | '\r' :: '\n' :: cs => linesEndWell cs
  | '\r' :: _ => false
  | _ :: cs => linesEndWell cs

/-- The closing quotes of a string over several lines: up to two more of them belong to the text. -/
def closing? (quote : Char) : List Char → Option (List Char × List Char)
  | a :: b :: c :: d :: e :: cs =>
    if a = quote && b = quote && c = quote then
      if d = quote then if e = quote then some ([d, e], cs) else some ([d], e :: cs)
      else some ([], d :: e :: cs)
    else none
  | a :: b :: c :: d :: [] =>
    if a = quote && b = quote && c = quote then
      if d = quote then some ([d], []) else some ([], [d])
    else none
  | a :: b :: c :: [] => if a = quote && b = quote && c = quote then some ([], []) else none
  | _ => none

/-- A string over several lines, after its opening quotes. With `escapes`, a backslash begins an
escape, or drops the line end after it and all blanks and line ends behind that. -/
def readLong (quote : Char) (escapes : Bool) : Nat → List Char → Option (List Char × List Char)
  | 0, _ => none
  | _ + 1, [] => none
  | fuel + 1, c :: cs =>
    match closing? quote (c :: cs) with
    | some closed => some closed
    | none =>
      if escapes && c == '\\' then
        match afterContinuation? cs with
        | some next =>
          if linesEndWell (cs.take (cs.length - next.length)) then readLong quote escapes fuel next
          else none
        | none => do
          let (e, cs) ← escape? cs
          let (text, rest) ← readLong quote escapes fuel cs
          return (e :: text, rest)
      else
        match afterLineEnd? (c :: cs) with
        | some next => (readLong quote escapes fuel next).map fun (text, rest) => ('\n' :: text, rest)
        | none =>
          if isPrintable c then
            (readLong quote escapes fuel cs).map fun (text, rest) => (c :: text, rest)
          else none

/-- A string over several lines; a line end right behind the opening quotes is not part of it. -/
def readLongFrom (quote : Char) (escapes : Bool) (cs : List Char) :
    Option (List Char × List Char) :=
  let cs := (afterLineEnd? cs).getD cs
  readLong quote escapes (cs.length + 1) cs

/-- A string at the front of a text. -/
def readString : List Char → Option (List Char × List Char)
  | '"' :: '"' :: '"' :: cs => readLongFrom '"' true cs
  | '\'' :: '\'' :: '\'' :: cs => readLongFrom '\'' false cs
  | '"' :: cs => readBasic (cs.length + 1) cs
  | '\'' :: cs => readLiteral cs
  | _ => none

/-! ### Keys -/

/-- Whether a character may stand in a name without quotes. -/
def isBare (c : Char) : Bool := c.isAlphanum || c == '_' || c == '-'

/-- A name of a key. -/
def readName : List Char → Option (String × List Char)
  | '"' :: cs => (readBasic (cs.length + 1) cs).map fun (name, rest) => (String.ofList name, rest)
  | '\'' :: cs => (readLiteral cs).map fun (name, rest) => (String.ofList name, rest)
  | cs =>
    let name := cs.takeWhile isBare
    if name.isEmpty then none else some (String.ofList name, cs.dropWhile isBare)

/-- The names of a key, with dots between them: all but the last one, the last one, and the rest
without the blanks at its front. -/
def readKey : Nat → List Char → Option (List String × String × List Char)
  | 0, _ => none
  | fuel + 1, cs => do
    let (name, rest) ← readName (skipBlanks cs)
    match skipBlanks rest with
    | '.' :: rest =>
      let (path, last, rest) ← readKey fuel rest
      return (name :: path, last, rest)
    | rest => return ([], name, rest)

/-! ### Values -/

/-- The number of brackets and braces that may be open. -/
def maxNesting : Nat := 80

mutual

/-- A value at the front of a text. At most `nesting` more brackets and braces may be opened. -/
def readValue : Nat → Nat → List Char → Option (Toml × List Char)
  | 0, _, _ => none
  | fuel + 1, nesting, cs =>
    match cs with
    | '[' :: rest =>
      match nesting with
      | 0 => none
      | nesting + 1 => (readElements fuel nesting rest).map fun (es, rest) => (.arr es, rest)
    | '{' :: rest =>
      match nesting with
      | 0 => none
      | nesting + 1 => readMembers fuel nesting (.table .braces []) rest
    | '"' :: _ => (readString cs).map fun (s, rest) => (.str (String.ofList s), rest)
    | '\'' :: _ => (readString cs).map fun (s, rest) => (.str (String.ofList s), rest)
    | _ =>
      let (word, rest) := splitWord cs
      (ofWord? word).map fun v => (v, rest)

/-- The elements of an array up to its closing bracket. A comma may stand behind the last one. -/
def readElements : Nat → Nat → List Char → Option (List Toml × List Char)
  | 0, _, _ => none
  | fuel + 1, nesting, cs =>
    match skipSpace cs with
    | ']' :: rest => some ([], rest)
    | start =>
      match readValue fuel nesting start with
      | none => none
      | some (v, rest) =>
        match skipSpace rest with
        | ',' :: rest => (readElements fuel nesting rest).map fun (vs, rest) => (v :: vs, rest)
        | ']' :: rest => some ([v], rest)
        | _ => none

/-- The members of a table up to its closing brace, added to those already read. A comma may stand
behind the last one. -/
def readMembers : Nat → Nat → Toml → List Char → Option (Toml × List Char)
  | 0, _, _, _ => none
  | fuel + 1, nesting, sofar, cs =>
    match skipSpace cs with
    | '}' :: rest => some (sofar, rest)
    | start =>
      match readKey start.length start with
      | some (path, name, '=' :: rest) =>
        match readValue fuel nesting (skipBlanks rest) with
        | none => none
        | some (v, rest) =>
          match change? (assign path name v) sofar with
          | none => none
          | some sofar =>
            match skipSpace rest with
            | ',' :: rest => readMembers fuel nesting sofar rest
            | '}' :: rest => some (sofar, rest)
            | _ => none
      | _ => none

end

/-! ### Documents -/

/-- What a line says. -/
inductive Line where
  | blank
  | assignment (path : List String) (name : String) (value : Toml)
  | tableHeader (path : List String) (name : String)
  | arrayHeader (path : List String) (name : String)

/-- A line, after blanks at its front. -/
def readLine (cs : List Char) : Option (Line × List Char) :=
  match cs with
  | '[' :: '[' :: rest =>
    match readKey (rest.length + 1) rest with
    | some (path, name, ']' :: ']' :: rest) => some (.arrayHeader path name, rest)
    | _ => none
  | '[' :: rest =>
    match readKey (rest.length + 1) rest with
    | some (path, name, ']' :: rest) => some (.tableHeader path name, rest)
    | _ => none
  | c :: _ =>
    if c == '#' || c == '\n' || c == '\r' then some (.blank, cs)
    else
      match readKey (cs.length + 1) cs with
      | some (path, name, '=' :: rest) =>
        (readValue (rest.length + 1) maxNesting (skipBlanks rest)).map fun (v, rest) =>
          (.assignment path name v, rest)
      | _ => none
  | [] => some (.blank, [])

/-- A document as far as it has been read. -/
structure Document where
  root : Toml := .table .header []
  /-- The names that lead to the table that assignments go to. -/
  current : List String := []

/-- What a line makes of a document. -/
def Document.apply (d : Document) : Line → Option Document
  | .blank => some d
  | .assignment path name value =>
    (change? (changeAt false (assign path name value) d.current) d.root).map fun root =>
      { d with root }
  | .tableHeader path name =>
    (change? (openTable path name) d.root).map fun root => { root, current := path ++ [name] }
  | .arrayHeader path name =>
    (change? (openArray path name) d.root).map fun root => { root, current := path ++ [name] }

/-- The document after the lines of a text. -/
def readLines : Nat → Document → List Char → Option Document
  | 0, _, _ => none
  | fuel + 1, d, cs => do
    let (line, rest) ← readLine (skipBlanks cs)
    let d ← d.apply line
    match skipComment (skipBlanks rest) with
    | [] => return d
    | rest =>
      match afterLineEnd? rest with
      | some next => readLines fuel d next
      | none => none

/-- The text without a byte order mark at its front. -/
def skipMark : List Char → List Char
  | '\uFEFF' :: cs => cs
  | cs => cs

/-- **The members of the table that a text describes.** -/
def parse? (s : String) : Option (List (String × Toml)) :=
  let cs := skipMark s.toList
  match readLines (cs.length + 1) {} cs with
  | some { root := .table _ members, .. } => some members
  | _ => none

end CodeMetrics.Toml
