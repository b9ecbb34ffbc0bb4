import CodeMetrics.Json.Parser
import CodeMetrics.Json.Printer
import Mathlib.Data.List.Basic

/-!
# Written JSON is read back

Reading a value that was written over several lines gives the value again (`Json.parse?_pretty`).
The one exception is a number that keeps its text, which need not be the text of a number; a value
without one is `Json.Plain`.

A value is written in front of what follows it, and reading it gives back what follows, so the
statements are about any tail. Two things are asked of a tail. It must not go on with a number:
`Json.Stops`. And the reader is bounded by a number of steps, of which it needs no more than there
are characters before the tail.
-/

namespace CodeMetrics.Json

/-- The values whose numbers are all natural. -/
inductive Plain : Json → Prop
  | null : Plain .null
  | bool (b : Bool) : Plain (.bool b)
  | nat (n : Nat) : Plain (.nat n)
  | str (s : String) : Plain (.str s)
  | arr {es : List Json} (h : ∀ e ∈ es, Plain e) : Plain (.arr es)
  | obj {ms : List (String × Json)} (h : ∀ m ∈ ms, Plain m.2) : Plain (.obj ms)

/-- What follows a value where a value may end: nothing, a comma, or the end of the line. -/
def Stops (tail : List Char) : Prop := ∀ c ∈ tail.head?, c = ',' ∨ c = '\n'

theorem stops_comma (cs : List Char) : Stops (',' :: cs) := by
  simp [Stops]

theorem stops_lineStart (level : Nat) (cs : List Char) : Stops (lineStart level ++ cs) := by
  simp [Stops, lineStart]

/-! ### Blanks -/

theorem skipBlanks_lineStart (level : Nat) (cs : List Char) :
    skipBlanks (lineStart level ++ cs) = skipBlanks cs := by
  have hblank : ∀ c ∈ lineStart level, isBlank c := by
    simp only [lineStart, List.mem_cons, List.mem_replicate]
    rintro c (rfl | ⟨-, rfl⟩) <;> decide
  exact List.dropWhile_append_of_pos hblank

theorem skipBlanks_cons {c : Char} (h : isBlank c = false) (cs : List Char) :
    skipBlanks (c :: cs) = c :: cs := List.dropWhile_cons_of_neg (by simp [h])

/-- Blanks before a value make no difference. -/
theorem readValue_congr {cs ds : List Char} (h : skipBlanks cs = skipBlanks ds) (fuel : Nat) :
    readValue fuel cs = readValue fuel ds := by
  cases fuel with
  | zero => simp [readValue]
  | succ fuel => rw [readValue, readValue, h]

theorem readValue_lineStart (level fuel : Nat) (cs : List Char) :
    readValue fuel (lineStart level ++ cs) = readValue fuel cs :=
  readValue_congr (skipBlanks_lineStart level cs) fuel

theorem readValue_space (fuel : Nat) (cs : List Char) :
    readValue fuel (' ' :: cs) = readValue fuel cs :=
  readValue_congr (List.dropWhile_cons_of_pos (by decide)) fuel

/-! ### Strings -/

theorem hex4?_hexDigit {n : Nat} (h : n < 0x20) :
    hex4? '0' '0' (hexDigit (n / 16)) (hexDigit (n % 16)) = some n := by
  revert n
  decide

/-- A character that is written as it is. -/
theorem readString_cons {c : Char} (hquote : c ≠ '"') (hbackslash : c ≠ '\\')
    (hcontrol : ¬c.toNat < 0x20) (cs : List Char) :
    readString (c :: cs) = (readString cs).map fun (s, r) => (c :: s, r) := by
  have hplain : (decide (c.toNat < 0x20) || c == '\\') = false := by simp [hcontrol, hbackslash]
  rw [readString.eq_def]
  split
  · next heq => cases heq
  · next heq => exact absurd (List.cons.inj heq).1 hquote
  · next heq => exact absurd (List.cons.inj heq).1 hbackslash
  · next heq => exact absurd (List.cons.inj heq).1 hbackslash
  · next heq =>
    obtain ⟨rfl, rfl⟩ := List.cons.inj heq
    rw [hplain, if_neg Bool.false_ne_true]

/-- A control character that is written by its number. -/
theorem readString_unicode {c : Char} (h : c.toNat < 0x20) (cs : List Char) :
    readString ('\\' :: 'u' :: '0' :: '0' :: hexDigit (c.toNat / 16) :: hexDigit (c.toNat % 16) ::
      cs) = (readString cs).map fun (s, r) => (c :: s, r) := by
  have hhigh : ¬0xD800 ≤ c.toNat := by omega
  have hlow : ¬0xDC00 ≤ c.toNat := by omega
  simp [readString, hex4?_hexDigit h, hhigh, hlow]

/-- **A character that was written is read back.** -/
theorem readString_escapeChar (c : Char) (cs : List Char) :
    readString (escapeChar c ++ cs) = (readString cs).map fun (s, r) => (c :: s, r) := by
  unfold escapeChar
  split_ifs with hquote hbackslash hb ht hn hf hr hcontrol
  case pos | pos | pos | pos | pos | pos | pos =>
    subst c
    simp [readString, simpleEscape?]
  · exact readString_unicode hcontrol cs
  · exact readString_cons hquote hbackslash hcontrol cs

theorem readString_flatMap_escapeChar (cs tail : List Char) :
    readString (cs.flatMap escapeChar ++ '"' :: tail) = some (cs, tail) := by
  induction cs with
  | nil => simp [readString]
  | cons c cs ih => simp [readString_escapeChar, ih]

/-! ### Numbers -/

theorem isDigit_of_mem_digits {n : Nat} {c : Char} (h : c ∈ digits n) : c.isDigit :=
  Nat.isDigit_of_mem_toDigits (by decide) (by decide) h

/-- A number is written without leading zeros. -/
theorem head?_digits_ne_zero {n : Nat} (h : 0 < n) : (digits n).head? ≠ some '0' := by
  unfold digits
  induction n using Nat.strongRecOn with
  | ind n ih =>
    by_cases hn : n < 10
    · rw [Nat.toDigits_of_lt_base hn]
      simpa using Nat.ne_of_gt h
    · rw [Nat.toDigits_of_base_le (by decide) (by omega), List.head?_append_of_ne_nil]
      · exact ih (n / 10) (by omega) (by omega)
      · exact Nat.toDigits_ne_nil

theorem digitsValue_digits (n : Nat) : digitsValue (digits n) = n := by
  have hfold : digitsValue (digits n) = Nat.ofDigitChars 10 (Nat.toDigits 10 n) 0 := by
    simp only [digitsValue, digits, Nat.ofDigitChars, Nat.mul_comm]
  rw [hfold, Nat.ofDigitChars_toDigits (by decide) (by decide)]

section Tail

variable {tail : List Char} (h : Stops tail)
include h

theorem Stops.takeWhile_eq : tail.takeWhile Char.isDigit = [] := by
  cases tail with
  | nil => rfl
  | cons c cs => rcases h c rfl with rfl | rfl <;> rfl

theorem Stops.dropWhile_eq : tail.dropWhile Char.isDigit = tail := by
  cases tail with
  | nil => rfl
  | cons c cs => rcases h c rfl with rfl | rfl <;> rfl

theorem Stops.readFraction_eq : readFraction tail = some ([], tail) := by
  cases tail with
  | nil => rfl
  | cons c cs => rcases h c rfl with rfl | rfl <;> rfl

theorem Stops.readExponent_eq : readExponent tail = some ([], tail) := by
  cases tail with
  | nil => rfl
  | cons c cs => rcases h c rfl with rfl | rfl <;> rfl

/-- **A number that was written is read back.** -/
theorem readNumber_digits (n : Nat) : readNumber (digits n ++ tail) = some (.nat n, tail) := by
  have htake : (digits n ++ tail).takeWhile Char.isDigit = digits n := by
    rw [List.takeWhile_append_of_pos fun c => isDigit_of_mem_digits, h.takeWhile_eq,
      List.append_nil]
  have hdrop : (digits n ++ tail).dropWhile Char.isDigit = tail := by
    rw [List.dropWhile_append_of_pos fun c => isDigit_of_mem_digits, h.dropWhile_eq]
  have hzero : ((digits n).head? == some '0' && (digits n).length > 1) = false := by
    rcases Nat.eq_zero_or_pos n with rfl | hn
    · rfl
    · simp [head?_digits_ne_zero hn]
  have hempty : (digits n).isEmpty = false := by simp [digits]
  have hminus : ∀ rest, digits n ++ tail ≠ '-' :: rest := fun rest heq => by
    cases hd : digits n with
    | nil => simp [hd] at hempty
    | cons d ds =>
      rw [hd] at heq
      obtain ⟨rfl, -⟩ := List.cons.inj heq
      exact absurd (isDigit_of_mem_digits (n := n) (by simp [hd])) (by decide : ¬ '-'.isDigit)
  unfold readNumber
  simp [htake, hdrop, hempty, hzero, h.readFraction_eq, h.readExponent_eq, digitsValue_digits]

end Tail

/-! ### Values -/

/-- **A value that is read back where it was written.** It is written in front of what follows it,
and its first character is not blank and does not close an array. -/
structure ReadsBack (v : Json) : Prop where
  append_eq (level : Nat) (tail : List Char) :
    prettyWith level v tail = prettyWith level v [] ++ tail
  head (level : Nat) : ∃ c cs, prettyWith level v [] = c :: cs ∧ isBlank c = false ∧ c ≠ ']'
  readValue_eq {level fuel : Nat} {tail : List Char} (hlen : (prettyWith level v []).length ≤ fuel)
    (hstop : Stops tail) : readValue fuel (prettyWith level v tail) = some (v, tail)

/-- What is left to show of a value that is written as a first character and a text after it. -/
theorem ReadsBack.of_cons {v : Json} (c : Char) (text : Nat → List Char)
    (heq : ∀ level tail, prettyWith level v tail = c :: (text level ++ tail))
    (hblank : isBlank c = false) (hclose : c ≠ ']')
    (hread : ∀ level fuel tail, (text level).length ≤ fuel → Stops tail →
      readValue (fuel + 1) (c :: (text level ++ tail)) = some (v, tail)) : v.ReadsBack where
  append_eq level tail := by simp [heq]
  head level := ⟨c, text level ++ [], heq level [], hblank, hclose⟩
  readValue_eq {level fuel tail} hlen hstop := by
    rw [heq, List.append_nil, List.length_cons] at hlen
    obtain ⟨fuel, rfl⟩ : ∃ k, fuel = k + 1 := ⟨fuel - 1, by omega⟩
    rw [heq]
    exact hread level fuel tail (by omega) hstop

theorem isBlank_of_isDigit {d : Char} (h : d.isDigit) : isBlank d = false := by
  simp only [isBlank, Bool.or_eq_false_iff, beq_eq_false_iff_ne]
  refine ⟨⟨⟨?_, ?_⟩, ?_⟩, ?_⟩ <;> rintro rfl <;> exact absurd h (by decide)

theorem readValue_digit {d : Char} (h : d.isDigit) (fuel : Nat) (cs : List Char) :
    readValue (fuel + 1) (d :: cs) = readNumber (d :: cs) := by
  rw [readValue, skipBlanks_cons (isBlank_of_isDigit h)]
  split
  case h_1 heq => cases heq
  case h_8 heq => rw [heq]
  all_goals
    next heq =>
      obtain ⟨rfl, -⟩ := List.cons.inj heq
      exact absurd h (by decide)

theorem readsBack_nat (n : Nat) : (Json.nat n).ReadsBack := by
  cases hd : digits n with
  | nil => simp [digits] at hd
  | cons d ds =>
    have hdigit : d.isDigit := isDigit_of_mem_digits (n := n) (by simp [hd])
    have hclose : d ≠ ']' := by
      rintro rfl
      exact absurd hdigit (by decide)
    refine .of_cons d (fun _ => ds) (fun _ _ => by simp [prettyWith, hd])
      (isBlank_of_isDigit hdigit) hclose fun _ fuel tail _ hstop => ?_
    rw [readValue_digit hdigit, ← List.cons_append, ← hd, readNumber_digits hstop]

theorem readsBack_str (s : String) : (Json.str s).ReadsBack := by
  refine .of_cons '"' (fun _ => s.toList.flatMap escapeChar ++ ['"'])
    (fun _ _ => by simp [prettyWith, quote]) (by decide) (by decide) fun _ fuel tail _ _ => ?_
  rw [readValue, skipBlanks_cons (by decide)]
  simp [readString_flatMap_escapeChar]

/-! ### Arrays and objects

What an array or an object holds is read on with one step less for each element or member, of which
every one takes up more than one character. -/

theorem length_lineStart_pos (level : Nat) : 0 < (lineStart level).length := by
  simp [lineStart]

theorem prettyElements_append {es : List Json} (h : ∀ e ∈ es, e.ReadsBack) (level : Nat)
    (tail : List Char) : prettyElements level es tail = prettyElements level es [] ++ tail := by
  induction es with
  | nil => simp [prettyElements]
  | cons e es ih =>
    have he := (h e List.mem_cons_self).append_eq level
    rw [prettyElements, prettyElements, he, he (prettyElements level es []),
      ih fun e he => h e (List.mem_cons_of_mem _ he)]
    simp

theorem prettyMembers_append {ms : List (String × Json)} (h : ∀ m ∈ ms, m.2.ReadsBack)
    (level : Nat) (tail : List Char) :
    prettyMembers level ms tail = prettyMembers level ms [] ++ tail := by
  induction ms with
  | nil => simp [prettyMembers]
  | cons m ms ih =>
    have hv := (h m List.mem_cons_self).append_eq level
    rw [prettyMembers, prettyMembers, hv, hv (prettyMembers level ms []),
      ih fun m hm => h m (List.mem_cons_of_mem _ hm)]
    simp

theorem stops_prettyElements (level k : Nat) (es : List Json) (cs : List Char) :
    Stops (prettyElements level es (lineStart k ++ cs)) := by
  cases es with
  | nil => exact stops_lineStart k cs
  | cons e es => exact stops_comma _

theorem stops_prettyMembers (level k : Nat) (ms : List (String × Json)) (cs : List Char) :
    Stops (prettyMembers level ms (lineStart k ++ cs)) := by
  cases ms with
  | nil => exact stops_lineStart k cs
  | cons m ms => exact stops_comma _

theorem length_prettyElements_cons {e : Json} (h : e.ReadsBack) (level : Nat) (es : List Json) :
    (prettyElements level (e :: es) []).length =
      (lineStart level).length + (prettyWith level e []).length +
        (prettyElements level es []).length + 1 := by
  rw [prettyElements, h.append_eq]
  simp only [List.length_cons, List.length_append]
  omega

theorem length_prettyMembers_cons {name : String} {v : Json} (h : v.ReadsBack) (level : Nat)
    (ms : List (String × Json)) : (prettyMembers level ((name, v) :: ms) []).length =
      (lineStart level).length + (quote name).length + (prettyWith level v []).length +
        (prettyMembers level ms []).length + 3 := by
  rw [prettyMembers, h.append_eq]
  simp only [List.length_cons, List.length_append]
  omega

/-- **Elements that were written are read back**, up to the bracket that closes them. -/
theorem readElements_pretty {e : Json} {es : List Json} (h : ∀ v ∈ e :: es, v.ReadsBack)
    {level k fuel : Nat} {tail : List Char}
    (hlen : (prettyElements level (e :: es) []).length ≤ fuel + 1) :
    readElements fuel (lineStart level ++ prettyWith level e
      (prettyElements level es (lineStart k ++ ']' :: tail))) = some (e :: es, tail) := by
  induction es generalizing e fuel with
  | nil =>
    have he : e.ReadsBack := h e List.mem_cons_self
    have hline := length_lineStart_pos level
    rw [length_prettyElements_cons he] at hlen
    obtain ⟨fuel, rfl⟩ : ∃ j, fuel = j + 1 := ⟨fuel - 1, by omega⟩
    have hfuel : (prettyWith level e []).length ≤ fuel := by omega
    rw [readElements, readValue_lineStart, prettyElements,
      he.readValue_eq hfuel (stops_lineStart k _)]
    simp [skipBlanks_lineStart, skipBlanks_cons, isBlank]
  | cons e' es ih =>
    have he : e.ReadsBack := h e List.mem_cons_self
    have hes : ∀ v ∈ e' :: es, v.ReadsBack := fun v hv => h v (List.mem_cons_of_mem _ hv)
    have hline := length_lineStart_pos level
    rw [length_prettyElements_cons he] at hlen
    obtain ⟨fuel, rfl⟩ : ∃ j, fuel = j + 1 := ⟨fuel - 1, by omega⟩
    have hfuel : (prettyWith level e []).length ≤ fuel := by omega
    have hrest : (prettyElements level (e' :: es) []).length ≤ fuel + 1 := by omega
    rw [readElements, readValue_lineStart,
      he.readValue_eq hfuel (stops_prettyElements level k _ _), prettyElements]
    simp [skipBlanks_cons, isBlank, ih hes hrest]

theorem skipBlanks_member (level : Nat) (name : String) (cs : List Char) :
    skipBlanks (lineStart level ++ quote name ++ cs) =
      '"' :: (name.toList.flatMap escapeChar ++ '"' :: cs) := by
  simp [quote, skipBlanks_lineStart, skipBlanks_cons, isBlank]

section Member

variable {level fuel : Nat} {cs rest : List Char} {v : Json} (name : String)

/-- A member that another one follows. -/
theorem readMembers_comma (hv : readValue fuel cs = some (v, ',' :: rest)) :
    readMembers (fuel + 1) (lineStart level ++ quote name ++ ':' :: ' ' :: cs) =
      (readMembers fuel rest).map fun (ms, r) => ((name, v) :: ms, r) := by
  rw [readMembers, skipBlanks_member]
  simp [readString_flatMap_escapeChar, skipBlanks_cons, isBlank, readValue_space, hv]

/-- The last member of an object. -/
theorem readMembers_close {k : Nat}
    (hv : readValue fuel cs = some (v, lineStart k ++ '}' :: rest)) :
    readMembers (fuel + 1) (lineStart level ++ quote name ++ ':' :: ' ' :: cs) =
      some ([(name, v)], rest) := by
  rw [readMembers, skipBlanks_member]
  simp [readString_flatMap_escapeChar, skipBlanks_cons, skipBlanks_lineStart, isBlank,
    readValue_space, hv]

end Member

/-- **Members that were written are read back**, up to the brace that closes them. -/
theorem readMembers_pretty {name : String} {v : Json} {ms : List (String × Json)}
    (h : ∀ m ∈ (name, v) :: ms, m.2.ReadsBack) {level k fuel : Nat} {tail : List Char}
    (hlen : (prettyMembers level ((name, v) :: ms) []).length ≤ fuel + 1) :
    readMembers fuel (lineStart level ++ quote name ++ ':' :: ' ' :: prettyWith level v
      (prettyMembers level ms (lineStart k ++ '}' :: tail))) = some ((name, v) :: ms, tail) := by
  induction ms generalizing name v fuel with
  | nil =>
    have hv : v.ReadsBack := h (name, v) List.mem_cons_self
    rw [length_prettyMembers_cons hv] at hlen
    obtain ⟨fuel, rfl⟩ : ∃ j, fuel = j + 1 := ⟨fuel - 1, by omega⟩
    have hfuel : (prettyWith level v []).length ≤ fuel := by omega
    exact readMembers_close name (hv.readValue_eq hfuel (stops_lineStart k _))
  | cons m ms ih =>
    obtain ⟨name', v'⟩ := m
    have hv : v.ReadsBack := h (name, v) List.mem_cons_self
    have hms : ∀ m ∈ (name', v') :: ms, m.2.ReadsBack := fun m hm => h m (List.mem_cons_of_mem _ hm)
    rw [length_prettyMembers_cons hv] at hlen
    obtain ⟨fuel, rfl⟩ : ∃ j, fuel = j + 1 := ⟨fuel - 1, by omega⟩
    have hfuel : (prettyWith level v []).length ≤ fuel := by omega
    have hrest : (prettyMembers level ((name', v') :: ms) []).length ≤ fuel + 1 := by omega
    have hvalue := hv.readValue_eq hfuel
      (stops_prettyMembers level k ((name', v') :: ms) ('}' :: tail))
    rw [prettyMembers] at hvalue
    rw [prettyMembers, readMembers_comma name hvalue, ih hms hrest]
    rfl

theorem readsBack_arr {es : List Json} (h : ∀ e ∈ es, e.ReadsBack) : (Json.arr es).ReadsBack := by
  cases es with
  | nil =>
    refine .of_cons '[' (fun _ => [']']) (fun _ _ => by simp [prettyWith]) (by decide)
      (by decide) fun _ fuel tail _ _ => ?_
    simp [readValue, skipBlanks_cons, isBlank]
  | cons e es =>
    have he : e.ReadsBack := h e List.mem_cons_self
    have hes : ∀ v ∈ es, v.ReadsBack := fun v hv => h v (List.mem_cons_of_mem _ hv)
    have htext : ∀ level tail, lineStart (level + 1) ++ prettyWith (level + 1) e
        (prettyElements (level + 1) es (lineStart level ++ ']' :: tail)) =
        lineStart (level + 1) ++ prettyWith (level + 1) e [] ++
          prettyElements (level + 1) es [] ++ lineStart level ++ [']'] ++ tail := by
      intro level tail
      rw [he.append_eq, prettyElements_append hes]
      simp
    refine .of_cons '[' (fun level => lineStart (level + 1) ++ prettyWith (level + 1) e [] ++
      prettyElements (level + 1) es [] ++ lineStart level ++ [']'])
      (fun level tail => by rw [prettyWith, htext]) (by decide) (by decide)
      fun level fuel tail hlen _ => ?_
    have hfuel : (prettyElements (level + 1) (e :: es) []).length ≤ fuel + 1 := by
      rw [length_prettyElements_cons he]
      simp only [List.length_append] at hlen
      omega
    -- the array is not closed at once, since its first element does not begin with a bracket
    obtain ⟨c, cs, hhead, hblank, hclose⟩ := he.head (level + 1)
    have hskip : skipBlanks (lineStart (level + 1) ++ prettyWith (level + 1) e
        (prettyElements (level + 1) es (lineStart level ++ ']' :: tail))) =
        c :: (cs ++ prettyElements (level + 1) es (lineStart level ++ ']' :: tail)) := by
      rw [skipBlanks_lineStart, he.append_eq, hhead, List.cons_append, skipBlanks_cons hblank]
    rw [← htext, readValue, skipBlanks_cons (by decide)]
    simp [hskip, hclose, readElements_pretty h hfuel]

theorem readsBack_obj {ms : List (String × Json)} (h : ∀ m ∈ ms, m.2.ReadsBack) :
    (Json.obj ms).ReadsBack := by
  cases ms with
  | nil =>
    refine .of_cons '{' (fun _ => ['}']) (fun _ _ => by simp [prettyWith]) (by decide)
      (by decide) fun _ fuel tail _ _ => ?_
    simp [readValue, skipBlanks_cons, isBlank]
  | cons m ms =>
    obtain ⟨name, v⟩ := m
    have hv : v.ReadsBack := h (name, v) List.mem_cons_self
    have hms : ∀ m ∈ ms, m.2.ReadsBack := fun m hm => h m (List.mem_cons_of_mem _ hm)
    have htext : ∀ level tail, lineStart (level + 1) ++ quote name ++ ':' :: ' ' ::
        prettyWith (level + 1) v (prettyMembers (level + 1) ms (lineStart level ++ '}' :: tail)) =
        lineStart (level + 1) ++ quote name ++ ':' :: ' ' :: prettyWith (level + 1) v [] ++
          prettyMembers (level + 1) ms [] ++ lineStart level ++ ['}'] ++ tail := by
      intro level tail
      rw [hv.append_eq, prettyMembers_append hms]
      simp
    refine .of_cons '{' (fun level => lineStart (level + 1) ++ quote name ++ ':' :: ' ' ::
      prettyWith (level + 1) v [] ++ prettyMembers (level + 1) ms [] ++ lineStart level ++ ['}'])
      (fun level tail => by rw [prettyWith, htext]) (by decide) (by decide)
      fun level fuel tail hlen _ => ?_
    have hfuel : (prettyMembers (level + 1) ((name, v) :: ms) []).length ≤ fuel + 1 := by
      rw [length_prettyMembers_cons hv]
      simp only [List.length_append, List.length_cons] at hlen
      omega
    rw [← htext, readValue, skipBlanks_cons (by decide)]
    simp [-List.append_assoc, skipBlanks_member, readMembers_pretty h hfuel]

theorem readsBack_bool (b : Bool) : (Json.bool b).ReadsBack := by
  cases b with
  | false =>
    refine .of_cons 'f' (fun _ => "alse".toList) (fun _ _ => by simp [prettyWith, boolText])
      (by decide) (by decide) fun _ fuel tail _ _ => ?_
    simp [readValue, skipBlanks_cons, isBlank, afterWord?]
  | true =>
    refine .of_cons 't' (fun _ => "rue".toList) (fun _ _ => by simp [prettyWith, boolText])
      (by decide) (by decide) fun _ fuel tail _ _ => ?_
    simp [readValue, skipBlanks_cons, isBlank, afterWord?]

theorem readsBack_null : Json.null.ReadsBack := by
  refine .of_cons 'n' (fun _ => "ull".toList) (fun _ _ => by simp [prettyWith]) (by decide)
    (by decide) fun _ fuel tail _ _ => ?_
  simp [readValue, skipBlanks_cons, isBlank, afterWord?]

/-- **A value whose numbers are natural is read back where it was written.** -/
theorem Plain.readsBack {v : Json} (h : v.Plain) : v.ReadsBack := by
  induction h with
  | null => exact readsBack_null
  | bool b => exact readsBack_bool b
  | nat n => exact readsBack_nat n
  | str s => exact readsBack_str s
  | arr _ ih => exact readsBack_arr ih
  | obj _ ih => exact readsBack_obj ih

/-- **The text that a value is written as is read as the value**, with a line end after it. -/
theorem parse?_pretty {v : Json} (h : v.Plain) : parse? (v.pretty ++ "\n") = some v := by
  have htext : (v.pretty ++ "\n").toList = prettyWith 0 v ['\n'] := by
    rw [h.readsBack.append_eq]
    simp [pretty]
  have hlen : (prettyWith 0 v []).length ≤ (prettyWith 0 v ['\n']).length + 1 := by
    rw [h.readsBack.append_eq 0 ['\n'], List.length_append]
    omega
  have hstop : Stops ['\n'] := by simp [Stops]
  simp only [parse?, htext, h.readsBack.readValue_eq hlen hstop]
  rfl

end CodeMetrics.Json
