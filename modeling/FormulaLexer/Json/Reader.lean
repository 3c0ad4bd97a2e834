import FormulaLexer.Json.Basic
import FormulaLexer.Text.Hex
import FormulaLexer.Text.Integer

/-!
Values read from JSON text. Two escapes side by side that are the halves of a surrogate pair
give one character; a half on its own is refused.
-/

namespace FormulaLexer.Json

/-- Whether a character may stand around values, names and marks. -/
def isSpace (c : Char) : Bool := c == ' ' || c == '\t' || c == '\n' || c == '\r'

def skipSpace (s : List Char) : List Char := s.dropWhile isSpace

/-- Drops a mark and the space in front of it. -/
def mark? (mark : Char) (s : List Char) : Option (List Char) :=
  match skipSpace s with
  | [] => none
  | c :: rest => if c = mark then some rest else none

/-! Strings. -/

/-- Whether a sixteen-bit unit is the first half of a surrogate pair. -/
def isHighSurrogate (unit : Nat) : Bool := 0xD800 ≤ unit && unit < 0xDC00

/-- Whether a sixteen-bit unit is the second half of a surrogate pair. -/
def isLowSurrogate (unit : Nat) : Bool := 0xDC00 ≤ unit && unit < 0xE000

def joinSurrogates (high low : Nat) : Char :=
  Char.ofNat (0x10000 + (high - 0xD800) * 0x400 + (low - 0xDC00))

/-- Reads a sixteen-bit unit in four hexadecimal digits. -/
def unit? : List Char → Option (Nat × List Char)
  | a :: b :: c :: d :: rest => do
    let a ← Text.hexValue? a
    let b ← Text.hexValue? b
    let c ← Text.hexValue? c
    let d ← Text.hexValue? d
    return (((a * 16 + b) * 16 + c) * 16 + d, rest)
  | _ => none

/-- Reads the second half of a surrogate pair, with the backslash in front of it. -/
def lowSurrogate? : List Char → Option (Nat × List Char)
  | '\\' :: 'u' :: s => (unit? s).filter fun unit => isLowSurrogate unit.1
  | _ => none

def letterEscape? (c : Char) : Option Char :=
  if c = '"' || c = '\\' || c = '/' then some c
  else if c = 'n' then some '\n'
  else if c = 'r' then some '\r'
  else if c = 't' then some '\t'
  else if c = 'f' then some '\x0c'
  else if c = 'b' then some '\x08'
  else none

/-- Reads the rest of an escape, behind its backslash. -/
def escape? : List Char → Option (Char × List Char)
  | [] => none
  | c :: s =>
    if c = 'u' then do
      let (unit, s) ← unit? s
      if isHighSurrogate unit then
        let (low, s) ← lowSurrogate? s
        return (joinSurrogates unit low, s)
      else if isLowSurrogate unit then none
      else return (Char.ofNat unit, s)
    else (letterEscape? c).map (·, s)

theorem length_unit?_lt {s rest : List Char} {unit : Nat} (h : unit? s = some (unit, rest)) :
    rest.length < s.length := by
  unfold unit? at h
  split at h
  · simp only [Option.bind_eq_bind, Option.bind_eq_some_iff, Option.pure_def, Option.some.injEq,
      Prod.mk.injEq] at h
    obtain ⟨_, _, _, _, _, _, _, _, _, rfl⟩ := h
    simp only [List.length_cons]
    omega
  · contradiction

theorem length_lowSurrogate?_lt {s rest : List Char} {low : Nat}
    (h : lowSurrogate? s = some (low, rest)) : rest.length < s.length := by
  unfold lowSurrogate? at h
  split at h
  · have := length_unit?_lt (Option.filter_eq_some_iff.1 h).1
    simp only [List.length_cons]
    omega
  · contradiction

theorem length_escape?_lt {s rest : List Char} {c : Char} (h : escape? s = some (c, rest)) :
    rest.length < s.length := by
  unfold escape? at h
  split at h
  · contradiction
  · simp only [List.length_cons]
    split at h
    · simp only [Option.bind_eq_bind, Option.bind_eq_some_iff] at h
      obtain ⟨⟨unit, afterUnit⟩, hunit, h⟩ := h
      have hlt := length_unit?_lt hunit
      split at h
      · simp only [Option.bind_eq_some_iff, Option.pure_def, Option.some.injEq,
          Prod.mk.injEq] at h
        obtain ⟨⟨low, afterLow⟩, hlow, _, rfl⟩ := h
        have := length_lowSurrogate?_lt hlow
        simp only
        omega
      · split at h
        · contradiction
        · simp only [Option.pure_def, Option.some.injEq, Prod.mk.injEq] at h
          obtain ⟨_, rfl⟩ := h
          omega
    · simp only [Option.map_eq_some_iff, Prod.mk.injEq] at h
      obtain ⟨_, _, _, rfl⟩ := h
      omega

/-- Reads the rest of a string, behind its quote and the characters given in reverse. -/
def stringRest? (before : List Char) (s : List Char) : Option (String × List Char) :=
  match s with
  | [] => none
  | c :: rest =>
    if c = '"' then some (String.ofList before.reverse, rest)
    else if c = '\\' then
      match _h : escape? rest with
      | none => none
      | some (escaped, rest) => stringRest? (escaped :: before) rest
    else if c.toNat < 0x20 then none
    else stringRest? (c :: before) rest
termination_by s.length
decreasing_by
  · have := length_escape?_lt _h
    simp only [List.length_cons]
    omega
  · simp

/-! Numbers. -/

def digits? (s : List Char) : Option (List Char × List Char) :=
  if (s.takeWhile Text.isDigit).isEmpty then none
  else some (s.takeWhile Text.isDigit, s.dropWhile Text.isDigit)

/-- Reads digits without a zero in front. -/
def wholePart? (s : List Char) : Option (List Char × List Char) :=
  (digits? s).filter fun (digits, _) => digits.head? != some '0' || digits.length == 1

/-- Reads a point and the digits behind it. Where there is no point there are no digits. -/
def fraction? : List Char → Option (List Char × List Char)
  | '.' :: s => digits? s
  | s => some ([], s)

/-- Reads a natural number with a sign, if there is one. -/
def power? : List Char → Option (Int × List Char)
  | '-' :: s => (digits? s).map fun (digits, s) => (-(Text.ofDigits digits : Int), s)
  | '+' :: s => (digits? s).map fun (digits, s) => ((Text.ofDigits digits : Int), s)
  | s => (digits? s).map fun (digits, s) => ((Text.ofDigits digits : Int), s)

def exponent? : List Char → Option (Option Int × List Char)
  | [] => some (none, [])
  | c :: s =>
    if c = 'e' || c = 'E' then (power? s).map fun (power, s) => (some power, s)
    else some (none, c :: s)

def natural? (s : List Char) : Option (Json × List Char) := do
  let (whole, s) ← wholePart? s
  let (fraction, s) ← fraction? s
  let (power?, s) ← exponent? s
  let mantissa : Int := Text.ofDigits (whole ++ fraction)
  return match fraction, power? with
    | [], none => (int mantissa, s)
    | _, _ => (decimal mantissa (power?.getD 0 - fraction.length), s)

def opposite : Json → Json
  | int value => int (-value)
  | decimal mantissa exponent => decimal (-mantissa) exponent
  | value => value

def number? : List Char → Option (Json × List Char)
  | '-' :: s => (natural? s).map fun (value, s) => (opposite value, s)
  | s => natural? s

/-! Values. -/

/-- Reads the rest of the word for a value. -/
def wordRest? (word : String) (value : Json) (s : List Char) : Option (Json × List Char) :=
  if word.toList.isPrefixOf s then some (value, s.drop word.length) else none

mutual

/-- Reads a value. Each value, each further item and each further field takes one from the
fuel. -/
def value? : Nat → List Char → Option (Json × List Char)
  | 0, _ => none
  | fuel + 1, s =>
    match skipSpace s with
    | [] => none
    | c :: rest =>
      if c = '"' then (stringRest? [] rest).map fun (text, s) => (str text, s)
      else if c = '[' then
        match mark? ']' rest with
        | some s => some (arr [], s)
        | none => items? fuel [] rest
      else if c = '\x7b' then
        match mark? '\x7d' rest with
        | some s => some (obj [], s)
        | none => fields? fuel [] rest
      else if c = 'n' then wordRest? "ull" null rest
      else if c = 't' then wordRest? "rue" (bool true) rest
      else if c = 'f' then wordRest? "alse" (bool false) rest
      else number? (c :: rest)

/-- Reads the rest of a list, behind the items given in reverse. -/
def items? : Nat → List Json → List Char → Option (Json × List Char)
  | 0, _, _ => none
  | fuel + 1, before, s => do
    let (item, s) ← value? fuel s
    match mark? ',' s with
    | some s => items? fuel (item :: before) s
    | none => do
      let s ← mark? ']' s
      return (arr (item :: before).reverse, s)

/-- Reads the rest of an object, behind the fields given in reverse. -/
def fields? : Nat → List (String × Json) → List Char → Option (Json × List Char)
  | 0, _, _ => none
  | fuel + 1, before, s => do
    let s ← mark? '"' s
    let (name, s) ← stringRest? [] s
    let s ← mark? ':' s
    let (value, s) ← value? fuel s
    match mark? ',' s with
    | some s => fields? fuel ((name, value) :: before) s
    | none => do
      let s ← mark? '\x7d' s
      return (obj ((name, value) :: before).reverse, s)

end

/-- The value that a text is the form of, with space around it. Two for each character is fuel
enough, as a value takes one before its first character and one before its next. -/
def ofText? (text : String) : Option Json := do
  let s := text.toList
  let (value, rest) ← value? (2 * s.length + 2) s
  if (skipSpace rest).isEmpty then some value else none

end FormulaLexer.Json
