import FormulaLexer.Json.Reader
import FormulaLexer.Proofs.Text.Integer

/-!
The grammar of JSON text, with what each text stands for. A number stands for the number as it is
written, and a string for the characters that are left when its escapes are undone.
-/

namespace FormulaLexer.Json

/-! ### Strings -/

/-- A sixteen-bit unit in four hexadecimal digits. -/
inductive UnitText : List Char → Nat → Prop
  | mk {a b c d : Char} {i j k l : Nat} (ha : Text.hexValue? a = some i)
      (hb : Text.hexValue? b = some j) (hc : Text.hexValue? c = some k)
      (hd : Text.hexValue? d = some l) : UnitText [a, b, c, d] (((i * 16 + j) * 16 + k) * 16 + l)

/-- The characters that have an escape of one letter. -/
inductive LetterEscape : Char → Char → Prop
  | quote : LetterEscape '"' '"'
  | backslash : LetterEscape '\\' '\\'
  | slash : LetterEscape '/' '/'
  | backspace : LetterEscape 'b' '\x08'
  | formFeed : LetterEscape 'f' '\x0c'
  | lineFeed : LetterEscape 'n' '\n'
  | carriageReturn : LetterEscape 'r' '\r'
  | tab : LetterEscape 't' '\t'

/-- What stands for a character in a string: the character itself, an escape of one letter, its
code point, or the two halves of its surrogate pair. -/
inductive CharText : List Char → Char → Prop
  | plain {c : Char} (hquote : c ≠ '"') (hbackslash : c ≠ '\\') (hcontrol : 0x20 ≤ c.toNat) :
      CharText [c] c
  | letter {letter c : Char} (h : LetterEscape letter c) : CharText ['\\', letter] c
  | unit {digits : List Char} {c : Char} (h : UnitText digits c.toNat) :
      CharText ('\\' :: 'u' :: digits) c
  | pair {first second : List Char} {high low : Nat} {c : Char} (hfirst : UnitText first high)
      (hsecond : UnitText second low) (hhigh : 0xD800 ≤ high ∧ high < 0xDC00)
      (hlow : 0xDC00 ≤ low ∧ low < 0xE000)
      (hc : c.toNat = 0x10000 + (high - 0xD800) * 0x400 + (low - 0xDC00)) :
      CharText ('\\' :: 'u' :: first ++ '\\' :: 'u' :: second) c

/-- What stands between the quotes of a string. -/
inductive CharsText : List Char → List Char → Prop
  | nil : CharsText [] []
  | cons {s t cs : List Char} {c : Char} (hc : CharText s c) (hcs : CharsText t cs) :
      CharsText (s ++ t) (c :: cs)

/-! ### Numbers -/

structure IsDigits (s : List Char) : Prop where
  ne_nil : s ≠ []
  all_digits : ∀ c ∈ s, Text.isDigit c

/-- Digits without a zero in front. -/
structure IsWhole (s : List Char) : Prop extends IsDigits s where
  eq_zero : s.head? = some '0' → s = ['0']

/-- The power of ten that a number is multiplied by. -/
inductive PowerText : List Char → Int → Prop
  | mk {mark : Char} {sign digits : List Char} {factor : Int} (hmark : mark = 'e' ∨ mark = 'E')
      (hsign : Text.Sign sign factor) (hdigits : IsDigits digits) :
      PowerText (mark :: (sign ++ digits)) (factor * Text.ofDigits digits)

/-- The forms of a number without a sign. -/
inductive NaturalText : List Char → Json → Prop
  | whole {whole : List Char} (hwhole : IsWhole whole) :
      NaturalText whole (.int (Text.ofDigits whole))
  | fraction {whole fraction : List Char} (hwhole : IsWhole whole)
      (hfraction : IsDigits fraction) :
      NaturalText (whole ++ '.' :: fraction)
        (.decimal (Text.ofDigits (whole ++ fraction)) (-fraction.length))
  | power {whole power : List Char} {n : Int} (hwhole : IsWhole whole)
      (hpower : PowerText power n) :
      NaturalText (whole ++ power) (.decimal (Text.ofDigits whole) n)
  | fractionPower {whole fraction power : List Char} {n : Int} (hwhole : IsWhole whole)
      (hfraction : IsDigits fraction) (hpower : PowerText power n) :
      NaturalText (whole ++ '.' :: (fraction ++ power))
        (.decimal (Text.ofDigits (whole ++ fraction)) (n - fraction.length))

inductive NumberText : List Char → Json → Prop
  | natural {s : List Char} {value : Json} (h : NaturalText s value) : NumberText s value
  | opposite {s : List Char} {value : Json} (h : NaturalText s value) :
      NumberText ('-' :: s) (opposite value)

/-! ### Values -/

/-- The space that may stand around values, names and marks. -/
def IsSpaces (s : List Char) : Prop := ∀ c ∈ s, isSpace c

/-- The phrases of the grammar, with what their texts stand for. -/
inductive Phrase where
  | value (value : Json)
  /-- A value with space around it. -/
  | element (value : Json)
  /-- The items of a list that is not empty. -/
  | elements (items : List Json)
  | member (name : String) (value : Json)
  /-- The fields of an object that is not empty. -/
  | members (fields : List (String × Json))

/-- The texts of each phrase. -/
inductive Means : List Char → Phrase → Prop
  | nullWord : Means ['n', 'u', 'l', 'l'] (.value .null)
  | trueWord : Means ['t', 'r', 'u', 'e'] (.value (.bool true))
  | falseWord : Means ['f', 'a', 'l', 's', 'e'] (.value (.bool false))
  | number {s : List Char} {value : Json} (h : NumberText s value) : Means s (.value value)
  | string {s cs : List Char} (h : CharsText s cs) :
      Means ('"' :: s ++ ['"']) (.value (.str (String.ofList cs)))
  | emptyList {s : List Char} (h : IsSpaces s) : Means ('[' :: s ++ [']']) (.value (.arr []))
  | list {s : List Char} {items : List Json} (h : Means s (.elements items)) :
      Means ('[' :: s ++ [']']) (.value (.arr items))
  | emptyObject {s : List Char} (h : IsSpaces s) :
      Means ('\x7b' :: s ++ ['\x7d']) (.value (.obj []))
  | object {s : List Char} {fields : List (String × Json)} (h : Means s (.members fields)) :
      Means ('\x7b' :: s ++ ['\x7d']) (.value (.obj fields))
  | element {front s back : List Char} {value : Json} (hfront : IsSpaces front)
      (h : Means s (.value value)) (hback : IsSpaces back) :
      Means (front ++ s ++ back) (.element value)
  | lastElement {s : List Char} {value : Json} (h : Means s (.element value)) :
      Means s (.elements [value])
  | elements {s rest : List Char} {value : Json} {items : List Json}
      (h : Means s (.element value)) (hrest : Means rest (.elements items)) :
      Means (s ++ ',' :: rest) (.elements (value :: items))
  | member {front name back s cs : List Char} {value : Json} (hfront : IsSpaces front)
      (hname : CharsText name cs) (hback : IsSpaces back) (h : Means s (.element value)) :
      Means (front ++ '"' :: (name ++ '"' :: (back ++ ':' :: s)))
        (.member (String.ofList cs) value)
  | lastMember {s : List Char} {name : String} {value : Json} (h : Means s (.member name value)) :
      Means s (.members [(name, value)])
  | members {s rest : List Char} {name : String} {value : Json} {fields : List (String × Json)}
      (h : Means s (.member name value)) (hrest : Means rest (.members fields)) :
      Means (s ++ ',' :: rest) (.members ((name, value) :: fields))

/-- The text is the form of the value, with space around it. -/
def IsText (s : List Char) (value : Json) : Prop := Means s (.element value)

end FormulaLexer.Json
