import Mathlib.Data.Int.Notation
import Mathlib.Data.Nat.Notation

/-!
# Typed text

What the Python tools do with a line of text: `str.strip`, `str.lower`, `int(text)` and the
splitting of a line of values at commas or at white space. White space and decimal digits are those
of Unicode, and `int` takes less for white space than `str.strip`.
-/

set_option autoImplicit false
set_option relaxedAutoImplicit false

namespace CanopenTools.Tools

/-! ### White space -/

/-- `str.isspace`, for one character. -/
def isSpace (char : Char) : Bool :=
  let code := char.toNat
  (9 ≤ code && code ≤ 13) || (28 ≤ code && code ≤ 32) || code == 0x85 || code == 0xA0 ||
    code == 0x1680 || (0x2000 ≤ code && code ≤ 0x200A) || code == 0x2028 || code == 0x2029 ||
    code == 0x202F || code == 0x205F || code == 0x3000

/-- The characters without those of a kind at both ends. -/
def stripBy (space : Char → Bool) (chars : List Char) : List Char :=
  ((chars.dropWhile space).reverse.dropWhile space).reverse

/-- `str.strip`, on the characters. -/
def stripChars (chars : List Char) : List Char := stripBy isSpace chars

/-- `text.strip()`. -/
def strip (text : String) : String := String.ofList (stripChars text.toList)

/-! ### Integers -/

/-- The zeros of the decimal digits of Unicode. Each of them is followed by the digits one to nine.
-/
def decimalZeros : List ℕ :=
  [0x30, 0x660, 0x6F0, 0x7C0, 0x966, 0x9E6, 0xA66, 0xAE6, 0xB66, 0xBE6, 0xC66, 0xCE6, 0xD66, 0xDE6,
    0xE50, 0xED0, 0xF20, 0x1040, 0x1090, 0x17E0, 0x1810, 0x1946, 0x19D0, 0x1A80, 0x1A90, 0x1B50,
    0x1BB0, 0x1C40, 0x1C50, 0xA620, 0xA8D0, 0xA900, 0xA9D0, 0xA9F0, 0xAA50, 0xABF0, 0xFF10, 0x104A0,
    0x10D30, 0x11066, 0x110F0, 0x11136, 0x111D0, 0x112F0, 0x11450, 0x114D0, 0x11650, 0x116C0,
    0x11730, 0x118E0, 0x11950, 0x11C50, 0x11D50, 0x11DA0, 0x11F50, 0x16A60, 0x16AC0, 0x16B50,
    0x1D7CE, 0x1D7D8, 0x1D7E2, 0x1D7EC, 0x1D7F6, 0x1E140, 0x1E2F0, 0x1E4F0, 0x1E950, 0x1FBF0]

/-- The value of a decimal digit. -/
def digitValue (char : Char) : Option ℕ :=
  (decimalZeros.find? fun first ↦ first ≤ char.toNat && char.toNat < first + 10).map
    (char.toNat - ·)

/-- Decimal digits, with single underscores between them. -/
def readDigits : List Char → Option (List ℕ)
  | [] => none
  | [char] => do
    let digit ← digitValue char
    pure [digit]
  | char :: '_' :: rest => do
    let digit ← digitValue char
    let digits ← readDigits rest
    pure (digit :: digits)
  | char :: rest => do
    let digit ← digitValue char
    let digits ← readDigits rest
    pure (digit :: digits)

/-- `sys.get_int_max_str_digits()`, as it is by default. -/
def intMaxStrDigits : ℕ := 4300

/-- The number that decimal digits stand for, if there are not too many of them. -/
def readNumber (chars : List Char) : Option ℤ := do
  let digits ← readDigits chars
  if digits.length ≤ intMaxStrDigits then
    pure (digits.foldl (fun number digit ↦ 10 * number + digit) 0 : ℕ)
  else none

/-- The white space that `int` takes around a number. The separators U+001C to U+001F are not among
it, although they are for `str.isspace`. -/
def isIntSpace (char : Char) : Bool :=
  isSpace char && !(28 ≤ char.toNat && char.toNat ≤ 31)

/-- `int(text)`, or none for a `ValueError`: white space around an optional sign and digits. -/
def pyInt (text : String) : Option ℤ :=
  match stripBy isIntSpace text.toList with
  | '-' :: rest => (readNumber rest).map Neg.neg
  | '+' :: rest => readNumber rest
  | chars => readNumber chars

example : ["42", " -7 ", "+1_000", "", "abc", "1__0", "٣", "\u001c5"].map pyInt =
    [some 42, some (-7), some 1000, none, none, none, some 3, none] := by
  decide

/-! ### Lists of values -/

/-- The values on a line: at commas if there is one, else at white space. Empty values are dropped.
-/
def splitValues (text : String) : List String :=
  let chars := text.toList
  let pieces := if ',' ∈ chars then chars.splitOn ',' else chars.splitOnP isSpace
  ((pieces.map stripChars).filter (· ≠ [])).map String.ofList

example : ["1, 2,,3 ", " 4 5  6", ""].map splitValues = [["1", "2", "3"], ["4", "5", "6"], []] := by
  decide

end CanopenTools.Tools
