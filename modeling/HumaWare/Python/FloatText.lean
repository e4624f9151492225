import HumaWare.Python.Float
import Mathlib.Algebra.Order.Field.Rat
import Mathlib.Data.String.Basic

/-! # The built-in `float` of a string and of an integer

`float(s)` reads a decimal literal, `inf`, `infinity` or `nan`, with a sign and with blanks around
it; `float(n)` takes an integer over. Both are exact here, as the rest of `PyFloat` is, up to the
ends of the range of a double: a literal that is too large is infinite and one that is too small is
zero, while an integer that is too large raises an `OverflowError`.

The grammar is that of the language reference: digits of any script, single underscores between
digits, a fraction and an exponent. -/

namespace Python

/-- What rounds to no double any more: half a unit in the last place above the largest one. -/
@[irreducible] def doubleBound : ℕ := 2 ^ 1024 - 2 ^ 970

namespace PyFloat

/-- The value of a literal that stands for `q`. -/
def ofRat (q : ℚ) : PyFloat :=
  if doubleBound ≤ q then .posInf
  else if q ≤ -doubleBound then .negInf
  -- half of the smallest positive double and less
  else if |q| ≤ 1 / 2 ^ 1075 then 0
  else .fin q

/-- `float(n)` of an integer; `none` is the `OverflowError`. -/
def ofInt (n : ℤ) : Option PyFloat := if doubleBound ≤ n.natAbs then none else some (.fin n)

/-- The zeros of the scripts that have decimal digits; the nine others follow each of them. -/
def decimalZeros : List ℕ :=
  [0x30, 0x660, 0x6f0, 0x7c0, 0x966, 0x9e6, 0xa66, 0xae6, 0xb66, 0xbe6, 0xc66, 0xce6, 0xd66, 0xde6,
    0xe50, 0xed0, 0xf20, 0x1040, 0x1090, 0x17e0, 0x1810, 0x1946, 0x19d0, 0x1a80, 0x1a90, 0x1b50,
    0x1bb0, 0x1c40, 0x1c50, 0xa620, 0xa8d0, 0xa900, 0xa9d0, 0xa9f0, 0xaa50, 0xabf0, 0xff10, 0x104a0,
    0x10d30, 0x11066, 0x110f0, 0x11136, 0x111d0, 0x112f0, 0x11450, 0x114d0, 0x11650, 0x116c0,
    0x11730, 0x118e0, 0x11950, 0x11c50, 0x11d50, 0x11da0, 0x16a60, 0x16ac0, 0x16b50, 0x1d7ce,
    0x1d7d8, 0x1d7e2, 0x1d7ec, 0x1d7f6, 0x1e140, 0x1e2f0, 0x1e950, 0x1fbf0]

/-- The value of a decimal digit. -/
def decimal (c : Char) : Option ℕ :=
  decimalZeros.findSome? fun first =>
    if first ≤ c.toNat ∧ c.toNat < first + 10 then some (c.toNat - first) else none

/-- The blanks that `float` strips. -/
def isBlank (c : Char) : Bool :=
  decide (c.toNat ∈ [0x9, 0xa, 0xb, 0xc, 0xd, 0x20, 0x85, 0xa0, 0x1680, 0x2000, 0x2001, 0x2002, 0x2003,
    0x2004, 0x2005, 0x2006, 0x2007, 0x2008, 0x2009, 0x200a, 0x2028, 0x2029, 0x202f, 0x205f, 0x3000])

/-- The digits that go on after a digit, and what follows them. -/
def moreDigits : List Char → List ℕ × List Char
  | [] => ([], [])
  | '_' :: c :: text =>
    match decimal c with
    | some digit => ((digit :: (moreDigits text).1), (moreDigits text).2)
    | none => ([], '_' :: c :: text)
  | c :: text =>
    match decimal c with
    | some digit => ((digit :: (moreDigits text).1), (moreDigits text).2)
    | none => ([], c :: text)

/-- `digitpart`, and what follows it. -/
def digitPart : List Char → Option (List ℕ × List Char)
  | [] => none
  | c :: text => (decimal c).map fun digit => (digit :: (moreDigits text).1, (moreDigits text).2)

/-- The value of the digits before and after the point. -/
def digitsValue (whole fraction : List ℕ) : ℚ :=
  ((whole ++ fraction).foldl (fun value digit => 10 * value + digit) 0 : ℕ) / 10 ^ fraction.length

/-- `number`, and what follows it. -/
def number (text : List Char) : Option (ℚ × List Char) :=
  match digitPart text, text with
  | some (whole, '.' :: rest), _ =>
    match digitPart rest with
    | some (fraction, rest') => some (digitsValue whole fraction, rest')
    | none => some (digitsValue whole [], rest)
  | some (whole, rest), _ => some (digitsValue whole [], rest)
  | none, '.' :: rest =>
    (digitPart rest).map fun (fraction, rest') => (digitsValue [] fraction, rest')
  | none, _ => none

/-- The digits of an exponent, up to the end of the text. -/
def exponentDigits (text : List Char) : Option ℕ :=
  match digitPart text with
  | some (digits, []) => some (digits.foldl (fun value digit => 10 * value + digit) 0)
  | _ => none

/-- `exponent`, up to the end of the text. -/
def exponent : List Char → Option ℤ
  | '+' :: text => (exponentDigits text).map fun n => (n : ℤ)
  | '-' :: text => (exponentDigits text).map fun n => -(n : ℤ)
  | text => (exponentDigits text).map fun n => (n : ℤ)

/-- `floatnumber`, up to the end of the text. -/
def floatNumber (text : List Char) : Option ℚ :=
  match number text with
  | some (q, []) => some q
  | some (q, e :: rest) =>
    if e = 'e' ∨ e = 'E' then (exponent rest).map fun n => q * 10 ^ n else none
  | none => none

/-- `absfloatvalue`. -/
def absFloatValue (text : List Char) : Option PyFloat :=
  let lower := String.ofList (text.map Char.toLower)
  if lower = "inf" ∨ lower = "infinity" then some .posInf
  else if lower = "nan" then some .nan
  else (floatNumber text).map ofRat

/-- `float(s)` of a string; `none` is the `ValueError`. -/
def ofString (s : String) : Option PyFloat :=
  match ((s.toList.dropWhile isBlank).reverse.dropWhile isBlank).reverse with
  | '+' :: text => absFloatValue text
  | '-' :: text => (absFloatValue text).map fun x => -x
  | text => absFloatValue text

example : ofString " 1_000.5e-1\n" = some (.fin (2001 / 20)) := by decide +kernel

example : ofString "-Infinity" = some .negInf ∧ ofString "1e400" = some .posInf ∧
    ofString "1._0" = none := by decide +kernel

end PyFloat

end Python
