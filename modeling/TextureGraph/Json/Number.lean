import TextureGraph.Binary32.Rounding

/-!
# JSON numbers

A number keeps the digits it is written with. It is read as an integer only if it
is written as one. Otherwise it is read by way of binary64 in a few rounded steps:
as many digits as fit in 64 bits are gathered into a significand, which is then
multiplied or divided by a rounded power of ten. So the result may be some places
off the binary64 number nearest to the digits.
-/

namespace TextureGraph

namespace Json

/-- A number as it is written: its sign, the digits in front of the point and behind
it, and the exponent, if it has one. -/
structure Number where
  negative : Bool
  whole : List Char
  fraction : List Char
  exponent : Option Int
deriving DecidableEq, Repr

namespace Number

def digitValue (digit : Char) : Nat := digit.toNat - '0'.toNat

/-- Value of a list of decimal digits. -/
def digitsValue (digits : List Char) : Nat :=
  digits.foldl (fun value digit => 10 * value + digitValue digit) 0

def ofNat (n : Nat) : Number := ⟨false, Nat.toDigits 10 n, [], none⟩

/-! ## Integers -/

/-- Whether the number is written without a point and without an exponent. -/
def isInteger (number : Number) : Bool :=
  number.fraction.isEmpty && number.exponent.isNone

/-- Value of the digits in front of the point. -/
def magnitude (number : Number) : Nat := digitsValue number.whole

/-- The value of an unsigned integer literal of 64 bits. -/
def word64? (number : Number) : Option Nat :=
  if number.isInteger && !number.negative && decide (number.magnitude < 0x10000000000000000) then
    some number.magnitude
  else none

/-- The value of an unsigned integer literal of 32 bits. -/
def word32? (number : Number) : Option UInt32 :=
  match number.word64? with
  | some n => if n < 0x100000000 then some (UInt32.ofNat n) else none
  | none => none

/-- Whether the literal is an integer of 64 bits, with or without a sign. Zero with
a sign is not one. -/
def isWord (number : Number) : Bool :=
  number.isInteger &&
    if number.negative then
      decide (0 < number.magnitude ∧ number.magnitude ≤ 0x8000000000000000)
    else decide (number.magnitude < 0x10000000000000000)

/-! ## Rounding -/

/-- A significand with digits appended to it as long as it fits in 64 bits, and the
digits left over. -/
def gather (significand : Nat) : List Char → Nat × List Char
  | [] => (significand, [])
  | digit :: rest =>
      let extended := 10 * significand + digitValue digit
      if extended < 0x10000000000000000 then gather extended rest
      else (significand, digit :: rest)

/-- Significand and decimal exponent that stand for the number. Digits in front of
the point that are left over raise the exponent; those behind it are ignored. -/
def scientific (number : Number) : Nat × Int :=
  let (upper, dropped) := gather 0 number.whole
  let (significand, ignored) := gather upper number.fraction
  let places : Int := (number.fraction.length : Int) - ignored.length
  (significand, number.exponent.getD 0 + dropped.length - places)

/-- The greatest power of ten that is a finite binary64 number. -/
def maxPower : Int := 308

/-- Nearest binary64 number to a power of ten. -/
def powerOfTen (exponent : Int) : Nat × Int :=
  FloatFormat.binary64.round (Nat.pow 10 exponent.toNat) 1

/-- Significand and exponent of the binary64 number that is read, or nothing if that
is infinite. A divisor past the greatest power of ten is applied in two steps. -/
def toBinary64? (number : Number) : Option (Nat × Int) :=
  let format := FloatFormat.binary64
  let (significand, exponent) := number.scientific
  let start := format.round significand 1
  if significand = 0 then some start
  else if maxPower < exponent then none
  else if 0 ≤ exponent then
    let product := format.mul start (powerOfTen exponent)
    if Nat.pow 2 1024 ≤ product.1 * Nat.pow 2 product.2.toNat then none else some product
  else if -maxPower ≤ exponent then some (format.div start (powerOfTen (-exponent)))
  else if -(2 * maxPower) ≤ exponent then
    some (format.div (format.div start (powerOfTen maxPower)) (powerOfTen (-exponent - maxPower)))
  else some (0, format.minExponent)

/-- Nearest binary32 number to the binary64 number that is read. -/
def toBinary32? (number : Number) : Option Binary32 :=
  number.toBinary64?.map fun (significand, exponent) =>
    Binary32.ofScaled number.negative significand exponent

/-- Nearest binary32 number; an integer of 64 bits is rounded only once. -/
def toField? (number : Number) : Option Binary32 :=
  if number.isWord then some (Binary32.ofRatio number.negative number.magnitude 1)
  else number.toBinary32?

/-! ## Notation -/

/-- One or more digits in front of a text, and what follows them. -/
def takeDigits? (text : List Char) : Option (List Char × List Char) :=
  let digits := text.takeWhile Char.isDigit
  if digits.isEmpty then none else some (digits, text.dropWhile Char.isDigit)

/-- Digits of an integral part, which has no zero in front of other digits. -/
def takeWhole? (text : List Char) : Option (List Char × List Char) :=
  match takeDigits? text with
  | some ('0' :: _ :: _, _) => none
  | result => result

/-- Digits behind a point, none without a point. -/
def takeFraction? : List Char → Option (List Char × List Char)
  | '.' :: rest => takeDigits? rest
  | text => some ([], text)

/-- Exponent of a text that ends with it, none at the end of the text. -/
def readExponent? (text : List Char) : Option (Option Int) :=
  let read (digits : List Char) : Option Nat :=
    match takeDigits? digits with
    | some (digits, []) => some (digitsValue digits)
    | _ => none
  match text with
  | [] => some none
  | mark :: rest =>
      if mark = 'e' ∨ mark = 'E' then
        match rest with
        | '-' :: digits => (read digits).map fun n => some (-(n : Int))
        | '+' :: digits => (read digits).map fun n => some (n : Int)
        | digits => (read digits).map fun n => some (n : Int)
      else none

/-- The number that a text spells. -/
def ofText? (text : List Char) : Option Number := do
  let (negative, unsigned) := match text with
    | '-' :: rest => (true, rest)
    | _ => (false, text)
  let (whole, rest) ← takeWhole? unsigned
  let (fraction, exponentText) ← takeFraction? rest
  let exponent ← readExponent? exponentText
  return { negative, whole, fraction, exponent }

end Number

end Json

end TextureGraph
