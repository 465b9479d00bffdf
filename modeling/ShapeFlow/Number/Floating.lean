import ShapeFlow.Number.Numeral

/-!
# Binary floating-point numbers

A finite number is a sign, a significand and a power of two (`Floating`); a width fixes how many
bits the significand has and which powers occur (`Width`). A quotient of whole numbers rounds to the
nearest number of a width, ties to the even significand (`Floating.ofRatio`), and decimal notation
is read by rounding the decimal fraction it writes (`Floating.read?`).
-/

set_option autoImplicit false

namespace ShapeFlow

/-- Bits of a significand and the range of the powers of two beside it. -/
structure Width where
  precision : Nat
  leastExponent : Int
  greatestExponent : Int

/-- The width of eight bytes. -/
def Width.double : Width := ⟨53, -1074, 971⟩

/-- The width of four bytes. -/
def Width.single : Width := ⟨24, -149, 104⟩

/-- A binary floating-point number; the finite ones are `± significand · 2 ^ exponent`. -/
inductive Floating where
  | nan
  | infinite (negative : Bool)
  | finite (negative : Bool) (significand : Nat) (exponent : Int)
  deriving DecidableEq, Repr, Inhabited

namespace Floating

/-- Zero is the finite number without a significand, whatever its sign. -/
def isZero : Floating → Bool
  | finite _ significand _ => significand == 0
  | _ => false

/-- The whole part of a finite number, with the sign kept. -/
def truncate (negative : Bool) (significand : Nat) (exponent : Int) : Int :=
  let magnitude : Nat :=
    if 0 ≤ exponent then significand * Nat.pow 2 exponent.toNat
    else significand / Nat.pow 2 (-exponent).toNat
  if negative then -magnitude else magnitude

/-! ## Rounding -/

/-- The nearest whole number to a quotient; of two equally near ones the even one. -/
def roundHalfEven (num den : Nat) : Nat :=
  let q := num / den
  let twice := 2 * (num % den)
  if twice < den then q else if den < twice then q + 1 else q + q % 2

/-- A quotient divided by a power of two, again as a quotient. -/
def scaled (num den : Nat) (exponent : Int) : Nat × Nat :=
  if 0 ≤ exponent then (num, den * Nat.pow 2 exponent.toNat)
  else (num * Nat.pow 2 (-exponent).toNat, den)

/-- The power of two beside the significand of a positive quotient: the significand fills its bits,
unless the power would fall below the least one. -/
def exponentFor (w : Width) (num den : Nat) : Int :=
  -- the quotient lies between `2 ^ (guess - 1)` and `2 ^ (guess + 1)`
  let guess : Int := (num.log2 : Int) - den.log2
  let (n, d) := scaled num den guess
  let top := if n < d then guess - 1 else guess
  max (top - w.precision + 1) w.leastExponent

/-- The number of a width nearest to a quotient. -/
def ofRatio (w : Width) (negative : Bool) (num den : Nat) : Floating :=
  if num = 0 then finite negative 0 w.leastExponent
  else
    let exponent := exponentFor w num den
    let (n, d) := scaled num den exponent
    let rounded := roundHalfEven n d
    -- rounding up may need one bit more than the significand has
    let full := rounded == Nat.pow 2 w.precision
    let significand := if full then Nat.pow 2 (w.precision - 1) else rounded
    let exponent := if full then exponent + 1 else exponent
    if w.greatestExponent < exponent then infinite negative
    else finite negative significand exponent

/-- The number of a width nearest to `digits · 10 ^ power`. Powers far outside of every width are
settled by the count of digits alone. -/
def ofDecimal (w : Width) (negative : Bool) (digits : Nat) (power : Int) : Floating :=
  let size : Int := (Nat.toDigits 10 digits).length + power
  if digits = 0 || size < -400 then finite negative 0 w.leastExponent
  else if 400 < size then infinite negative
  else if 0 ≤ power then ofRatio w negative (digits * Nat.pow 10 power.toNat) 1
  else ofRatio w negative digits (Nat.pow 10 (-power).toNat)

/-! ## Decimal notation -/

/-- The digits that go on behind a digit, single underscores between them skipped, and the rest. -/
def takeMore : List Char → List Nat × List Char
  | [] => ([], [])
  | '_' :: c :: rest =>
    match Text.digitValue? c with
    | none => ([], '_' :: c :: rest)
    | some d => let (ds, tail) := takeMore rest; (d :: ds, tail)
  | c :: rest =>
    match Text.digitValue? c with
    | none => ([], c :: rest)
    | some d => let (ds, tail) := takeMore rest; (d :: ds, tail)

/-- The digits at the front of a text and the rest of it. -/
def takeDigits : List Char → List Nat × List Char
  | [] => ([], [])
  | c :: rest =>
    match Text.digitValue? c with
    | none => ([], c :: rest)
    | some d => let (ds, tail) := takeMore rest; (d :: ds, tail)

/-- The number that digits write. -/
def number (ds : List Nat) : Nat := ds.foldl (fun n d => 10 * n + d) 0

/-- An exponent behind the digits: absent, or a mark, a sign and digits up to the end. -/
def readExponent? : List Char → Option Int
  | [] => some 0
  | mark :: rest =>
    if mark == 'e' || mark == 'E' then
      let (negative, rest) : Bool × List Char := match rest with
        | '-' :: tail => (true, tail)
        | '+' :: tail => (false, tail)
        | tail => (false, tail)
      match takeDigits rest with
      | ([], _) => none
      | (ds, []) => some (if negative then -(number ds) else number ds)
      | _ => none
    else none

/-- An unsigned number: a word for infinity or for no number, or digits with at most one point and
an exponent. -/
def readUnsigned? (w : Width) (negative : Bool) (cs : List Char) : Option Floating :=
  let word := String.ofList (cs.map Char.toLower)
  if word == "inf" || word == "infinity" then some (infinite negative)
  else if word == "nan" then some nan
  else
    let (whole, rest) := takeDigits cs
    let (fraction, rest) := match rest with
      | '.' :: tail => takeDigits tail
      | _ => ([], rest)
    if whole.isEmpty && fraction.isEmpty then none
    else (readExponent? rest).map fun power =>
      ofDecimal w negative (number (whole ++ fraction)) (power - fraction.length)

/-- The number of a width that a text writes in decimal notation, blanks around it aside. -/
def read? (w : Width) (s : String) : Option Floating :=
  match Numeral.trim s.toList with
  | '-' :: rest => readUnsigned? w true rest
  | '+' :: rest => readUnsigned? w false rest
  | rest => readUnsigned? w false rest

end Floating

end ShapeFlow
