import ShapeFlow.Number.Floating

/-!
# What a plain scalar means

A plain scalar is a text unless it is spelled as one of the other kinds (`Kind.ofPlain`): nothing, a
truth value, a whole number in one of five notations, a floating-point number, a date, or one of two
marks. A spelling is recognised as a whole; `wholeNumber?` and `floating?` also give the number. A
number of a base that has no digit is spelled as a whole number and is none.
-/

set_option autoImplicit false

namespace ShapeFlow.Yaml

/-- What a plain scalar is spelled as. -/
inductive Kind where
  | nothing
  | flag
  | whole
  | floating
  | date
  | merge
  | default
  | text
  deriving DecidableEq, Repr

/-- The spellings of nothing. -/
def nothingWords : List String := ["", "~", "null", "Null", "NULL"]

/-- The spellings of true. -/
def trueWords : List String := ["yes", "Yes", "YES", "true", "True", "TRUE", "on", "On", "ON"]

/-- The spellings of false. -/
def falseWords : List String :=
  ["no", "No", "NO", "false", "False", "FALSE", "off", "Off", "OFF"]

/-! ## Whole numbers -/

/-- Whether a text consists of characters of one class, and of at least one. -/
def consistsOf (p : Char → Bool) (cs : List Char) : Bool := !cs.isEmpty && cs.all p

/-- The characters of a class, with underscores. -/
def orUnderscore (p : Char → Bool) (c : Char) : Bool := c == '_' || p c

/-- Whether a character is a digit of a base of at most ten. -/
def isDigitBelow (base : Nat) (c : Char) : Bool := c.isDigit && c.toNat < 48 + base

/-- Whether a character is a hexadecimal digit. -/
def isHexDigit (c : Char) : Bool :=
  c.isDigit || ('a' ≤ c && c ≤ 'f') || ('A' ≤ c && c ≤ 'F')

/-- The value of a digit of any base. -/
def digitOf (c : Char) : Nat :=
  if c.isDigit then c.toNat - 48 else if c.isUpper then c.toNat - 55 else c.toNat - 87

/-- The number that digits of a base write, underscores skipped. -/
def inBase (base : Nat) (cs : List Char) : Nat :=
  (cs.filter (· != '_')).foldl (fun n c => base * n + digitOf c) 0

/-- Whether a text is a place of a number to base sixty: one digit or two, below sixty. -/
def isSixtieth (cs : List Char) : Bool :=
  match cs with
  | [a] => a.isDigit
  | [a, b] => isDigitBelow 6 a && b.isDigit
  | _ => false

/-- Whether a text is a decimal number with underscores that starts with a digit of a class. -/
def isDecimal (p : Char → Bool) (cs : List Char) : Bool :=
  match cs with
  | [] => false
  | c :: rest => c.isDigit && p c && rest.all (orUnderscore Char.isDigit)

/-- The parts of a text between colons. -/
def colonParts : List Char → List (List Char)
  | [] => [[]]
  | ':' :: rest => [] :: colonParts rest
  | c :: rest =>
    match colonParts rest with
    | part :: parts => (c :: part) :: parts
    | [] => [[c]]

/-- An unsigned whole number: binary, octal, hexadecimal, decimal or to base sixty. -/
def unsignedWhole? (cs : List Char) : Option Nat :=
  match cs with
  | '0' :: 'b' :: rest =>
    if consistsOf (orUnderscore (isDigitBelow 2)) rest then some (inBase 2 rest) else none
  | '0' :: 'x' :: rest =>
    if consistsOf (orUnderscore isHexDigit) rest then some (inBase 16 rest) else none
  | ['0'] => some 0
  | '0' :: rest =>
    if consistsOf (orUnderscore (isDigitBelow 8)) rest then some (inBase 8 rest) else none
  | _ =>
    if isDecimal (· != '0') cs then some (inBase 10 cs)
    else
      match colonParts cs with
      | first :: second :: more =>
        if isDecimal (· != '0') first && (second :: more).all isSixtieth then
          some ((second :: more).foldl (fun n part => 60 * n + inBase 10 part) (inBase 10 first))
        else none
      | _ => none

/-- The sign of a number, true for a minus, and the rest. -/
def splitSign : List Char → Bool × List Char
  | '-' :: rest => (true, rest)
  | '+' :: rest => (false, rest)
  | cs => (false, cs)

/-- Whether a text is spelled as a number of a base but has no digit. -/
def isDigitless (cs : List Char) : Bool :=
  match (splitSign cs).2 with
  | '0' :: 'b' :: rest | '0' :: 'x' :: rest => consistsOf (· == '_') rest
  | _ => false

/-- The whole number that a text spells. -/
def wholeNumber? (cs : List Char) : Option Int :=
  let (negative, rest) := splitSign cs
  if isDigitless cs then none
  else (unsignedWhole? rest).map fun n => if negative then -(n : Int) else n

/-! ## Floating-point numbers -/

/-- Whether a text is the exponent of a number: a letter, a sign and digits. -/
def isExponent : List Char → Bool
  | letter :: sign :: digits =>
    (letter == 'e' || letter == 'E') && (sign == '-' || sign == '+') &&
      consistsOf Char.isDigit digits
  | _ => false

/-- Whether a text is the part of a number behind its point. -/
def isFraction (cs : List Char) : Bool :=
  let rest := cs.dropWhile (orUnderscore Char.isDigit)
  rest.isEmpty || isExponent rest

/-- A text up to a point and behind it. -/
def splitPoint (cs : List Char) : Option (List Char × List Char) :=
  match cs.dropWhile (· != '.') with
  | _ :: behind => some (cs.takeWhile (· != '.'), behind)
  | [] => none

/-- The number of a decimal text without underscores. -/
def decimal? (negative : Bool) (cs : List Char) : Option Floating :=
  Floating.readUnsigned? .double negative (cs.filter (· != '_'))

/-- The number to base sixty with places in front of the point and digits behind it. -/
def sixtieths (negative : Bool) (places : List (List Char)) (fraction : List Char) : Floating :=
  let digits := fraction.filter (· != '_')
  let whole := places.foldl (fun n part => 60 * n + inBase 10 part) 0
  let scale := Nat.pow 10 digits.length
  Floating.ofRatio .double negative (whole * scale + inBase 10 digits) scale

/-- The floating-point number that a text spells. -/
def floating? (cs : List Char) : Option Floating :=
  let (negative, rest) := splitSign cs
  let word := String.ofList rest
  if [".inf", ".Inf", ".INF"].contains word then some (.infinite negative)
  else if [".nan", ".NaN", ".NAN"].contains (String.ofList cs) then some .nan
  else
    match splitPoint rest with
    | none => none
    | some ([], behind) =>
      if (cs.head? == some '.') && behind.head?.any Char.isDigit && isFraction behind then
        decimal? negative rest
      else none
    | some (front, behind) =>
      if isDecimal (fun _ => true) front then
        if isFraction behind then decimal? negative rest else none
      else
        match colonParts front with
        | first :: second :: more =>
          if isDecimal (fun _ => true) first && (second :: more).all isSixtieth &&
              behind.all (orUnderscore Char.isDigit) then
            some (sixtieths negative (first :: second :: more) behind)
          else none
        | _ => none

/-! ## Dates -/

/-- Digits, at least so many and at most so many, and the rest. -/
def takeDigits? (least most : Nat) (cs : List Char) : Option (List Char) :=
  let count := ((cs.take most).takeWhile Char.isDigit).length
  if count < least then none else some (cs.drop count)

/-- The text behind a character that must stand in front. -/
def expect? (c : Char) : List Char → Option (List Char)
  | [] => none
  | d :: rest => if c == d then some rest else none

/-- Whether a text is a time zone, blanks before it allowed. -/
def isZone (cs : List Char) : Bool :=
  let cs := cs.dropWhile fun c => c == ' ' || c == '\t'
  match cs with
  | ['Z'] => true
  | sign :: rest =>
    (sign == '-' || sign == '+') &&
      match takeDigits? 1 2 rest with
      | some [] => true
      | some (':' :: minutes) => (takeDigits? 2 2 minutes).any List.isEmpty
      | _ => false
  | [] => false

/-- Whether a text is a time of day behind a date, with or without a zone. -/
def isTime (cs : List Char) : Bool :=
  let start? : Option (List Char) :=
    match cs with
    | c :: rest =>
      if c == 'T' || c == 't' then some rest
      else if c == ' ' || c == '\t' then some (rest.dropWhile fun d => d == ' ' || d == '\t')
      else none
    | [] => none
  let seconds? : Option (List Char) := do
    let cs ← start?
    let cs ← takeDigits? 1 2 cs
    let cs ← expect? ':' cs
    let cs ← takeDigits? 2 2 cs
    let cs ← expect? ':' cs
    takeDigits? 2 2 cs
  match seconds? with
  | none => false
  | some rest =>
    let rest := match rest with
      | '.' :: digits => digits.dropWhile Char.isDigit
      | _ => rest
    rest.isEmpty || isZone rest

/-- Whether a text is a date, alone or with a time of day. -/
def isDate (cs : List Char) : Bool :=
  let alone? : Option (List Char) := do
    let cs ← takeDigits? 4 4 cs
    let cs ← expect? '-' cs
    let cs ← takeDigits? 2 2 cs
    let cs ← expect? '-' cs
    takeDigits? 2 2 cs
  let timed? : Option (List Char) := do
    let cs ← takeDigits? 4 4 cs
    let cs ← expect? '-' cs
    let cs ← takeDigits? 1 2 cs
    let cs ← expect? '-' cs
    takeDigits? 1 2 cs
  alone?.any List.isEmpty || timed?.any isTime

/-- What a plain scalar is spelled as. -/
def Kind.ofPlain (text : String) : Kind :=
  let cs := text.toList
  if nothingWords.contains text then .nothing
  else if trueWords.contains text || falseWords.contains text then .flag
  else if (floating? cs).isSome then .floating
  else if (wholeNumber? cs).isSome || isDigitless cs then .whole
  else if isDate cs then .date
  else if text == "<<" then .merge
  else if text == "=" then .default
  else .text

example : wholeNumber? "0x1F".toList = some 31 := by decide
example : wholeNumber? "1_000".toList = some 1000 := by decide
example : wholeNumber? "-017".toList = some (-15) := by decide
example : wholeNumber? "1:30".toList = some 90 := by decide
example : wholeNumber? "08".toList = none := by decide
example : wholeNumber? "0b_".toList = none ∧ Kind.ofPlain "0b_" = .whole := by decide

end ShapeFlow.Yaml
