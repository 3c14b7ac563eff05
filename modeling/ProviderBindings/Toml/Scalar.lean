import ProviderBindings.Decimal.Numeral
import ProviderBindings.Fault
import ProviderBindings.Toml.Scan

/-! # Dates, times and numbers of a document

Each reader takes the longest text that has its form, and gives nothing when no
text at the start has it. -/
namespace ProviderBindings.Toml

/-! ## Dates and times -/

/-- The number that two digits spell. -/
def twoDigits? (a b : Char) : Option Nat :=
  if a.isDigit && b.isDigit then some (Text.decimalValue [a, b]) else none

/-- A date such as `1979-05-27`, with a month from 1 to 12 and a day from 1 to 31. -/
def readDate? : List Char → Option (Date × List Char)
  | a :: b :: c :: d :: '-' :: e :: f :: '-' :: g :: h :: rest => do
    let century ← twoDigits? a b
    let year ← twoDigits? c d
    let month ← twoDigits? e f
    let day ← twoDigits? g h
    if 1 ≤ month ∧ month ≤ 12 ∧ 1 ≤ day ∧ day ≤ 31 then
      some (⟨100 * century + year, month, day⟩, rest)
    else none
  | _ => none

/-- The microseconds that a fraction of a second stands for; places beyond the sixth are
left out. -/
def fractionMicros (digits : List Char) : Nat :=
  Text.decimalValue ((digits ++ List.replicate 6 '0').take 6)

/-- A fraction of a second, if there is one. -/
def readFraction (text : List Char) : Nat × List Char :=
  match text with
  | '.' :: rest =>
    match rest.takeWhile Char.isDigit with
    | [] => (0, text)
    | digits => (fractionMicros digits, rest.dropWhile Char.isDigit)
  | _ => (0, text)

/-- A time such as `07:32:00.5`. -/
def readTime? : List Char → Option (TimeOfDay × List Char)
  | a :: b :: ':' :: c :: d :: ':' :: e :: f :: rest => do
    let hour ← twoDigits? a b
    let minute ← twoDigits? c d
    let second ← twoDigits? e f
    if hour ≤ 23 ∧ minute ≤ 59 ∧ second ≤ 59 then
      let (micro, rest) := readFraction rest
      some (⟨hour, minute, second, micro⟩, rest)
    else none
  | _ => none

/-- The minutes of an offset such as `05:30`. -/
def readOffsetMinutes? : List Char → Option (Nat × List Char)
  | a :: b :: ':' :: c :: d :: rest => do
    let hour ← twoDigits? a b
    let minute ← twoDigits? c d
    if hour ≤ 23 ∧ minute ≤ 59 then some (60 * hour + minute, rest) else none
  | _ => none

/-- An offset from universal time, if there is one. -/
def readOffset : List Char → Option Int × List Char
  | 'Z' :: rest => (some 0, rest)
  | 'z' :: rest => (some 0, rest)
  | '+' :: rest =>
    match readOffsetMinutes? rest with
    | some (minutes, rest) => (some minutes, rest)
    | none => (none, '+' :: rest)
  | '-' :: rest =>
    match readOffsetMinutes? rest with
    | some (minutes, rest) => (some (-minutes), rest)
    | none => (none, '-' :: rest)
  | text => (none, text)

/-- The time that may follow a date, after a separator. -/
def readTimeAfterDate? : List Char → Option (TimeOfDay × List Char)
  | c :: rest => if c = 'T' ∨ c = 't' ∨ c = ' ' then readTime? rest else none
  | [] => none

/-- A date, alone or with a time and an offset, whether or not the calendar has it. -/
def readCalendar? (text : List Char) : Option (Date × Value × List Char) := do
  let (date, rest) ← readDate? text
  match readTimeAfterDate? rest with
  | some (time, rest) =>
    let (offset, rest) := readOffset rest
    some (date, .moment ⟨date, time, offset⟩, rest)
  | none => some (date, .date date, rest)

/-! ## Numbers -/

/-- Digits with single `_` between them, after the first digit: the digits, and the
rest. -/
def readGroups (isDigit : Char → Bool) : List Char → List Char × List Char
  | [] => ([], [])
  | '_' :: c :: rest =>
    if isDigit c then
      let (digits, rest) := readGroups isDigit rest
      (c :: digits, rest)
    else ([], '_' :: c :: rest)
  | c :: rest =>
    if isDigit c then
      let (digits, rest) := readGroups isDigit rest
      (c :: digits, rest)
    else ([], c :: rest)

/-- Digits with single `_` between them. -/
def readDigits? (isDigit : Char → Bool) : List Char → Option (List Char × List Char)
  | c :: rest =>
    if isDigit c then
      let (digits, rest) := readGroups isDigit rest
      some (c :: digits, rest)
    else none
  | [] => none

/-- An integer in another base than ten, such as `0xDEADBEEF`. -/
def readBased? : List Char → Option (Nat × List Char)
  | '0' :: 'x' :: rest =>
    (readDigits? (fun c => (Text.hexDigit? c).isSome) rest).map fun (digits, rest) =>
      (Text.digitsValue 16 digits, rest)
  | '0' :: 'o' :: rest =>
    (readDigits? (fun c => decide ('0' ≤ c ∧ c ≤ '7')) rest).map fun (digits, rest) =>
      (Text.digitsValue 8 digits, rest)
  | '0' :: 'b' :: rest =>
    (readDigits? (fun c => decide (c = '0' ∨ c = '1')) rest).map fun (digits, rest) =>
      (Text.digitsValue 2 digits, rest)
  | _ => none

/-- The digits before the point: a zero alone, or digits that do not begin with one. -/
def readWhole? : List Char → Option (List Char × List Char)
  | '0' :: rest => some (['0'], rest)
  | text => readDigits? Char.isDigit text

/-- The digits after a point, if there are any. -/
def readFractionDigits? : List Char → Option (List Char × List Char)
  | '.' :: rest => readDigits? Char.isDigit rest
  | _ => none

/-- The exponent, if there is one. -/
def readExponent? : List Char → Option (Int × List Char)
  | c :: rest =>
    if c = 'e' ∨ c = 'E' then
      let (negative, rest) := Numeral.splitSign rest
      (readDigits? Char.isDigit rest).map fun (digits, rest) =>
        (if negative then -(Text.decimalValue digits : Int) else Text.decimalValue digits, rest)
    else none
  | [] => none

/-- A number in decimal: an integer, unless it has a fraction or an exponent. -/
def readDecimal? (text : List Char) : Option (Except Failure (Scanned Value)) := do
  let (negative, rest) := Numeral.splitSign text
  let (whole, rest) ← readWhole? rest
  let fraction? := readFractionDigits? rest
  let (fraction, rest) := fraction?.getD ([], rest)
  let exponent? := readExponent? rest
  let (exponent, rest) := exponent?.getD (0, rest)
  if fraction?.isNone && exponent?.isNone then
    if digitLimit < whole.length then some (.error (.tooManyDigits whole.length))
    else
      let n : Int := Text.decimalValue whole
      some (.ok (.integer (if negative then -n else n), rest))
  else
    let numeral : Numeral :=
      ⟨negative, Text.decimalValue (whole ++ fraction), exponent - fraction.length⟩
    some (.ok (.float numeral.toBinary64, rest))

/-- A number that is written as a word. -/
def readWord? (text : List Char) : Option (Value × List Char) :=
  let (negative, rest) := Numeral.splitSign text
  match rest with
  | 'i' :: 'n' :: 'f' :: rest => some (.float (.infinite negative), rest)
  | 'n' :: 'a' :: 'n' :: rest => some (.float .nan, rest)
  | _ => none

/-- A date, a time or a number. -/
def readScalar (text : List Char) : Except Failure (Scanned Value) :=
  match readCalendar? text with
  | some (date, v, rest) => if date.isValid then .ok (v, rest) else fail .invalidDate text
  | none =>
    match readTime? text with
    | some (time, rest) => .ok (.time time, rest)
    | none =>
      match readBased? text with
      | some (n, rest) => .ok (.integer n, rest)
      | none =>
        match readDecimal? text with
        | some reading => reading
        | none =>
          match readWord? text with
          | some (v, rest) => .ok (v, rest)
          | none => fail .invalidValue text

end ProviderBindings.Toml
