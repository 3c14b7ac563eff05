import ProviderBindings.Decimal.Layout
import ProviderBindings.Fault

/-! # The text of a value

A value has two texts. `inspect` shows which value it is: strings in quoted form,
dates and times by their parts. `text` is the value as it stands in running text:
a string is itself, dates and times have their usual form, and all other values
are shown as by `inspect`. Both fail only at an integer with too many digits, as the
depth of a value is no limit here. -/
namespace ProviderBindings

/-- The text of an integer, which may not have more than `digitLimit` digits. -/
def integerText (n : Int) : Except Fault String :=
  if n.natAbs < Power.ten digitLimit then .ok (String.ofList (Text.integer n))
  else .error .integerTooLong

/-- The leading parts of a time, from the hour on: seconds only if they or the
microseconds are not zero, microseconds only if they are not. -/
def TimeOfDay.shownParts (t : TimeOfDay) : List Nat :=
  if t.micro ≠ 0 then [t.hour, t.minute, t.second, t.micro]
  else if t.second ≠ 0 then [t.hour, t.minute, t.second]
  else [t.hour, t.minute]

/-- Numbers as arguments of a call. -/
def argumentList (parts : List Nat) : String :=
  ", ".intercalate (parts.map fun n => String.ofList (Text.decimal n))

/-- A date by its parts. -/
def Date.inspect (d : Date) : String := s!"datetime.date({argumentList [d.year, d.month, d.day]})"

/-- A time of day by its parts. -/
def TimeOfDay.inspect (t : TimeOfDay) : String := s!"datetime.time({argumentList t.shownParts})"

/-- An offset from universal time; a negative one is shown as a day less. -/
def Moment.inspectOffset (offset : Int) : String :=
  if offset = 0 then "datetime.timezone.utc"
  else
    let span := if offset < 0 then s!"days=-1, seconds={86400 + offset * 60}"
      else s!"seconds={offset * 60}"
    s!"datetime.timezone(datetime.timedelta({span}))"

/-- A moment by its parts. -/
def Moment.inspect (m : Moment) : String :=
  let parts := argumentList ([m.date.year, m.date.month, m.date.day] ++ m.time.shownParts)
  let offset := match m.offset with
    | some minutes => s!", tzinfo={inspectOffset minutes}"
    | none => ""
  s!"datetime.datetime({parts}{offset})"

namespace Value

mutual

/-- The text that shows which value it is. -/
def inspect : Value → Except Fault String
  | .absent => return "None"
  | .boolean b => return if b then "True" else "False"
  | .integer n => integerText n
  | .float x => return String.ofList (x.text .standard)
  | .string text => return Text.quoted text
  | .array items => return "[" ++ ", ".intercalate (← inspectItems items) ++ "]"
  | .table entries => return "\x7b" ++ ", ".intercalate (← inspectEntries entries) ++ "\x7d"
  | .moment m => return m.inspect
  | .date d => return d.inspect
  | .time t => return t.inspect

/-- The texts of the items of an array. -/
def inspectItems : List Value → Except Fault (List String)
  | [] => return []
  | v :: rest => return (← inspect v) :: (← inspectItems rest)

/-- The texts of the entries of a table. -/
def inspectEntries : List (String × Value) → Except Fault (List String)
  | [] => return []
  | (key, v) :: rest =>
    return (Text.quoted key ++ ": " ++ (← inspect v)) :: (← inspectEntries rest)

end

/-- The value as it stands in running text. -/
def text : Value → Except Fault String
  | .string s => return s
  | .moment m => return m.iso " "
  | .date d => return d.iso
  | .time t => return t.iso
  | v => v.inspect

@[simp] theorem text_string (s : String) : (Value.string s).text = .ok s := rfl

@[simp] theorem inspect_string (s : String) :
    (Value.string s).inspect = .ok (Text.quoted s) := by
  rw [inspect]; rfl

end Value

end ProviderBindings
