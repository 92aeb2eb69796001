import TenantLink.Time.Calendar

/-!
# Dates of cookies

A cookie names the time at which it ends in one of four layouts, in which weekday, day, month and
year stand in different orders. A year of one or two digits belongs to 1969 up to 2068.
-/

namespace TenantLink.HttpDate

structure Fields where
  year : Nat := 0
  month : Nat := 0
  day : Nat := 0
  hour : Nat := 0
  minute : Nat := 0
  second : Nat := 0

inductive Item
  | weekday
  | fullWeekday
  /-- A day of two digits, or of one behind a space. -/
  | day (spaced : Bool)
  | month
  /-- A year of at least so many and at most so many digits. -/
  | year (least most : Nat)
  | hour
  | minute
  | second
  | mark (text : String)

def weekdays : List String :=
  ["Monday", "Tuesday", "Wednesday", "Thursday", "Friday", "Saturday", "Sunday"]

def months : List String :=
  ["Jan", "Feb", "Mar", "Apr", "May", "Jun", "Jul", "Aug", "Sep", "Oct", "Nov", "Dec"]

/-- `Sun, 06 Nov 1994 08:49:37 GMT` and its variants. -/
def layouts : List (List Item) :=
  let time := [Item.hour, .mark ":", .minute, .mark ":", .second]
  let rest := .mark " " :: time ++ [.mark " GMT"]
  [[.weekday, .mark ", ", .day false, .mark " ", .month, .mark " ", .year 1 4] ++ rest,
    [.fullWeekday, .mark ", ", .day false, .mark "-", .month, .mark "-", .year 2 2] ++ rest,
    [.weekday, .mark " ", .month, .mark " ", .day true, .mark " "] ++ time ++
      [.mark " ", .year 1 4],
    [.weekday, .mark ", ", .day false, .mark "-", .month, .mark "-", .year 1 4] ++ rest]

def after? (start chars : List Char) : Option (List Char) :=
  if start.isPrefixOf chars then some (chars.drop start.length) else none

/-- The first name in a list that `chars` starts with, by its place, and what follows it. -/
def name? (names : List String) (chars : List Char) : Option (Nat × List Char) :=
  (names.zipIdx).findSome? fun (name, i) => (after? name.toList chars).map (i, ·)

/-- A number of at least `least` and at most `most` digits, and what follows it. -/
def number? (least most : Nat) (chars : List Char) : Option (Nat × List Char) :=
  let ds := (chars.take most).takeWhile Char.isDigit
  if ds.length < least then none
  else some (ds.foldl (fun n c => n * 10 + (c.toNat - 0x30)) 0, chars.drop ds.length)

def shortName (name : String) : String := String.ofList (name.toList.take 3)

def readItem? (fields : Fields) (chars : List Char) : Item → Option (Fields × List Char)
  | .weekday => (name? (weekdays.map shortName) chars).map (fields, ·.2)
  | .fullWeekday => (name? weekdays chars).map (fields, ·.2)
  | .day spaced =>
    match spaced, chars with
    | true, ' ' :: rest => (number? 1 1 rest).map fun (n, cs) => ({ fields with day := n }, cs)
    | _, _ => (number? 2 2 chars).map fun (n, cs) => ({ fields with day := n }, cs)
  | .month => (name? months chars).map fun (i, cs) => ({ fields with month := i + 1 }, cs)
  | .year least most =>
    (number? least most chars).map fun (n, cs) => ({ fields with year := n }, cs)
  | .hour => (number? 2 2 chars).map fun (n, cs) => ({ fields with hour := n }, cs)
  | .minute => (number? 2 2 chars).map fun (n, cs) => ({ fields with minute := n }, cs)
  | .second => (number? 2 2 chars).map fun (n, cs) => ({ fields with second := n }, cs)
  | .mark text => (after? text.toList chars).map (fields, ·)

/-- Reads the items of a layout, up to the end of `chars`. -/
def readLayout? (fields : Fields) (chars : List Char) : List Item → Option Fields
  | [] => if chars = [] then some fields else none
  | item :: rest =>
    match readItem? fields chars item with
    | some (fields, chars) => readLayout? fields chars rest
    | none => none

def fullYear (year : Nat) : Nat :=
  if year ≤ 68 then year + 2000 else if year ≤ 99 then year + 1900 else year

def Fields.seconds? (f : Fields) : Option Int :=
  let date : Date := ⟨fullYear f.year, f.month, f.day⟩
  if date.isValid ∧ f.hour < 24 ∧ f.minute < 60 ∧ f.second < 60 then
    some (date.days * 86400 + (f.hour * 3600 + f.minute * 60 + f.second : Nat))
  else none

/-- The time that a text names, in seconds from the epoch. -/
def parse? (text : String) : Option Int :=
  (layouts.findSome? (readLayout? {} text.toList ·)).bind Fields.seconds?

end TenantLink.HttpDate
