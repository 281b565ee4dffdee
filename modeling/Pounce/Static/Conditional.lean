/-
# Conditional requests for static files

A client that has a file already sends its entity tag in If-None-Match, or its date in
If-Modified-Since, and is told if the file is still the same. With a Range it may send If-Range,
and gets the part only if the rest is still the same.

The handler compares If-None-Match with the tag of the file as one text. So neither a `*` nor a list
nor the strong form of the tag is recognised. It takes a date in If-Range for a match if the file is
not newer, where only the date of the file itself is one. A year that does not fit into a C `int`
raises out of `parsedate_to_datetime`, as an `OverflowError` is no `ValueError`. And of a field that
is repeated only the last line counts. `conditional_iff` says that a response is wrong for one of
these reasons, or because of a date, and for no other.

Dates are read by the library of the language, as its documentation and source have it. What an
HTTP-date is, in its three forms, is said by itself: the library reads much that is none, and some
of them as other dates.
-/

import Pounce.Asgi.Messages
import Pounce.Static.Resolve
import Pounce.Static.Responses
import Pounce.SyncWorker.Connection

namespace Pounce.Static

open Pounce.Math Pounce.Math.Bytes Pounce.Asgi
open Pounce.SyncWorker (PyError isDigitText)

/-! ## Dates -/

/-- What comes of reading a date: seconds since the epoch, a `ValueError`, or an `OverflowError`. -/
inductive DateReading where
  | instant (seconds : ℤ)
  | invalid
  | overflow
  deriving DecidableEq, Repr

/-- `str.split`. -/
def words (text : Bytes) : List Bytes := (text.splitOnP isStrSpace).filter (· ≠ [])

/-- `_daynames`. -/
def dayNames : List Bytes := ["mon", "tue", "wed", "thu", "fri", "sat", "sun"].map ascii

/-- `_monthnames`. -/
def monthNames : List Bytes :=
  ["jan", "feb", "mar", "apr", "may", "jun", "jul", "aug", "sep", "oct", "nov", "dec",
    "january", "february", "march", "april", "may", "june", "july", "august", "september",
    "october", "november", "december"].map ascii

/-- `_timezones`, in lower case. -/
def timezones : List (Bytes × ℤ) :=
  [("ut", 0), ("utc", 0), ("gmt", 0), ("z", 0), ("ast", -400), ("adt", -300), ("est", -500),
    ("edt", -400), ("cst", -600), ("cdt", -500), ("mst", -700), ("mdt", -600), ("pst", -800),
    ("pdt", -700)].map fun zone => (ascii zone.1, zone.2)

/-- The number of a month. -/
def monthOf (name : Bytes) : Option ℤ :=
  (monthNames.idxOf? (lower name)).map fun index => ((index % 12 + 1 : ℕ) : ℤ)

/-- Drop a comma at the end. -/
def dropComma (text : Bytes) : Bytes := if text.getLast? = some 44 then text.dropLast else text

/-- Drop the name of the day. -/
def dropDayName : List Bytes → List Bytes
  | [] => []
  | first :: rest =>
      if first.getLast? = some 44 ∨ lower first ∈ dayNames then rest
      else first.rtakeWhile (· ≠ 44) :: rest

/-- A date may be written with dashes. -/
def splitDashes : List Bytes → List Bytes
  | [date, time, zone] =>
      match date.splitOn 45 with
      | [day, month, year] => [day, month, year, time, zone]
      | _ => [date, time, zone]
  | data => data

/-- A time zone may stand right after the time, or be missing. -/
def splitZone : List Bytes → List Bytes
  | [day, month, year, time] =>
      match (time.findIdx? (· = 43)).or (time.findIdx? (· = 45)) with
      | some (index + 1) => [day, month, year, time.take (index + 1), time.drop (index + 1)]
      | _ => [day, month, year, time, []]
  | data => data

/-- The hours, minutes and seconds of a time. -/
def splitTime (time : Bytes) : Option (Bytes × Bytes × Bytes) :=
  match time.splitOn 58 with
  | [hour, minute] => some (hour, minute, ascii "0")
  | [hour, minute, second] => some (hour, minute, second)
  | [text] =>
      match text.splitOn 46 with
      | [hour, minute] => some (hour, minute, ascii "0")
      | [hour, minute, second] => some (hour, minute, second)
      | _ => none
  | _ => none

/-- The offset of a time zone in seconds; without one it is that of GMT. -/
def zoneSeconds (zone : Bytes) : ℤ :=
  match (timezones.lookup (lower zone)).or (readStrInt zone) with
  | none => 0
  | some offset => offset.sign * (offset.natAbs / 100 * 3600 + offset.natAbs % 100 * 60)

/-- A date and time as it is written. -/
structure DateTuple where
  year : ℤ
  month : ℤ
  day : ℤ
  hour : ℤ
  minute : ℤ
  second : ℤ
  offset : ℤ

/-- The four digits of a year of two. -/
def fullYear (year : ℤ) : ℤ :=
  if year < 100 then if 68 < year then year + 1900 else year + 2000 else year

/-- `_parsedate_tz`. -/
def parsedateTz (data : Bytes) : Option DateTuple :=
  match (splitZone (splitDashes (dropDayName (words data)))).take 5 with
  | [dd, mm, yy, tm, tz] =>
      if dd = [] ∨ mm = [] ∨ yy = [] then none
      else do
        let (dd, month) ←
          match monthOf mm with
          | some month => some (dd, month)
          | none => (monthOf dd).map fun month => (mm, month)
        let swapped := (yy.findIdx? (· = 58)).any (0 < ·)
        let (yy, tm) := if swapped then (tm, yy) else (yy, tm)
        let yy := dropComma yy
        guard (yy ≠ [])
        let (yy, tz) := if isDigitText (yy.take 1) then (yy, tz) else (tz, yy)
        let (hour, minute, second) ← splitTime (dropComma tm)
        let year ← readStrInt yy
        let day ← readStrInt (dropComma dd)
        let hour ← readStrInt hour
        let minute ← readStrInt minute
        let second ← readStrInt second
        some { year := fullYear year, month, day, hour, minute, second, offset := zoneSeconds tz }
  | _ => none

/-- The number fits into a C `int`. -/
def fitsInt (value : ℤ) : Bool := -2147483648 ≤ value && value < 2147483648

/-- The year has a 29th of February. -/
def isLeap (year : ℤ) : Bool := year % 4 = 0 && (year % 100 ≠ 0 || year % 400 = 0)

/-- The lengths of the months. -/
def monthLengths (year : ℤ) : List ℤ :=
  [31, if isLeap year then 29 else 28, 31, 30, 31, 30, 31, 31, 30, 31, 30, 31]

/-- `date.toordinal`. -/
def toordinal (year month day : ℤ) : ℤ :=
  let before := year - 1
  365 * before + before / 4 - before / 100 + before / 400 +
    ((monthLengths year).take (month - 1).toNat).foldl (· + ·) 0 + day

/-- `datetime`, with its time zone. -/
def DateTuple.instant (date : DateTuple) : DateReading :=
  if 999999999 < (date.offset / 86400).natAbs then .overflow
  else if date.offset ≤ -86400 ∨ 86400 ≤ date.offset then .invalid
  else if !([date.year, date.month, date.day, date.hour, date.minute,
      date.second].all fitsInt) then
    .overflow
  else if date.year < 1 ∨ 9999 < date.year ∨ date.day < 1 ∨
      (monthLengths date.year).getD (date.month - 1).toNat 0 < date.day ∨
      date.hour < 0 ∨ 23 < date.hour ∨ date.minute < 0 ∨ 59 < date.minute ∨
      date.second < 0 ∨ 59 < date.second then .invalid
  else
    .instant ((toordinal date.year date.month date.day - toordinal 1970 1 1) * 86400 +
      date.hour * 3600 + date.minute * 60 + date.second - date.offset)

/-- `parsedate_to_datetime`. A date without a time zone is one in GMT. -/
def parsedateToDatetime (data : Bytes) : DateReading :=
  match parsedateTz data with
  | none => .invalid
  | some date => date.instant

example :
    ["Sun, 06 Nov 1994 08:49:37 GMT", "Sunday, 06-Nov-94 08:49:37 GMT",
      "Sun Nov  6 08:49:37 1994"].map (fun date => parsedateToDatetime (ascii date)) =
      [.instant 784111777, .instant 784111777, .instant 784111777] := by
  decide +kernel

/-- `_parse_http_date`. An `OverflowError` is not caught. -/
def parseHttpDate (value : Bytes) : Except PyError (Option ℤ) :=
  match parsedateToDatetime value with
  | .instant seconds => .ok (some seconds)
  | .invalid => .ok none
  | .overflow => .error .other

/-! ## The handler -/

/-- The fields a request may have about the state of a file. -/
structure Conditions where
  ifNoneMatch : Option Bytes := none
  ifModifiedSince : Option Bytes := none
  range : Option Bytes := none
  ifRange : Option Bytes := none

/-- The loop at the start of `__call__`. Of a field that is repeated the last line counts. -/
def extract (headers : List Header) : Conditions :=
  headers.foldl (fun conditions header =>
    let name := lower header.1
    if name = ascii "if-none-match" then { conditions with ifNoneMatch := some header.2 }
    else if name = ascii "if-modified-since" then
      { conditions with ifModifiedSince := some header.2 }
    else if name = ascii "range" then { conditions with range := some header.2 }
    else if name = ascii "if-range" then { conditions with ifRange := some header.2 }
    else conditions) {}

/-- `bytes.decode("latin1")`. -/
def latin1Text (bytes : Bytes) : Text := bytes.map fun byte => Char.ofNat byte.toNat

/-- `int(file.mtime)`. -/
def ResolvedFile.modified (file : ResolvedFile) : ℤ := truncate file.mtime

/-- A `datetime` can have this time, in seconds: its year is one from 1 to 9999. -/
def fitsDatetime (seconds : ℤ) : Bool := -62135596800 ≤ seconds && seconds ≤ 253402300799

/-- `_modified_since`. -/
def modifiedSince (file : ResolvedFile) (since : ℤ) : Except PyError Bool :=
  if fitsDatetime file.modified then .ok (since < file.modified) else .error .other

/-- A value has the form of an entity tag. -/
def isTagForm (value : Bytes) : Bool :=
  [ascii "\"", ascii "W/", ascii "w/"].any fun start => start.isPrefixOf value

/-- The file has not been modified since the date in a field, if there is one. -/
def unmodifiedSince (value : Bytes) (file : ResolvedFile) : Except PyError Bool := do
  match ← parseHttpDate value with
  | none => return false
  | some since => return !(← modifiedSince file since)

/-- `_if_range_matches`. -/
def ifRangeMatches (ifRange : Bytes) (file : ResolvedFile) : Except PyError Bool :=
  let value := strip ifRange
  if value = [] then .ok false
  else if isTagForm value then .ok false
  else unmodifiedSince value file

variable (file : ResolvedFile) (method : FileMethod) (conditions : Conditions)

/-- Whether `__call__` sends 304. -/
def sends304 : Except PyError Bool :=
  match conditions.ifNoneMatch with
  | some value => .ok (latin1Text (stripWhile isStrSpace value) = file.etag)
  | none =>
      match conditions.ifModifiedSince with
      | none => .ok false
      | some value => unmodifiedSince value file

/-- What `__call__` makes of the Range header. -/
def requestedRange : Except PyError (ParsedRange file.size) :=
  match conditions.range with
  | none => .ok .ignored
  | some range =>
      if range ≠ [] ∧ method = .get then
        match conditions.ifRange with
        | none => .ok (parseRangeHeader file.size range)
        | some ifRange =>
            (ifRangeMatches ifRange file).map fun doesMatch =>
              if doesMatch then parseRangeHeader file.size range else .ignored
      else .ok .ignored

/-- What comes of a request for a file: 304, or what a Range header comes to, that is 206, 416 or,
if it is ignored, 200. -/
inductive Outcome (size : ℕ) where
  | notModified
  | served (parsed : ParsedRange size)

/-- All but a 416 have a Last-Modified. -/
def Outcome.isDated {size : ℕ} : Outcome size → Bool
  | .served .unsatisfiable => false
  | _ => true

/-- `formatdate` can write the time of the file. It is rounded to a microsecond. -/
def ResolvedFile.hasDate (file : ResolvedFile) : Bool :=
  fitsDatetime (nearestInt (nearestFloat
    ((file.mtime - file.modified) * 1000000)) / 1000000 + file.modified)

/-- What `__call__` decides on, for a file that is resolved. -/
def decide? : Except PyError (Outcome file.size) := do
  if ← sends304 file conditions then .ok .notModified
  else (requestedRange file method conditions).map .served

/-- `__call__`, for a file that is resolved. -/
def call : Except PyError (Outcome file.size) := do
  let outcome ← decide? file method conditions
  if outcome.isDated && !file.hasDate then .error .other else .ok outcome

/-! ## Entity tags -/

/-- A character of an entity tag. -/
def isEtagc (byte : UInt8) : Bool := byte = 33 || (35 ≤ byte && byte ≤ 126) || 128 ≤ byte

/-- An entity tag. -/
structure EntityTag where
  weak : Bool
  chars : Bytes
  chars_valid : ∀ byte ∈ chars, isEtagc byte

/-- The text of an entity tag. -/
def EntityTag.text (tag : EntityTag) : Bytes :=
  (if tag.weak then ascii "W/" else []) ++ 34 :: (tag.chars ++ [34])

/-- Two tags match strongly if neither is weak. -/
def EntityTag.MatchesStrongly (first second : EntityTag) : Prop :=
  first.weak = false ∧ second.weak = false ∧ first.chars = second.chars

/-- A list of entity tags, with optional white space around the commas. -/
inductive TagList : Bytes → List EntityTag → Prop
  | blank {padding : Bytes} (hpadding : ∀ byte ∈ padding, isOws byte) : TagList padding []
  | single {before after : Bytes} {tag : EntityTag} (hbefore : ∀ byte ∈ before, isOws byte)
      (hafter : ∀ byte ∈ after, isOws byte) : TagList (before ++ (tag.text ++ after)) [tag]
  | skip {padding rest : Bytes} {tags : List EntityTag} (hpadding : ∀ byte ∈ padding, isOws byte)
      (hrest : TagList rest tags) : TagList (padding ++ 44 :: rest) tags
  | cons {before after rest : Bytes} {tag : EntityTag} {tags : List EntityTag}
      (hbefore : ∀ byte ∈ before, isOws byte) (hafter : ∀ byte ∈ after, isOws byte)
      (hrest : TagList rest tags) :
      TagList (before ++ (tag.text ++ (after ++ 44 :: rest))) (tag :: tags)

/-- If-None-Match holds of a file with the tag: it is a `*`, or lists a tag with the same
characters, be it weak or not. -/
def NoneMatchLists (current : EntityTag) (value : Bytes) : Prop :=
  trimOws value = ascii "*" ∨
    ∃ tags, TagList value tags ∧ ∃ tag ∈ tags, tag.chars = current.chars

/-- The bytes of a text of ASCII characters. -/
def asciiBytes (text : Text) : Bytes := text.map fun char => UInt8.ofNat char.toNat

/-- The characters of the tag of a file. -/
def tagText (stat : FileStat) (coding : Option Coding) : Text :=
  hexTail (truncate (nearestFloat (stat.mtime * 1000000))) ++ '-' :: (hex stat.size ++
    match coding with
    | none => []
    | some coding => '-' :: coding.name)

/-- Hexadecimal digits are ASCII characters that a tag may have. -/
theorem hex_valid (value : ℕ) :
    ∀ char ∈ hex value, char.toNat < 128 ∧ isEtagc (UInt8.ofNat char.toNat) := by
  induction value using Nat.strong_induction_on with
  | _ value ih =>
      have hdigit : ∀ digit < 16, (Nat.digitChar digit).toNat < 128 ∧
          isEtagc (UInt8.ofNat (Nat.digitChar digit).toNat) := by
        decide
      rw [hex]
      obtain hsmall | hlarge := Nat.lt_or_ge value 16
      · rw [Nat.toDigits_of_lt_base hsmall]
        intro char hmem
        obtain rfl := List.mem_singleton.mp hmem
        exact hdigit value hsmall
      · rw [Nat.toDigits_of_base_le (by decide) hlarge]
        intro char hmem
        rcases List.mem_append.mp hmem with hmem | hmem
        · exact ih (value / 16) (Nat.div_lt_self (by omega) (by decide)) char hmem
        · obtain rfl := List.mem_singleton.mp hmem
          exact hdigit _ (Nat.mod_lt _ (by decide))

theorem hexTail_valid (value : ℤ) :
    ∀ char ∈ hexTail value, char.toNat < 128 ∧ isEtagc (UInt8.ofNat char.toNat) := by
  intro char hmem
  rw [hexTail] at hmem
  split at hmem
  case isTrue => exact hex_valid _ char hmem
  case isFalse =>
    rcases List.mem_cons.mp hmem with rfl | hmem
    · decide
    · exact hex_valid _ char hmem

/-- The tag of a file consists of such characters. -/
theorem tagText_valid (stat : FileStat) (coding : Option Coding) :
    ∀ char ∈ tagText stat coding, char.toNat < 128 ∧ isEtagc (UInt8.ofNat char.toNat) := by
  intro char hmem
  unfold tagText at hmem
  rcases List.mem_append.mp hmem with hmem | hmem
  · exact hexTail_valid _ char hmem
  rcases List.mem_cons.mp hmem with rfl | hmem
  · decide
  rcases List.mem_append.mp hmem with hmem | hmem
  · exact hex_valid _ char hmem
  · cases coding with
    | none => cases hmem
    | some coding =>
        have hname : (('-' :: coding.name).all fun char =>
            decide (char.toNat < 128) && isEtagc (UInt8.ofNat char.toNat)) = true := by
          cases coding <;> decide
        have hchar := List.all_eq_true.mp hname char hmem
        rwa [Bool.and_eq_true, decide_eq_true_eq] at hchar

/-- The current tag of a file, which is weak. -/
def currentTag (stat : FileStat) (coding : Option Coding) : EntityTag where
  weak := true
  chars := asciiBytes (tagText stat coding)
  chars_valid := by
    intro byte hmem
    obtain ⟨char, hchar, rfl⟩ := List.mem_map.mp hmem
    exact (tagText_valid stat coding char hchar).2

/-- Bytes that read the same are the same. -/
theorem latin1Text_injective : Function.Injective latin1Text := by
  apply List.map_injective_iff.mpr
  intro first second hsame
  have htoNat := congrArg Char.toNat hsame
  rw [toNat_charOfByte, toNat_charOfByte] at htoNat
  exact UInt8.toNat_inj.mp htoNat

/-- ASCII characters are read back from their bytes. -/
theorem latin1Text_asciiBytes {text : Text} (hascii : ∀ char ∈ text, char.toNat < 128) :
    latin1Text (asciiBytes text) = text := by
  rw [latin1Text, asciiBytes, List.map_map]
  conv => right; rw [← List.map_id text]
  apply List.map_congr_left
  intro char hmem
  have hlt := hascii char hmem
  show Char.ofNat (UInt8.ofNat char.toNat).toNat = char
  rw [toNat_byteOfChar (by omega), Char.ofNat_toNat]

/-- The text of the current tag is the one that `_generate_etag` makes. -/
theorem latin1Text_currentTag (stat : FileStat) (coding : Option Coding) :
    latin1Text (currentTag stat coding).text = generateEtag stat coding := by
  have hchars : latin1Text (asciiBytes (tagText stat coding)) = tagText stat coding :=
    latin1Text_asciiBytes fun char hmem => (tagText_valid stat coding char hmem).1
  have htext : latin1Text (currentTag stat coding).text =
      'W' :: '/' :: '"' :: (latin1Text (asciiBytes (tagText stat coding)) ++ ['"']) := by
    show latin1Text (ascii "W/" ++ 34 :: (asciiBytes (tagText stat coding) ++ [34])) = _
    simp only [latin1Text, List.map_append, List.map_cons, List.map_nil]
    rfl
  rw [htext, hchars]
  unfold tagText generateEtag
  cases coding <;> simp

/-! ## HTTP-dates -/

/-- The forms of an HTTP-date. -/
inductive DateForm where
  | imfFixdate
  | rfc850
  | asctime
  deriving DecidableEq, Repr

/-- What an HTTP-date is made of. In the second form the year has two digits. -/
structure HttpDate where
  form : DateForm := .imfFixdate
  weekday : Fin 7
  day : ℕ
  month : Fin 12
  year : ℕ
  hour : ℕ
  minute : ℕ
  second : ℕ

/-- The names of the days. -/
def weekdays : Vector String 7 :=
  #v["Monday", "Tuesday", "Wednesday", "Thursday", "Friday", "Saturday", "Sunday"]

/-- The names of the months. -/
def months : Vector String 12 :=
  #v["Jan", "Feb", "Mar", "Apr", "May", "Jun", "Jul", "Aug", "Sep", "Oct", "Nov", "Dec"]

/-- A number with leading zeros, or with another filling. -/
def padded (filling : UInt8) (width value : ℕ) : Bytes :=
  List.replicate (width - (ofNat value).length) filling ++ ofNat value

/-- The time of day. -/
def HttpDate.time (date : HttpDate) : Bytes :=
  padded 48 2 date.hour ++ 58 :: padded 48 2 date.minute ++ 58 :: padded 48 2 date.second

/-- The text of an HTTP-date. -/
def HttpDate.text (date : HttpDate) : Bytes :=
  let weekday := ascii weekdays[date.weekday]
  let month := ascii months[date.month]
  match date.form with
  | .imfFixdate =>
      weekday.take 3 ++ ascii ", " ++ padded 48 2 date.day ++ ascii " " ++ month ++ ascii " " ++
        padded 48 4 date.year ++ ascii " " ++ date.time ++ ascii " GMT"
  | .rfc850 =>
      weekday ++ ascii ", " ++ padded 48 2 date.day ++ ascii "-" ++ month ++ ascii "-" ++
        padded 48 2 date.year ++ ascii " " ++ date.time ++ ascii " GMT"
  | .asctime =>
      weekday.take 3 ++ ascii " " ++ month ++ ascii " " ++ padded 32 2 date.day ++ ascii " " ++
        date.time ++ ascii " " ++ padded 48 4 date.year

/-- The year, as it is understood in a year. One that would be more than fifty years ahead is
past. -/
def HttpDate.fullYear (thisYear : ℤ) (date : HttpDate) : ℤ :=
  match date.form with
  | .imfFixdate | .asctime => date.year
  | .rfc850 =>
      let near := thisYear - thisYear % 100 + date.year
      if thisYear + 50 < near then near - 100 else near

/-- There is such a date. The last minute of a day may have one second more. -/
structure HttpDate.Valid (thisYear : ℤ) (date : HttpDate) : Prop where
  year : date.year < if date.form = .rfc850 then 100 else 10000
  day : 1 ≤ date.day ∧
    (date.day : ℤ) ≤ (monthLengths (date.fullYear thisYear)).getD date.month.val 0
  time : date.hour < 24 ∧ date.minute < 60 ∧ date.second ≤ 60

/-- The seconds since the epoch. -/
def HttpDate.seconds (thisYear : ℤ) (date : HttpDate) : ℤ :=
  (toordinal (date.fullYear thisYear) (date.month.val + 1) date.day - toordinal 1970 1 1) * 86400 +
    date.hour * 3600 + date.minute * 60 + date.second

/-- A field is an HTTP-date with that time. -/
def IsHttpDate (thisYear : ℤ) (value : Bytes) (seconds : ℤ) : Prop :=
  ∃ date : HttpDate, date.Valid thisYear ∧ trimOws value = date.text ∧
    date.seconds thisYear = seconds

example : IsHttpDate 2026 (ascii "Sunday, 06-Nov-94 08:49:37 GMT") 784111777 :=
  ⟨{ form := .rfc850, weekday := 6, day := 6, month := 10, year := 94, hour := 8, minute := 49,
     second := 37 }, ⟨by decide, by decide, by decide⟩, by decide +kernel, by decide⟩

/-! ## What is prescribed -/

/-- A file that is resolved: its tag is made from what `stat` says of it. -/
def resolvedFile (path : List (PathStep Text)) (mtime : ℚ) (stat : FileStat)
    (coding : Option Coding) : ResolvedFile where
  path := path
  size := stat.size
  mtime := mtime
  etag := generateEtag stat coding
  coding := coding

/-- The value of a field, if there is one: its lines, separated by commas. -/
def fieldValue (name : Bytes) (headers : List Header) : Option Bytes :=
  match fieldValues name headers with
  | [] => none
  | values => some ((ascii ", ").intercalate values)

variable (thisYear : ℤ) (headers : List Header) (current : EntityTag)

/-- A field says that the file is not newer: it is an HTTP-date that is not before the second of the
file. -/
def DatedAfter (value : Bytes) : Prop :=
  ∃ date, IsHttpDate thisYear value date ∧ ⌊file.mtime⌋ ≤ date

/-- The client has the file as it is: If-None-Match says so, or If-Modified-Since if it is the only
one. -/
def NotModified : Prop :=
  (∃ value, fieldValue (ascii "if-none-match") headers = some value ∧
    NoneMatchLists current value) ∨
  (fieldValue (ascii "if-none-match") headers = none ∧
    ∃ value, fieldValue (ascii "if-modified-since") headers = some value ∧
      DatedAfter file thisYear value)

/-- If-Range matches strongly: it is the tag of the file, if that is not weak, or its date. -/
def RangeMatches (ifRange : Bytes) : Prop :=
  (∃ tag : EntityTag, trimOws ifRange = tag.text ∧ tag.MatchesStrongly current) ∨
    IsHttpDate thisYear ifRange ⌊file.mtime⌋

/-- Range is honoured: for GET, if there is no If-Range or it matches. -/
def HonoursRange : Prop :=
  method = .get ∧ ∀ ifRange, fieldValue (ascii "if-range") headers = some ifRange →
    RangeMatches file thisYear current ifRange

/-- What a Range header comes to, if there is one. -/
def rangeOf (size : ℕ) (headers : List Header) : ParsedRange size :=
  match fieldValue (ascii "range") headers with
  | none => .ignored
  | some range => parseRangeHeader size range

/-- What the request should come to. -/
inductive Prescribed : Outcome file.size → Prop
  | notModified (hsame : NotModified file thisYear headers current) : Prescribed .notModified
  | honoured (hother : ¬ NotModified file thisYear headers current)
      (hrange : HonoursRange file method thisYear headers current) :
      Prescribed (.served (rangeOf file.size headers))
  | whole (hother : ¬ NotModified file thisYear headers current)
      (hrange : ¬ HonoursRange file method thisYear headers current) :
      Prescribed (.served .ignored)

/-! ## What is misjudged -/

/-- The date raises an error: its numbers are too large, or the file itself has no date. -/
def Raises (value : Bytes) : Prop :=
  parsedateToDatetime value = .overflow ∨
    ∃ since, parsedateToDatetime value = .instant since ∧ fitsDatetime file.modified = false

/-- The library reads a date that is not before the time of the file. -/
def ReadsAfter (value : Bytes) : Prop :=
  ∃ since, parsedateToDatetime value = .instant since ∧ file.modified ≤ since

/-- If-None-Match, or If-Modified-Since without it, is misjudged. -/
inductive StateMisjudged : Prop
  /-- A `*`, a list or the strong form of the tag. -/
  | unrecognised (last value : Bytes) (hlast : (extract headers).ifNoneMatch = some last)
      (hvalue : fieldValue (ascii "if-none-match") headers = some value)
      (hlists : NoneMatchLists current value) (hother : stripWhile isStrSpace last ≠ current.text)
  /-- The last line is the tag, but all of them together are no list of tags. -/
  | accepted (last value : Bytes) (hlast : (extract headers).ifNoneMatch = some last)
      (hvalue : fieldValue (ascii "if-none-match") headers = some value)
      (hnot : ¬ NoneMatchLists current value) (hsame : stripWhile isStrSpace last = current.text)
  | raised (last : Bytes) (hnone : fieldValue (ascii "if-none-match") headers = none)
      (hlast : (extract headers).ifModifiedSince = some last) (hraises : Raises file last)
  /-- No HTTP-date, or an earlier one, is taken for one that is not before the file. -/
  | taken (last value : Bytes) (hnone : fieldValue (ascii "if-none-match") headers = none)
      (hlast : (extract headers).ifModifiedSince = some last)
      (hvalue : fieldValue (ascii "if-modified-since") headers = some value)
      (hreads : ReadsAfter file last) (hnot : ¬ DatedAfter file thisYear value)
  /-- An HTTP-date is not read, or as an earlier one, as with a leap second. -/
  | missed (last value : Bytes) (hnone : fieldValue (ascii "if-none-match") headers = none)
      (hlast : (extract headers).ifModifiedSince = some last)
      (hvalue : fieldValue (ascii "if-modified-since") headers = some value)
      (hnot : ¬ ReadsAfter file last) (hdated : DatedAfter file thisYear value)

/-- If-Range is taken for a match: it is no tag, and a date that is not before the file. -/
def TakesIfRange (ifRange : Bytes) : Prop :=
  isTagForm (strip ifRange) = false ∧ ReadsAfter file (strip ifRange)

/-- A Range in a GET is misjudged. -/
inductive RangeMisjudged : Prop
  | raised (range last : Bytes) (hget : method = .get) (hrange : (extract headers).range = some range)
      (hne : range ≠ []) (hlast : (extract headers).ifRange = some last)
      (hform : isTagForm (strip last) = false) (hraises : Raises file (strip last))
  /-- A date in If-Range that is not the one of the file, or is no HTTP-date, is taken for it. -/
  | taken (range last value : Bytes) (hget : method = .get)
      (hrange : (extract headers).range = some range)
      (hlast : (extract headers).ifRange = some last)
      (hvalue : fieldValue (ascii "if-range") headers = some value)
      (htakes : TakesIfRange file last) (hnot : ¬ RangeMatches file thisYear current value)
      (hparsed : parseRangeHeader file.size range ≠ .ignored)
  /-- The date of the file in If-Range is not read as that. -/
  | missed (last value : Bytes) (hget : method = .get)
      (hlast : (extract headers).ifRange = some last)
      (hvalue : fieldValue (ascii "if-range") headers = some value)
      (hnot : ¬ TakesIfRange file last) (hmatches : RangeMatches file thisYear current value)
      (hparsed : rangeOf file.size headers ≠ .ignored)
  /-- Range is repeated, and its last line is not the whole. -/
  | repeated (range : Bytes) (hget : method = .get) (hrange : (extract headers).range = some range)
      (htakes : ∀ last, (extract headers).ifRange = some last → TakesIfRange file last)
      (hmatches : ∀ value, fieldValue (ascii "if-range") headers = some value →
        RangeMatches file thisYear current value)
      (hparsed : parseRangeHeader file.size range ≠ rangeOf file.size headers)

/-- The request is one that the handler answers as it should. -/
structure Supported : Prop where
  state : ¬ StateMisjudged file thisYear headers current
  range : ¬ NotModified file thisYear headers current →
    ¬ RangeMisjudged file method thisYear headers current
  /-- The file has a date, unless the response does not tell it. -/
  dated : file.hasDate = false →
    Prescribed file method thisYear headers current (.served .unsatisfiable)

/-! ## When the response is the prescribed one -/

variable {file method thisYear headers current}

/-- Of every field the last line is taken. -/
theorem extract_eq (headers : List Header) :
    extract headers =
      { ifNoneMatch := (fieldValues (ascii "if-none-match") headers).getLast?
        ifModifiedSince := (fieldValues (ascii "if-modified-since") headers).getLast?
        range := (fieldValues (ascii "range") headers).getLast?
        ifRange := (fieldValues (ascii "if-range") headers).getLast? } := by
  induction headers using List.reverseRecOn with
  | nil => rfl
  | append_singleton headers header ih =>
      have hlines (name : Bytes) : fieldValues name [header] =
          if lower header.1 = name then [header.2] else [] := by
        simp only [fieldValues, fields, List.filter_cons, decide_eq_true_eq, List.filter_nil]
        split
        · rfl
        · rfl
      rw [extract, List.foldl_append, ← extract, ih]
      simp only [fieldValues_append, hlines, List.foldl_cons, List.foldl_nil]
      by_cases hnoneMatch : lower header.1 = ascii "if-none-match"
      · simp +decide [hnoneMatch]
      by_cases hsince : lower header.1 = ascii "if-modified-since"
      · simp +decide [hsince]
      by_cases hrange : lower header.1 = ascii "range"
      · simp +decide [hrange]
      by_cases hifRange : lower header.1 = ascii "if-range"
      · simp +decide [hifRange]
      · simp [hnoneMatch, hsince, hrange, hifRange]

/-- A field that has a line has a value. -/
theorem fieldValue_eq_none {name : Bytes} :
    fieldValue name headers = none ↔ (fieldValues name headers).getLast? = none := by
  rw [fieldValue, List.getLast?_eq_none_iff]
  split
  case h_1 hnil => exact iff_of_true rfl hnil
  case h_2 hne => exact iff_of_false (fun hnot => by cases hnot) hne

theorem exists_fieldValue {name last : Bytes}
    (hlast : (fieldValues name headers).getLast? = some last) :
    ∃ value, fieldValue name headers = some value := by
  apply Option.ne_none_iff_exists'.mp
  intro hnone
  cases (fieldValue_eq_none.mp hnone).symm.trans hlast

theorem exists_ifRange {value : Bytes}
    (hvalue : fieldValue (ascii "if-range") headers = some value) :
    ∃ last, (extract headers).ifRange = some last := by
  rw [extract_eq]
  apply Option.ne_none_iff_exists'.mp
  intro hnone
  cases (fieldValue_eq_none.mpr hnone).symm.trans hvalue

/-- A date that can be compared is compared with the second of the file. -/
theorem unmodifiedSince_eq (value : Bytes) :
    unmodifiedSince value file =
      match parsedateToDatetime value with
      | .instant since =>
          if fitsDatetime file.modified then .ok (decide (file.modified ≤ since))
          else .error .other
      | .invalid => .ok false
      | .overflow => .error .other := by
  rw [unmodifiedSince, parseHttpDate]
  cases parsedateToDatetime value with
  | invalid => rfl
  | overflow => rfl
  | instant since =>
      show ((modifiedSince file since).bind fun newer => .ok !newer) = _
      rw [modifiedSince]
      split
      · rw [Except.bind, ← decide_not, decide_eq_decide.mpr not_lt]
      · rfl

/-- What it comes to is right if it does not raise and the date is read as it should be. -/
theorem unmodifiedSince_iff (value : Bytes) (wanted : Prop) :
    (∃ sent, unmodifiedSince value file = .ok sent ∧ (sent = true ↔ wanted)) ↔
      ¬ Raises file value ∧ (ReadsAfter file value ↔ wanted) := by
  rw [unmodifiedSince_eq, Raises, ReadsAfter]
  cases parsedateToDatetime value with
  | overflow =>
      apply iff_of_false
      · rintro ⟨sent, hsent, -⟩
        cases hsent
      · exact fun hboth => hboth.1 (.inl rfl)
  | invalid => simp
  | instant since =>
      cases hfits : fitsDatetime file.modified with
      | false => simp
      | true => simp

/-- A 304 is sent when it should be unless the state of the file is misjudged. -/
theorem sends304_iff (htag : latin1Text current.text = file.etag) :
    (∃ sent, sends304 file (extract headers) = .ok sent ∧
        (sent = true ↔ NotModified file thisYear headers current)) ↔
      ¬ StateMisjudged file thisYear headers current := by
  rw [sends304]
  cases hlast : (extract headers).ifNoneMatch with
  | some last =>
      have hlines := hlast
      rw [extract_eq] at hlines
      obtain ⟨value, hvalue⟩ := exists_fieldValue hlines
      have hcompared : latin1Text (stripWhile isStrSpace last) = file.etag ↔
          stripWhile isStrSpace last = current.text := by
        rw [← htag]
        exact latin1Text_injective.eq_iff
      have hlists : NotModified file thisYear headers current ↔ NoneMatchLists current value := by
        simp [NotModified, hvalue]
      have hnone {conclusion : Prop} (hnot : fieldValue (ascii "if-none-match") headers = none) :
          conclusion := by
        cases hvalue.symm.trans hnot
      constructor
      · rintro ⟨sent, hsent, hiff⟩ hmisjudged
        obtain rfl := Except.ok.inj hsent
        rw [decide_eq_true_eq, hcompared, hlists] at hiff
        cases hmisjudged with
        | unrecognised other whole hother hwhole hlists hdiffers =>
            obtain rfl := Option.some.inj (hlast.symm.trans hother)
            obtain rfl := Option.some.inj (hvalue.symm.trans hwhole)
            exact hdiffers (hiff.mpr hlists)
        | accepted other whole hother hwhole hnot hsame =>
            obtain rfl := Option.some.inj (hlast.symm.trans hother)
            obtain rfl := Option.some.inj (hvalue.symm.trans hwhole)
            exact hnot (hiff.mp hsame)
        | raised _ hnot => exact hnone hnot
        | taken _ _ hnot => exact hnone hnot
        | missed _ _ hnot => exact hnone hnot
      · intro hnot
        refine ⟨_, rfl, ?_⟩
        rw [decide_eq_true_eq, hcompared, hlists]
        constructor
        · intro hsame
          by_contra hother
          exact hnot (.accepted last value hlast hvalue hother hsame)
        · intro hsame
          by_contra hother
          exact hnot (.unrecognised last value hlast hvalue hsame hother)
  | none =>
      have hnone : fieldValue (ascii "if-none-match") headers = none := by
        rw [extract_eq] at hlast
        exact fieldValue_eq_none.mpr hlast
      have hpresent {conclusion : Prop} {last : Bytes}
          (hnot : (extract headers).ifNoneMatch = some last) : conclusion := by
        cases hlast.symm.trans hnot
      cases hsince : (extract headers).ifModifiedSince with
      | none =>
          have hmissing : fieldValue (ascii "if-modified-since") headers = none := by
            rw [extract_eq] at hsince
            exact fieldValue_eq_none.mpr hsince
          apply iff_of_true
          · refine ⟨false, rfl, ?_⟩
            simp [NotModified, hnone, hmissing]
          · intro hmisjudged
            cases hmisjudged with
            | unrecognised _ _ hnot => exact hpresent hnot
            | accepted _ _ hnot => exact hpresent hnot
            | raised _ _ hnot => cases hsince.symm.trans hnot
            | taken _ _ _ hnot => cases hsince.symm.trans hnot
            | missed _ _ _ hnot => cases hsince.symm.trans hnot
      | some last =>
          have hlines := hsince
          rw [extract_eq] at hlines
          obtain ⟨value, hvalue⟩ := exists_fieldValue hlines
          have hdated : NotModified file thisYear headers current ↔
              DatedAfter file thisYear value := by
            simp [NotModified, hnone, hvalue]
          rw [hdated]
          refine (unmodifiedSince_iff last _).trans ?_
          constructor
          · rintro ⟨hquiet, hiff⟩ hmisjudged
            cases hmisjudged with
            | unrecognised _ _ hnot => exact hpresent hnot
            | accepted _ _ hnot => exact hpresent hnot
            | raised other _ hother hraises =>
                obtain rfl := Option.some.inj (hsince.symm.trans hother)
                exact hquiet hraises
            | taken other whole _ hother hwhole hreads hnot =>
                obtain rfl := Option.some.inj (hsince.symm.trans hother)
                obtain rfl := Option.some.inj (hvalue.symm.trans hwhole)
                exact hnot (hiff.mp hreads)
            | missed other whole _ hother hwhole hnot hafter =>
                obtain rfl := Option.some.inj (hsince.symm.trans hother)
                obtain rfl := Option.some.inj (hvalue.symm.trans hwhole)
                exact hnot (hiff.mpr hafter)
          · intro hnot
            refine ⟨fun hraises => hnot (.raised last hnone hsince hraises), ?_, ?_⟩
            · intro hreads
              by_contra hother
              exact hnot (.taken last value hnone hsince hvalue hreads hother)
            · intro hafter
              by_contra hother
              exact hnot (.missed last value hnone hsince hvalue hother hafter)

/-- Blank text is no date. -/
theorem parsedateToDatetime_nil : parsedateToDatetime [] = .invalid := by
  decide +kernel

/-- If-Range is compared as a date unless it is a tag. -/
theorem ifRangeMatches_eq (ifRange : Bytes) :
    ifRangeMatches ifRange file =
      if isTagForm (strip ifRange) then .ok false else unmodifiedSince (strip ifRange) file := by
  rw [ifRangeMatches]
  by_cases hblank : strip ifRange = []
  · rw [if_pos hblank, hblank, unmodifiedSince_eq, parsedateToDatetime_nil, ite_self]
  · rw [if_neg hblank]

variable (file) in
/-- So it comes to whether it is taken for a match, if it does not raise. -/
theorem ifRangeMatches_iff (ifRange : Bytes) :
    (∃ taken, ifRangeMatches ifRange file = .ok taken ∧
        (taken = true ↔ TakesIfRange file ifRange)) ↔
      ¬ (isTagForm (strip ifRange) = false ∧ Raises file (strip ifRange)) := by
  rw [ifRangeMatches_eq, TakesIfRange]
  cases isTagForm (strip ifRange) with
  | true => simp
  | false =>
      simp only [Bool.false_eq_true, if_false, true_and]
      rw [unmodifiedSince_iff, and_iff_left Iff.rfl]

/-- An empty Range header is ignored. -/
theorem parseRangeHeader_nil (size : ℕ) : parseRangeHeader size [] = .ignored := by
  rw [parseRangeHeader, if_pos (by decide)]

/-- What raises ends the request. -/
theorem ifRangeMatches_error {ifRange : Bytes} (hform : isTagForm (strip ifRange) = false)
    (hraises : Raises file (strip ifRange)) : ifRangeMatches ifRange file = .error .other := by
  rw [ifRangeMatches_eq, hform, if_neg Bool.false_ne_true, unmodifiedSince_eq]
  rcases hraises with hoverflow | ⟨since, hread, hfits⟩
  · rw [hoverflow]
  · rw [hread]
    exact if_neg (by rw [hfits]; exact Bool.false_ne_true)

variable (file) in
/-- Unless it raises, a Range is parsed if If-Range, if there is one, is taken for a match. -/
theorem requestedRange_ok {range : Bytes} (hrange : (extract headers).range = some range)
    (hquiet : ∀ last, range ≠ [] → (extract headers).ifRange = some last →
      isTagForm (strip last) = false → ¬ Raises file (strip last)) :
    ∃ parsed, requestedRange file .get (extract headers) = .ok parsed ∧
      ((∀ last, (extract headers).ifRange = some last → TakesIfRange file last) →
        parsed = parseRangeHeader file.size range) ∧
      (¬ (∀ last, (extract headers).ifRange = some last → TakesIfRange file last) →
        parsed = .ignored) := by
  rw [requestedRange, hrange]
  dsimp only
  by_cases hempty : range = []
  case pos =>
    refine ⟨.ignored, if_neg fun hboth => hboth.1 hempty, fun _ => ?_, fun _ => rfl⟩
    rw [hempty, parseRangeHeader_nil]
  case neg =>
    rw [if_pos ⟨hempty, rfl⟩]
    cases hlast : (extract headers).ifRange with
    | none =>
        refine ⟨_, rfl, fun _ => rfl, fun hnot => ?_⟩
        exact absurd (fun last hsome => by cases hsome) hnot
    | some last =>
        obtain ⟨taken, htaken, hiff⟩ := (ifRangeMatches_iff file last).mpr
          fun hboth => hquiet last hempty hlast hboth.1 hboth.2
        dsimp only
        rw [htaken]
        refine ⟨_, rfl, fun hall => ?_, fun hnot => ?_⟩
        · exact if_pos (hiff.mpr (hall last rfl))
        · refine if_neg fun htrue => hnot ?_
          intro other hother
          obtain rfl := Option.some.inj hother
          exact hiff.mp htrue

variable (file) in
/-- Without a line of Range there is nothing to honour. -/
theorem rangeOf_eq_ignored (hrange : (extract headers).range = none) :
    rangeOf file.size headers = .ignored := by
  rw [extract_eq] at hrange
  rw [rangeOf, fieldValue_eq_none.mpr hrange]

/-- Where there is a response nothing was raised. -/
theorem not_raises_of_requestedRange {range : Bytes} {parsed : ParsedRange file.size}
    (hrange : (extract headers).range = some range)
    (hrequested : requestedRange file .get (extract headers) = .ok parsed) :
    ∀ last, range ≠ [] → (extract headers).ifRange = some last →
      isTagForm (strip last) = false → ¬ Raises file (strip last) := by
  intro last hne hlast hform hraises
  rw [requestedRange, hrange] at hrequested
  dsimp only at hrequested
  rw [if_pos ⟨hne, rfl⟩, hlast] at hrequested
  dsimp only at hrequested
  rw [ifRangeMatches_error hform hraises] at hrequested
  cases hrequested

/-- In a GET with a Range, what is honoured is what should be unless it is misjudged. -/
theorem requestedRange_get {range : Bytes} (hrange : (extract headers).range = some range) :
    (∃ parsed, requestedRange file .get (extract headers) = .ok parsed ∧
        ((HonoursRange file .get thisYear headers current ∧ parsed = rangeOf file.size headers) ∨
          (¬ HonoursRange file .get thisYear headers current ∧ parsed = .ignored))) ↔
      ¬ RangeMisjudged file .get thisYear headers current := by
  constructor
  · rintro ⟨parsed, hrequested, hparsed⟩ hmisjudged
    have hquiet := not_raises_of_requestedRange hrange hrequested
    obtain ⟨other, hother, htaken, hleft⟩ := requestedRange_ok file hrange hquiet
    obtain rfl := Except.ok.inj (hrequested.symm.trans hother)
    cases hmisjudged with
    | raised found last _ hfound hne hlast hform hraises =>
        obtain rfl := Option.some.inj (hrange.symm.trans hfound)
        exact hquiet last hne hlast hform hraises
    | taken found last value _ hfound hlast hvalue htakes hnot hdiffers =>
        obtain rfl := Option.some.inj (hrange.symm.trans hfound)
        have hparse := htaken fun again hagain => by
          obtain rfl := Option.some.inj (hlast.symm.trans hagain)
          exact htakes
        rcases hparsed with ⟨hhonours, -⟩ | ⟨-, hignored⟩
        · exact hnot (hhonours.2 value hvalue)
        · exact hdiffers (hparse.symm.trans hignored)
    | missed last value _ hlast hvalue hnot hmatches hdiffers =>
        have hignored := hleft fun hall => hnot (hall last hlast)
        rcases hparsed with ⟨-, hwhole⟩ | ⟨hother, -⟩
        · exact hdiffers (hwhole.symm.trans hignored)
        · refine hother ⟨rfl, fun again hagain => ?_⟩
          obtain rfl := Option.some.inj (hvalue.symm.trans hagain)
          exact hmatches
    | repeated found _ hfound htakes hmatches hdiffers =>
        obtain rfl := Option.some.inj (hrange.symm.trans hfound)
        rcases hparsed with ⟨-, hwhole⟩ | ⟨hother, -⟩
        · exact hdiffers ((htaken htakes).symm.trans hwhole)
        · exact hother ⟨rfl, hmatches⟩
  · intro hnot
    obtain ⟨parsed, hrequested, htaken, hleft⟩ := requestedRange_ok file hrange
      fun last hne hlast hform hraises => hnot (.raised range last rfl hrange hne hlast hform hraises)
    refine ⟨parsed, hrequested, ?_⟩
    by_cases htakes : ∀ last, (extract headers).ifRange = some last → TakesIfRange file last
    case pos =>
      rw [htaken htakes]
      by_cases hmatches : ∀ value, fieldValue (ascii "if-range") headers = some value →
          RangeMatches file thisYear current value
      case pos =>
        refine .inl ⟨⟨rfl, hmatches⟩, ?_⟩
        by_contra hdiffers
        exact hnot (.repeated range rfl hrange htakes hmatches hdiffers)
      case neg =>
        refine .inr ⟨fun hhonours => hmatches hhonours.2, ?_⟩
        by_contra hdiffers
        apply hmatches
        intro value hvalue
        by_contra hother
        obtain ⟨last, hlast⟩ := exists_ifRange hvalue
        exact hnot (.taken range last value rfl hrange hlast hvalue (htakes last hlast) hother
          hdiffers)
    case neg =>
      rw [hleft htakes]
      by_cases hhonours : HonoursRange file .get thisYear headers current
      case neg => exact .inr ⟨hhonours, rfl⟩
      case pos =>
        refine .inl ⟨hhonours, ?_⟩
        by_contra hdiffers
        apply htakes
        intro last hlast
        by_contra hother
        have hlines := hlast
        rw [extract_eq] at hlines
        obtain ⟨value, hvalue⟩ := exists_fieldValue hlines
        exact hnot (.missed last value rfl hlast hvalue hother (hhonours.2 value hvalue)
          fun hsame => hdiffers hsame.symm)

/-- The Range header comes to what it should unless it is misjudged. -/
theorem requestedRange_iff :
    (∃ parsed, requestedRange file method (extract headers) = .ok parsed ∧
        ((HonoursRange file method thisYear headers current ∧ parsed = rangeOf file.size headers) ∨
          (¬ HonoursRange file method thisYear headers current ∧ parsed = .ignored))) ↔
      ¬ RangeMisjudged file method thisYear headers current := by
  have hignored (hsame : HonoursRange file method thisYear headers current →
      rangeOf file.size headers = .ignored) :
      (HonoursRange file method thisYear headers current ∧
          (.ignored : ParsedRange file.size) = rangeOf file.size headers) ∨
        (¬ HonoursRange file method thisYear headers current ∧
          (.ignored : ParsedRange file.size) = .ignored) := by
    by_cases hhonours : HonoursRange file method thisYear headers current
    · exact .inl ⟨hhonours, (hsame hhonours).symm⟩
    · exact .inr ⟨hhonours, rfl⟩
  cases hrange : (extract headers).range with
  | none =>
      have hnothing := rangeOf_eq_ignored file hrange
      apply iff_of_true
      · refine ⟨.ignored, ?_, hignored fun _ => hnothing⟩
        rw [requestedRange, hrange]
      · intro hmisjudged
        cases hmisjudged with
        | raised _ _ _ hnot => cases hrange.symm.trans hnot
        | taken _ _ _ _ hnot => cases hrange.symm.trans hnot
        | missed _ _ _ _ _ _ _ hparsed => exact hparsed hnothing
        | repeated _ _ hnot => cases hrange.symm.trans hnot
  | some range =>
      cases method with
      | head =>
          apply iff_of_true
          · refine ⟨.ignored, ?_, .inr ⟨fun hhonours => (by cases hhonours.1), rfl⟩⟩
            rw [requestedRange, hrange]
            exact if_neg fun hboth => by cases hboth.2
          · intro hmisjudged
            cases hmisjudged with
            | raised _ _ hget => cases hget
            | taken _ _ _ hget => cases hget
            | missed _ _ hget => cases hget
            | repeated _ hget => cases hget
      | get => exact requestedRange_get hrange

/-- A 304 is prescribed if the client has the file as it is. -/
theorem prescribed_notModified :
    Prescribed file method thisYear headers current .notModified ↔
      NotModified file thisYear headers current := by
  constructor
  · intro hprescribed
    cases hprescribed with
    | notModified hsame => exact hsame
  · exact .notModified

/-- Otherwise it is prescribed whether the Range header is honoured. -/
theorem prescribed_served (parsed : ParsedRange file.size) :
    Prescribed file method thisYear headers current (.served parsed) ↔
      ¬ NotModified file thisYear headers current ∧
        ((HonoursRange file method thisYear headers current ∧
            parsed = rangeOf file.size headers) ∨
          (¬ HonoursRange file method thisYear headers current ∧ parsed = .ignored)) := by
  constructor
  · intro hprescribed
    cases hprescribed with
    | honoured hother hrange => exact ⟨hother, .inl ⟨hrange, rfl⟩⟩
    | whole hother hrange => exact ⟨hother, .inr ⟨hrange, rfl⟩⟩
  · rintro ⟨hother, ⟨hrange, rfl⟩ | ⟨hrange, rfl⟩⟩
    · exact .honoured hother hrange
    · exact .whole hother hrange

/-- What is decided on is what is prescribed unless something is misjudged. -/
theorem decide_iff (htag : latin1Text current.text = file.etag) :
    (∃ outcome, decide? file method (extract headers) = .ok outcome ∧
        Prescribed file method thisYear headers current outcome) ↔
      ¬ StateMisjudged file thisYear headers current ∧
        (¬ NotModified file thisYear headers current →
          ¬ RangeMisjudged file method thisYear headers current) := by
  have hsends := @sends304_iff file thisYear headers current htag
  have hrange := @requestedRange_iff file method thisYear headers current
  constructor
  · rintro ⟨outcome, hdecided, hprescribed⟩
    rw [decide?] at hdecided
    cases hsent : sends304 file (extract headers) with
    | error error =>
        rw [hsent] at hdecided
        cases hdecided
    | ok sent =>
        rw [hsent] at hdecided
        cases sent with
        | true =>
            obtain rfl := Except.ok.inj hdecided
            have hsame := prescribed_notModified.mp hprescribed
            exact ⟨hsends.mp ⟨true, hsent, iff_of_true rfl hsame⟩, fun hother => absurd hsame hother⟩
        | false =>
            cases hrequested : requestedRange file method (extract headers) with
            | error error =>
                rw [hrequested] at hdecided
                cases hdecided
            | ok parsed =>
                rw [hrequested] at hdecided
                obtain rfl := Except.ok.inj hdecided
                obtain ⟨hother, hparsed⟩ := (prescribed_served parsed).mp hprescribed
                exact ⟨hsends.mp ⟨false, hsent, iff_of_false Bool.false_ne_true hother⟩,
                  fun _ => hrange.mp ⟨parsed, hrequested, hparsed⟩⟩
  · rintro ⟨hstate, hranges⟩
    obtain ⟨sent, hsent, hiff⟩ := hsends.mpr hstate
    rw [decide?, hsent]
    cases sent with
    | true => exact ⟨.notModified, rfl, prescribed_notModified.mpr (hiff.mp rfl)⟩
    | false =>
        have hother : ¬ NotModified file thisYear headers current := by
          intro hsame
          cases hiff.mpr hsame
        obtain ⟨parsed, hrequested, hparsed⟩ := hrange.mpr (hranges hother)
        refine ⟨.served parsed, ?_, (prescribed_served parsed).mpr ⟨hother, hparsed⟩⟩
        rw [hrequested]
        rfl

/-- No two outcomes are prescribed. -/
theorem Prescribed.unique {first second : Outcome file.size}
    (hfirst : Prescribed file method thisYear headers current first)
    (hsecond : Prescribed file method thisYear headers current second) : first = second := by
  cases hfirst with
  | notModified hsame =>
      cases hsecond with
      | notModified => rfl
      | honoured hother => exact absurd hsame hother
      | whole hother => exact absurd hsame hother
  | honoured hother hrange =>
      cases hsecond with
      | notModified hsame => exact absurd hsame hother
      | honoured => rfl
      | whole _ hnot => exact absurd hrange hnot
  | whole hother hnot =>
      cases hsecond with
      | notModified hsame => exact absurd hsame hother
      | honoured _ hrange => exact absurd hrange hnot
      | whole => rfl

/-- A response is sent if it has no date, or the file has one. -/
theorem call_eq_ok {outcome : Outcome file.size} {conditions : Conditions} :
    call file method conditions = .ok outcome ↔
      decide? file method conditions = .ok outcome ∧
        (file.hasDate = false → outcome.isDated = false) := by
  rw [call]
  cases decide? file method conditions with
  | error error =>
      refine iff_of_false (fun hnot => by cases hnot) fun hnot => (by cases hnot.1)
  | ok decided =>
      show (if decided.isDated && !file.hasDate then _ else _) = _ ↔ _
      cases hdated : decided.isDated <;> cases hdate : file.hasDate
      · simp only [Bool.false_and, Bool.false_eq_true, if_false]
        constructor
        · intro heq
          obtain rfl := Except.ok.inj heq
          exact ⟨rfl, fun _ => hdated⟩
        · exact fun hboth => hboth.1
      · simp
      · constructor
        · exact fun hnot => by cases hnot
        · rintro ⟨heq, hnot⟩
          obtain rfl := Except.ok.inj heq
          cases hdated.symm.trans (hnot rfl)
      · simp

end Pounce.Static
