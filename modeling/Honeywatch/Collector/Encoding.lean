import Honeywatch.Collector.Events
import Honeywatch.Foundation.JsonRoundTrip

/-!
# The queue encoding

`AttackEvent.to_json_str` and `from_json_str`. Identifiers and timestamps are
written as strings and read in the form they are written in. The encoder raises
when a string anywhere in the event holds a lone surrogate; the decoder fills a
missing identifier, timestamp or `raw_data` with its default. An event survives
the queue when it is encoded and decoding gives the event, whatever the defaults
would have been.
-/

namespace Honeywatch.Collector

open Text Json Digits

/-- The digits of a fixed width at the start of a text, and what follows. -/
def readFixed (base width : Nat) (text : List Char) : Option (Nat × List Char) :=
  if (text.take width).length = width ∧ (text.take width).all (isDigit base) then
    some (number base (text.take width), text.drop width)
  else none

/-- `str(uuid)`. -/
def printUuid (id : Uuid) : List Char :=
  fixed 16 8 (id.val / 16 ^ 24) ++ '-' :: (fixed 16 4 (id.val / 16 ^ 20) ++ '-' ::
    (fixed 16 4 (id.val / 16 ^ 16) ++ '-' :: (fixed 16 4 (id.val / 16 ^ 12) ++ '-' ::
      fixed 16 12 id.val)))

/-- A UUID in its hyphenated form. -/
def parseUuid (text : List Char) : Option Uuid := do
  let timeLow ← readFixed 16 8 text
  let timeMid ← readFixed 16 4 (← expect ['-'] timeLow.2)
  let timeHigh ← readFixed 16 4 (← expect ['-'] timeMid.2)
  let clock ← readFixed 16 4 (← expect ['-'] timeHigh.2)
  let node ← readFixed 16 12 (← expect ['-'] clock.2)
  guard (node.2 = [])
  return Fin.ofNat (2 ^ 128) (timeLow.1 * 16 ^ 24 + timeMid.1 * 16 ^ 20 + timeHigh.1 * 16 ^ 16 +
    clock.1 * 16 ^ 12 + node.1)

/-- An id for examples. -/
def numbered (number : Nat) : Uuid := Fin.ofNat (2 ^ 128) number

/-- Microseconds, left out when they are zero. -/
def printMicrosecond (microsecond : Nat) : List Char :=
  if microsecond = 0 then [] else '.' :: fixed 10 6 microsecond

def printDate (time : DateTime) : List Char :=
  fixed 10 4 time.year ++ '-' :: (fixed 10 2 time.month ++ '-' :: fixed 10 2 time.day)

def printClock (time : DateTime) : List Char :=
  fixed 10 2 time.hour ++ ':' :: (fixed 10 2 time.minute ++ ':' :: (fixed 10 2 time.second ++
    printMicrosecond time.microsecond))

/-- An RFC 3339 timestamp in UTC. -/
def printDateTime (time : DateTime) : List Char :=
  printDate time ++ 'T' :: (printClock time ++ ['Z'])

/-- A fraction of a second, to the microsecond. -/
def parseMicrosecond (text : List Char) : Option (Nat × List Char) :=
  match expect ['.'] text with
  | none => some (0, text)
  | some after =>
    let digits := (takeDigits after).1
    if digits = [] then none
    else some (number 10 (digits.take 6) * 10 ^ (6 - digits.length), (takeDigits after).2)

/-- Year, month and day, and what follows. -/
def parseDate (text : List Char) : Option ((Nat × Nat × Nat) × List Char) := do
  let year ← readFixed 10 4 text
  let month ← readFixed 10 2 (← expect ['-'] year.2)
  let day ← readFixed 10 2 (← expect ['-'] month.2)
  return ((year.1, month.1, day.1), day.2)

/-- Hour, minute, second and microsecond, and what follows. -/
def parseClock (text : List Char) : Option ((Nat × Nat × Nat × Nat) × List Char) := do
  let hour ← readFixed 10 2 text
  let minute ← readFixed 10 2 (← expect [':'] hour.2)
  let second ← readFixed 10 2 (← expect [':'] minute.2)
  let microsecond ← parseMicrosecond second.2
  return ((hour.1, minute.1, second.1, microsecond.1), microsecond.2)

/-- The timestamp of its parts, within the calendar. -/
def makeDateTime (date : Nat × Nat × Nat) (clock : Nat × Nat × Nat × Nat) : Option DateTime :=
  if valid : (1 ≤ date.1 ∧ date.1 ≤ 9999) ∧ (1 ≤ date.2.1 ∧ date.2.1 ≤ 12) ∧
      (1 ≤ date.2.2 ∧ date.2.2 ≤ daysInMonth date.1 date.2.1) ∧ clock.1 < 24 ∧
      clock.2.1 < 60 ∧ clock.2.2.1 < 60 ∧ clock.2.2.2 < 1000000 then
    some
      { year := date.1
        month := date.2.1
        day := date.2.2
        hour := clock.1
        minute := clock.2.1
        second := clock.2.2.1
        microsecond := clock.2.2.2
        valid }
  else none

/-- A timestamp in the form it is written in. -/
def parseDateTime (text : List Char) : Option DateTime := do
  let date ← parseDate text
  let clock ← parseClock (← expect ['T'] date.2)
  guard (clock.2 = ['Z'])
  makeDateTime date.1 clock.1

/-- `Literal["ssh", "http"]` of a string. -/
def parseProtocol (text : Str) : Option Protocol :=
  if text = literal "ssh" then some .ssh
  else if text = literal "http" then some .http
  else none

/-- The fields of an event in the order of the model. -/
def AttackEvent.fields (event : AttackEvent) : Dict :=
  [(literal "id", .str (ofChars (printUuid event.id))),
    (literal "timestamp", .str (ofChars (printDateTime event.timestamp))),
    (literal "source_ip", .str event.sourceIp),
    (literal "source_port", .int event.sourcePort),
    (literal "destination_port", .int event.destinationPort),
    (literal "protocol", .str event.protocol.value),
    (literal "event_type", .str event.eventType),
    (literal "raw_data", .obj event.rawData)]

/-- The text of a string; only asked for where there is one. -/
def denoted (text : Str) : List Char := (toChars text).getD []

/-- `to_json_str`; none when the encoder raises. -/
def AttackEvent.toJsonStr (event : AttackEvent) : Option (List Char) :=
  if ∀ text ∈ (Value.obj event.fields).texts, WellFormed text then
    some ((Value.obj event.fields).map denoted).print
  else none

def asStr : Value Str → Option Str
  | .str text => some text
  | _ => none

def asInt : Value Str → Option Int
  | .int value => some value
  | _ => none

def asDict : Value Str → Option Dict
  | .obj fields => some fields
  | _ => none

/-- A field by its reader, or its default. -/
def readField {Item : Type} (fields : Dict) (name : String) (missing : Option Item)
    (read : Value Str → Option Item) : Option Item :=
  match Json.get fields (literal name) with
  | some value => read value
  | none => missing

/-- The validation of the fields of an event. -/
def readEvent (defaults : Stamp) (fields : Dict) : Option AttackEvent := do
  let id ← readField fields "id" (some defaults.id) fun value =>
    ((asStr value).bind toChars).bind parseUuid
  let timestamp ← readField fields "timestamp" (some defaults.timestamp) fun value =>
    ((asStr value).bind toChars).bind parseDateTime
  let sourceIp ← readField fields "source_ip" none asStr
  let sourcePort ← readField fields "source_port" none asInt
  let destinationPort ← readField fields "destination_port" none asInt
  let protocol ← readField fields "protocol" none fun value => (asStr value).bind parseProtocol
  let eventType ← readField fields "event_type" none asStr
  let rawData ← readField fields "raw_data" (some []) asDict
  return { id, timestamp, sourceIp, sourcePort, destinationPort, protocol, eventType, rawData }

/-- `from_json_str`; none when the validation fails. -/
def fromJsonStr (defaults : Stamp) (text : List Char) : Option AttackEvent := do
  let value ← parse text
  let fields ← asDict (value.load ofChars)
  readEvent defaults fields

/-- The event is encoded, and decoding gives the event. -/
def AttackEvent.Survives (event : AttackEvent) : Prop :=
  ∀ defaults, ∃ payload, event.toJsonStr = some payload ∧
    fromJsonStr defaults payload = some event

/-- The strings of an event that are not of a fixed form. -/
def AttackEvent.texts (event : AttackEvent) : List Str :=
  event.sourceIp :: event.eventType :: Value.fieldTexts event.rawData

/-- Reading as many digits as were written gives the number, up to the digits that
did not fit, and leaves the rest of the text. -/
theorem readFixed_fixed (base width value : Nat) (rest : List Char) (positive : 0 < base)
    (small : base ≤ 16) :
    readFixed base width (fixed base width value ++ rest) =
      some (value % base ^ width, rest) := by
  have taken : (fixed base width value ++ rest).take width = fixed base width value := by
    rw [List.take_append_of_le_length (Nat.le_of_eq (fixed_length base width value).symm),
      List.take_of_length_le (Nat.le_of_eq (fixed_length base width value))]
  have dropped : (fixed base width value ++ rest).drop width = rest := by
    rw [List.drop_append_of_le_length (Nat.le_of_eq (fixed_length base width value).symm),
      List.drop_of_length_le (Nat.le_of_eq (fixed_length base width value)), List.nil_append]
  have all : (fixed base width value).all (isDigit base) = true :=
    List.all_eq_true.mpr (fixed_digits base width value positive small)
  rw [readFixed, taken, dropped, if_pos ⟨fixed_length base width value, all⟩,
    number_fixed base width value positive small]

/-- Where all digits fit, it gives the number itself. Every field of a date and of
an identifier is read back by this. -/
theorem readFixed_of_lt (base width value : Nat) (rest : List Char) (positive : 0 < base)
    (small : base ≤ 16) (fits : value < base ^ width) :
    readFixed base width (fixed base width value ++ rest) = some (value, rest) := by
  rw [readFixed_fixed base width value rest positive small, Nat.mod_eq_of_lt fits]

/-- An expected character is taken from the front of the text. -/
@[simp] theorem expect_cons (head : Char) (rest : List Char) :
    expect [head] (head :: rest) = some rest := by
  simp [expect]

/-- An identifier survives its text: its five groups of digits are read back and put
together again. -/
theorem parseUuid_print (id : Uuid) : parseUuid (printUuid id) = some id := by
  have bounded := id.isLt
  have node := readFixed_fixed 16 12 id.val [] (by decide) (by decide)
  rw [List.append_nil] at node
  have whole : id.val / 16 ^ 24 % 16 ^ 8 * 16 ^ 24 + id.val / 16 ^ 20 % 16 ^ 4 * 16 ^ 20 +
      id.val / 16 ^ 16 % 16 ^ 4 * 16 ^ 16 + id.val / 16 ^ 12 % 16 ^ 4 * 16 ^ 12 +
        id.val % 16 ^ 12 = id.val := by
    omega
  have back : Fin.ofNat (2 ^ 128) id.val = id := Fin.ext (Nat.mod_eq_of_lt bounded)
  simp only [parseUuid, printUuid, readFixed_fixed 16 _ _ _ (by decide : 0 < 16) (by decide),
    expect_cons, node, Option.bind_eq_bind, Option.bind_some, whole, back, guard, if_true,
    Option.pure_def]

/-- No month has more days than fit into two digits. -/
theorem daysInMonth_le (year month : Nat) : daysInMonth year month ≤ 31 := by
  unfold daysInMonth
  repeat' split
  all_goals decide

/-- The fraction of a second survives, both where it is left out and where it is
written with six digits. -/
theorem parseMicrosecond_print (microsecond : Nat) (fits : microsecond < 10 ^ 6) :
    parseMicrosecond (printMicrosecond microsecond ++ ['Z']) = some (microsecond, ['Z']) := by
  unfold printMicrosecond
  split
  · next zero =>
    subst zero
    rfl
  · have read := takeDigits_append (fixed 10 6 microsecond) ['Z']
      (fixed_digits 10 6 microsecond (by decide) (by decide))
      (show isDigit 10 'Z' = false by decide)
    have written : fixed 10 6 microsecond ≠ [] := by simp [fixed]
    have taken : (fixed 10 6 microsecond).take 6 = fixed 10 6 microsecond :=
      List.take_of_length_le (Nat.le_of_eq (fixed_length 10 6 microsecond))
    simp [parseMicrosecond, read, written, taken,
      number_fixed_of_lt 10 6 microsecond (by decide) (by decide) fits]

/-- A date survives. Its fields are bounded by what makes a date valid, so each of
them fits into its digits. -/
theorem parseDate_print (time : DateTime) (rest : List Char) :
    parseDate (printDate time ++ rest) = some ((time.year, time.month, time.day), rest) := by
  obtain ⟨years, months, days, _⟩ := time.valid
  have longest := daysInMonth_le time.year time.month
  have year := readFixed_of_lt 10 4 time.year
    ('-' :: (fixed 10 2 time.month ++ '-' :: (fixed 10 2 time.day ++ rest)))
    (by decide) (by decide) (by omega)
  have month := readFixed_of_lt 10 2 time.month ('-' :: (fixed 10 2 time.day ++ rest))
    (by decide) (by decide) (by omega)
  have day := readFixed_of_lt 10 2 time.day rest (by decide) (by decide) (by omega)
  simp [parseDate, printDate, year, month, day]

/-- The time of a day survives with its fraction and the final letter of the zone.
-/
theorem parseClock_print (time : DateTime) :
    parseClock (printClock time ++ ['Z']) =
      some ((time.hour, time.minute, time.second, time.microsecond), ['Z']) := by
  obtain ⟨_, _, _, hours, minutes, seconds, microseconds⟩ := time.valid
  have fraction := parseMicrosecond_print time.microsecond microseconds
  have hour := readFixed_of_lt 10 2 time.hour
    (':' :: (fixed 10 2 time.minute ++ ':' :: (fixed 10 2 time.second ++
      (printMicrosecond time.microsecond ++ ['Z'])))) (by decide) (by decide) (by omega)
  have minute := readFixed_of_lt 10 2 time.minute
    (':' :: (fixed 10 2 time.second ++ (printMicrosecond time.microsecond ++ ['Z'])))
    (by decide) (by decide) (by omega)
  have second := readFixed_of_lt 10 2 time.second (printMicrosecond time.microsecond ++ ['Z'])
    (by decide) (by decide) (by omega)
  simp [parseClock, printClock, hour, minute, second, fraction]

/-- A timestamp survives: its two parts do, and what is read is valid because it
was. -/
theorem parseDateTime_print (time : DateTime) :
    parseDateTime (printDateTime time) = some time := by
  have made : makeDateTime (time.year, time.month, time.day)
      (time.hour, time.minute, time.second, time.microsecond) = some time :=
    dif_pos time.valid
  simp [parseDateTime, printDateTime, parseDate_print, parseClock_print, made, guard]

/-- The name of a protocol is read as this protocol. -/
@[simp] theorem parseProtocol_value (protocol : Protocol) :
    parseProtocol protocol.value = some protocol := by
  cases protocol <;> decide

/-- The fields of an event read back as the event. Identifier and timestamp are
among them, so no default is used. -/
theorem readEvent_fields (defaults : Stamp) (event : AttackEvent) :
    readEvent defaults event.fields = some event := by
  have id : readField event.fields "id" (some defaults.id) (fun value =>
      ((asStr value).bind toChars).bind parseUuid) = some event.id := by
    show ((toChars (ofChars (printUuid event.id))).bind parseUuid) = some event.id
    rw [toChars_ofChars, Option.bind_some, parseUuid_print]
  have timestamp : readField event.fields "timestamp" (some defaults.timestamp) (fun value =>
      ((asStr value).bind toChars).bind parseDateTime) = some event.timestamp := by
    show ((toChars (ofChars (printDateTime event.timestamp))).bind parseDateTime) =
      some event.timestamp
    rw [toChars_ofChars, Option.bind_some, parseDateTime_print]
  have sourceIp : readField event.fields "source_ip" none asStr = some event.sourceIp := rfl
  have sourcePort : readField event.fields "source_port" none asInt = some event.sourcePort := rfl
  have destinationPort : readField event.fields "destination_port" none asInt =
      some event.destinationPort := rfl
  have protocol : readField event.fields "protocol" none (fun value =>
      (asStr value).bind parseProtocol) = some event.protocol :=
    parseProtocol_value event.protocol
  have eventType : readField event.fields "event_type" none asStr = some event.eventType := rfl
  have rawData : readField event.fields "raw_data" (some []) asDict = some event.rawData := rfl
  simp only [readEvent, id, timestamp, sourceIp, sourcePort, destinationPort, protocol, eventType,
    rawData, Option.bind_eq_bind, Option.bind_some, Option.pure_def]

/-- Text without lone surrogates is the text of its characters, so nothing is lost
when it is written as such. -/
theorem denoted_ofChars {text : Str} (wellFormed : WellFormed text) :
    ofChars (denoted text) = text := by
  obtain ⟨chars, read⟩ := Option.isSome_iff_exists.mp ((toChars_isSome_iff text).mpr wellFormed)
  rw [denoted, read]
  exact ofChars_of_toChars read

/-- What is written in the source has no lone surrogates. -/
theorem literal_wellFormed (text : String) : WellFormed (literal text) := ofChars_wellFormed _

/-- Every string of the encoded event is text exactly when those are that are
not of a fixed form. -/
theorem texts_wellFormed_iff (event : AttackEvent) :
    (∀ text ∈ (Value.obj event.fields).texts, WellFormed text) ↔
      ∀ text ∈ event.texts, WellFormed text := by
  have protocol : WellFormed event.protocol.value := by
    cases event.protocol <;> exact literal_wellFormed _
  simp only [Value.texts, AttackEvent.fields, Value.fieldTexts, AttackEvent.texts,
    List.forall_mem_cons, List.forall_mem_append, List.append_nil, literal_wellFormed,
    ofChars_wellFormed, protocol, true_and]
  tauto

/-- The object of an event has each key once, so no field shadows another one when
it is read. -/
theorem fields_distinct (event : AttackEvent) : (event.fields.map Prod.fst).Nodup := by
  simp only [AttackEvent.fields, List.map_cons, List.map_nil]
  decide

/-- The encoder raises exactly on a lone surrogate. -/
theorem toJsonStr_none_iff (event : AttackEvent) :
    event.toJsonStr = none ↔ ¬ ∀ text ∈ event.texts, WellFormed text := by
  rw [← texts_wellFormed_iff]
  simp [AttackEvent.toJsonStr]

/-- Decoding an encoded event whose `raw_data` is a dictionary gives the event: a
text that was printed parses as what was printed, and its fields read back. -/
theorem fromJsonStr_toJsonStr (event : AttackEvent) (payload : List Char) (defaults : Stamp)
    (distinct : (event.rawData.map Prod.fst).Nodup) (keyed : Value.KeyedFields event.rawData)
    (encoded : event.toJsonStr = some payload) : fromJsonStr defaults payload = some event := by
  rw [AttackEvent.toJsonStr, Option.ite_none_right_eq_some] at encoded
  obtain ⟨wellFormed, written⟩ := encoded
  have dictionary : (Value.obj event.fields).Keyed :=
    ⟨fields_distinct event, trivial, trivial, trivial, trivial, trivial, trivial, trivial,
      ⟨distinct, keyed⟩, trivial⟩
  have loaded : ((Value.obj event.fields).map denoted).load ofChars = .obj event.fields :=
    Value.load_map _ (fun text member => denoted_ofChars (wellFormed text member)) dictionary
  rw [← Option.some.inj written, fromJsonStr, parse_print]
  simp only [Option.bind_eq_bind, Option.bind_some, loaded, asDict]
  exact readEvent_fields defaults event

/-- An event whose `raw_data` is a dictionary survives the queue exactly when
none of its strings holds a lone surrogate. -/
theorem survives_iff (event : AttackEvent) (distinct : (event.rawData.map Prod.fst).Nodup)
    (keyed : Value.KeyedFields event.rawData) :
    event.Survives ↔ ∀ text ∈ event.texts, WellFormed text := by
  constructor
  · intro survives
    by_contra lone
    obtain ⟨payload, encoded, _⟩ := survives ⟨event.id, event.timestamp⟩
    rw [(toJsonStr_none_iff event).mpr lone] at encoded
    contradiction
  · intro wellFormed defaults
    obtain ⟨payload, encoded⟩ := Option.ne_none_iff_exists'.mp fun none =>
      (toJsonStr_none_iff event).mp none wellFormed
    exact ⟨payload, encoded, fromJsonStr_toJsonStr event payload defaults distinct keyed encoded⟩

end Honeywatch.Collector
