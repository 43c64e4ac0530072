import Honeywatch.Core.Config
import Honeywatch.Honeypot.Http

/-!
# The configured length of credentials

The documented variable is `CREDENTIAL_MAX_CREDENTIAL_LENGTH`; the field is named
`max_credential_length_raw`, and so the settings read
`CREDENTIAL_MAX_CREDENTIAL_LENGTH_RAW`. What the documented variable holds reaches
nothing. The range check of the property and the handler of the getter do replace
bad values, but a value that does not parse never gets that far: the import fails
on it.
-/

namespace Honeywatch.Honeypot.Http

open Text Digits Utf8 FormEncoding Config

def documentedVariable : Str := literal "CREDENTIAL_MAX_CREDENTIAL_LENGTH"

/-- The variable that the field is read from. -/
def fieldVariableRead : Str := fieldVariable "CREDENTIAL_" "max_credential_length_raw"

/-- The limit that a number stands for: itself where the range admits it. -/
def limitOf : Option Int → Nat
  | some value => if 1 ≤ value ∧ value ≤ 4096 then value.toNat else 256
  | none => 256

/-- The limit that a variable asks for. -/
def requested (pydantic : Pydantic) (environ : Environ) (name : Str) : Nat :=
  limitOf ((environ.get name).bind pydantic.int)

/-- The value of a field as it was submitted. -/
def submittedValue (name : String) (rawBody : List Byte) : List Char :=
  match decodeStrict rawBody with
  | none => []
  | some decoded => firstValue (parseQs decoded) name

/-- The honeypot under the settings of a process. -/
def HTTPHoneypot.under (honeypot : HTTPHoneypot) (settings : Option Settings) : HTTPHoneypot :=
  { honeypot with
    maxCredentialLengthRaw :=
      settings.map fun settings => settings.credential.maxCredentialLengthRaw }

/-- The longest prefix within a limit. -/
structure LongestPrefix {α : Type} (limit : Nat) (text kept : List α) : Prop where
  begins : kept <+: text
  within : kept.length ≤ limit
  longest : ∀ other, other <+: text → other.length ≤ limit → other.length ≤ kept.length

/-- Cutting a text off keeps its longest prefix within the limit; a shorter text is
kept whole. -/
theorem longestPrefix_take {α : Type} (limit : Nat) (text : List α) :
    LongestPrefix limit text (text.take limit) where
  begins := List.take_prefix limit text
  within := List.length_take_le limit text
  longest := by
    intro other begins within
    rw [List.length_take]
    exact Nat.le_min.mpr ⟨within, begins.length_le⟩

variable {pydantic : Pydantic} {process : Process} {defaults : Defaults}

/-- Extraction cuts the submitted values to the limit in use, each on its own. -/
theorem extractCredentials_take (honeypot : HTTPHoneypot) (rawBody : List Byte) :
    (honeypot.extractCredentials rawBody).email =
        (submittedValue "email" rawBody).take honeypot.maxCredentialLength ∧
      (honeypot.extractCredentials rawBody).password =
        (submittedValue "password" rawBody).take honeypot.maxCredentialLength := by
  unfold HTTPHoneypot.extractCredentials submittedValue
  cases decodeStrict rawBody with
  | none => exact ⟨List.take_nil.symm, List.take_nil.symm⟩
  | some decoded => exact ⟨rfl, rfl⟩

/-- The range check of the property, as a limit. -/
theorem maxCredentialLength_limitOf (settings : CredentialSettings) :
    settings.maxCredentialLength = limitOf (some settings.maxCredentialLengthRaw) := by
  simp only [CredentialSettings.maxCredentialLength, limitOf]
  split_ifs with accepted
  · exact (Int.toNat_of_nonneg (by omega)).symm
  · rfl

/-- The honeypot's limit is what `get_max_credential_length` returns, with the same
settings behind both. -/
theorem maxCredentialLength_under (honeypot : HTTPHoneypot) (process : Process) :
    ((honeypot.under (getSettings pydantic process defaults)).maxCredentialLength : Int) =
      getMaxCredentialLength pydantic process defaults := by
  unfold getMaxCredentialLength HTTPHoneypot.maxCredentialLength HTTPHoneypot.under
  cases getSettings pydantic process defaults with
  | none => rfl
  | some settings => exact (maxCredentialLength_limitOf settings.credential).symm

/-- Credential settings hold the limit that the variable of the field asks for. The
prefix is put before the name of the field, which ends in `_raw`. -/
theorem credential_limit {environ : Environ} {settings : CredentialSettings}
    (built : CredentialSettings.build pydantic environ = some settings) :
    limitOf (some settings.maxCredentialLengthRaw) =
      requested pydantic environ fieldVariableRead := by
  obtain ⟨raw, read, kept⟩ := Option.bind_eq_some_iff.mp built
  cases kept
  unfold readField at read
  unfold requested fieldVariableRead
  cases given : environ.get (fieldVariable "CREDENTIAL_" "max_credential_length_raw") with
  | none =>
    rw [given] at read
    cases read
    rfl
  | some value =>
    rw [given] at read
    exact congrArg limitOf read.symm

/-- An imported module returns the limit that the variable of the field asks for,
with the default where the variable is not set. -/
theorem getMaxCredentialLength_read (plain : process.Plain)
    (imported : importConfig pydantic process.environ = some defaults) :
    getMaxCredentialLength pydantic process defaults =
      requested pydantic process.environ fieldVariableRead := by
  obtain ⟨settings, built, kept⟩ := getSettings_plain pydantic plain defaults
  have length : getMaxCredentialLength pydantic process defaults =
      settings.credential.maxCredentialLength := by
    rw [getMaxCredentialLength, built]
  rw [length, maxCredentialLength_limitOf, kept,
    credential_limit (importConfig_credential imported)]

/-- The documented variable is honoured: the module can be imported, and its limit
is the one asked for and the one that credentials are cut to. -/
def Honoured (pydantic : Pydantic) (process : Process) : Prop :=
  ∃ defaults, importConfig pydantic process.environ = some defaults ∧
    getMaxCredentialLength pydantic process defaults =
      requested pydantic process.environ documentedVariable ∧
    ∀ (honeypot : HTTPHoneypot) (rawBody : List Byte),
      let submission :=
        (honeypot.under (getSettings pydantic process defaults)).extractCredentials rawBody
      let limit := requested pydantic process.environ documentedVariable
      LongestPrefix limit (submittedValue "email" rawBody) submission.email ∧
        LongestPrefix limit (submittedValue "password" rawBody) submission.password

/-- The documented variable is honoured exactly when every variable of a typed
field parses and the field's own variable asks for the same limit. -/
theorem documented_length_honoured_iff (pydantic : Pydantic) (process : Process)
    (plain : process.Plain) :
    Honoured pydantic process ↔
      Parses pydantic process.environ ∧
        requested pydantic process.environ fieldVariableRead =
          requested pydantic process.environ documentedVariable := by
  constructor
  · rintro ⟨defaults, imported, length, -⟩
    have read := getMaxCredentialLength_read plain imported
    refine ⟨importConfig_isSome.mp (Option.isSome_iff_exists.mpr ⟨defaults, imported⟩), ?_⟩
    exact_mod_cast read.symm.trans length
  · rintro ⟨parses, same⟩
    obtain ⟨defaults, imported⟩ := Option.isSome_iff_exists.mp (importConfig_isSome.mpr parses)
    have read := getMaxCredentialLength_read plain imported
    rw [same] at read
    refine ⟨defaults, imported, read, ?_⟩
    intro honeypot rawBody submission limit
    have cut : (honeypot.under (getSettings pydantic process defaults)).maxCredentialLength =
        limit := by
      exact_mod_cast (maxCredentialLength_under honeypot process).trans read
    obtain ⟨email, password⟩ := extractCredentials_take
      (honeypot.under (getSettings pydantic process defaults)) rawBody
    rw [cut] at email password
    constructor
    · exact email ▸ longestPrefix_take limit _
    · exact password ▸ longestPrefix_take limit _

/-- Integers in decimal digits. -/
def decimalPydantic : Pydantic where
  int text := do
    let digits ← toChars text
    if digits ≠ [] ∧ digits.all (isDigit 10) then some (number 10 digits) else none
  bool _ := none
  object _ _ _ := none

/-- A process with one variable set and no file. -/
def processWith (value : String) : Process where
  environ := [(documentedVariable, literal value)]
  dotenv := some []

/-- A documented variable that is set to the default is honoured, for the limit has
this value anyway. -/
theorem documented_length_honoured_iff_default :
    (processWith "256").Plain ∧ Parses decimalPydantic (processWith "256").environ ∧
      Honoured decimalPydantic (processWith "256") := by
  have plain : (processWith "256").Plain := ⟨[], rfl, by
    intro part
    cases part <;> decide +kernel⟩
  have parses : Parses decimalPydantic (processWith "256").environ :=
    parses_of_unset (by decide +kernel)
  exact ⟨plain, parses, (documented_length_honoured_iff decimalPydantic _ plain).mpr
    ⟨parses, by decide +kernel⟩⟩

/-- The documented variable asks for 512 characters, and 256 are kept: no field
reads that variable. -/
theorem documented_length_ignored : ¬Honoured decimalPydantic (processWith "512") := by
  rintro ⟨defaults, imported, length, -⟩
  have plain : (processWith "512").Plain := ⟨[], rfl, by
    intro part
    cases part <;> decide +kernel⟩
  have read := getMaxCredentialLength_read plain imported
  have unread : requested decimalPydantic (processWith "512").environ fieldVariableRead = 256 := by
    decide +kernel
  have asked : requested decimalPydantic (processWith "512").environ documentedVariable = 512 := by
    decide +kernel
  rw [length, unread, asked] at read
  omega

end Honeywatch.Honeypot.Http
