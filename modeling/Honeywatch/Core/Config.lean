import Honeywatch.Foundation.Text

/-!
# The settings of the application

Every settings object is read from the environment when it is built, a field
from the variable named by the prefix of its class and its own name. The objects
of the sub-settings are built in the body of the root class, that is while the
module is imported; the root itself is built anew at every call.

How a value parses as a field's type is left to the validation library. An
object that cannot be built, and so an import that fails, is `none`.
-/

namespace Honeywatch.Config

open Text

/-- The variables of a process, or of a file of variables, in their order. -/
abbrev Environ := List (Str × Str)

/-- The value of a variable. Case is ignored, and of several variables that
differ in case the last one counts. -/
def Environ.get (environ : Environ) (name : Str) : Option Str :=
  (environ.reverse.find? fun entry => decide (lower entry.1 = lower name)).map (·.2)

structure DatabaseSettings where
  host : Str
  port : Int
  user : Str
  password : Str
  name : Str

structure RedisSettings where
  host : Str
  port : Int
  db : Int

structure HoneypotSettings where
  sshHost : Str
  sshPort : Int
  sshPublicPort : Option Int
  sshMaxAuthAttempts : Int
  sshTimeout : Int
  sshHostKeyDir : Str
  sshServerVersion : Str
  httpHost : Str
  httpPort : Int
  httpPublicPort : Option Int

structure APISettings where
  host : Str
  port : Int
  authUser : Str
  authPassword : Str

structure GeoIPSettings where
  databasePath : Str
  cacheSize : Int
  enabled : Bool

structure CredentialSettings where
  maxCredentialLengthRaw : Int

/-- The property `max_credential_length`. -/
def CredentialSettings.maxCredentialLength (settings : CredentialSettings) : Int :=
  let value := settings.maxCredentialLengthRaw
  if 1 ≤ value ∧ value ≤ 4096 then value else 256

/-- The sub-settings of the root, by the names of its fields. -/
inductive Part
  | db | redis | honeypot | api | geoip | credential

/-- The class of a sub-settings field. -/
abbrev Part.Settings : Part → Type
  | .db => DatabaseSettings
  | .redis => RedisSettings
  | .honeypot => HoneypotSettings
  | .api => APISettings
  | .geoip => GeoIPSettings
  | .credential => CredentialSettings

/-- The variable that gives a sub-settings object as a whole, in JSON. -/
def Part.variable : Part → Str
  | .db => literal "db"
  | .redis => literal "redis"
  | .honeypot => literal "honeypot"
  | .api => literal "api"
  | .geoip => literal "geoip"
  | .credential => literal "credential"

/-- What the validation library makes of texts: `none` is a `ValidationError`,
or the `SettingsError` of a text that is no JSON. An object may be given in part
by the environment and in part by the file, in that order. -/
structure Pydantic where
  int : Str → Option Int
  bool : Str → Option Bool
  object : (part : Part) → Environ → List Str → Option part.Settings

section Fields

variable {α : Type} (environ : Environ)

/-- The variable of a field. -/
def fieldVariable (envPrefix name : String) : Str := literal envPrefix ++ literal name

/-- A field as the environment gives it, or its default. -/
def readField (envPrefix name : String) (parse : Str → Option α) (default : α) : Option α :=
  match environ.get (fieldVariable envPrefix name) with
  | some value => parse value
  | none => some default

end Fields

section Classes

variable (pydantic : Pydantic) (environ : Environ)

def DatabaseSettings.build : Option DatabaseSettings := do
  let host ← readField environ "DB_" "host" some (literal "localhost")
  let port ← readField environ "DB_" "port" pydantic.int 5432
  let user ← readField environ "DB_" "user" some (literal "honeywatch")
  let password ← readField environ "DB_" "password" some (literal "honeywatch")
  let name ← readField environ "DB_" "name" some (literal "honeywatch")
  return { host, port, user, password, name }

def RedisSettings.build : Option RedisSettings := do
  let host ← readField environ "REDIS_" "host" some (literal "localhost")
  let port ← readField environ "REDIS_" "port" pydantic.int 6379
  let db ← readField environ "REDIS_" "db" pydantic.int 0
  return { host, port, db }

def HoneypotSettings.build : Option HoneypotSettings := do
  let sshHost ← readField environ "HONEYPOT_" "ssh_host" some (literal "0.0.0.0")
  let sshPort ← readField environ "HONEYPOT_" "ssh_port" pydantic.int 2222
  let sshPublicPort ← readField environ "HONEYPOT_" "ssh_public_port"
    (fun value => (pydantic.int value).map some) none
  let sshMaxAuthAttempts ← readField environ "HONEYPOT_" "ssh_max_auth_attempts" pydantic.int 10
  let sshTimeout ← readField environ "HONEYPOT_" "ssh_timeout" pydantic.int 30
  let sshHostKeyDir ←
    readField environ "HONEYPOT_" "ssh_host_key_dir" some (literal "data/ssh_host_keys")
  let sshServerVersion ← readField environ "HONEYPOT_" "ssh_server_version" some
    (literal "OpenSSH_8.9p1 Ubuntu-3ubuntu0.10")
  let httpHost ← readField environ "HONEYPOT_" "http_host" some (literal "0.0.0.0")
  let httpPort ← readField environ "HONEYPOT_" "http_port" pydantic.int 8080
  let httpPublicPort ← readField environ "HONEYPOT_" "http_public_port"
    (fun value => (pydantic.int value).map some) none
  return { sshHost, sshPort, sshPublicPort, sshMaxAuthAttempts, sshTimeout, sshHostKeyDir,
           sshServerVersion, httpHost, httpPort, httpPublicPort }

def APISettings.build : Option APISettings := do
  let host ← readField environ "API_" "host" some (literal "127.0.0.1")
  let port ← readField environ "API_" "port" pydantic.int 8000
  let authUser ← readField environ "API_" "auth_user" some (literal "admin")
  let authPassword ← readField environ "API_" "auth_password" some (literal "changeme")
  return { host, port, authUser, authPassword }

def GeoIPSettings.build : Option GeoIPSettings := do
  let databasePath ←
    readField environ "GEOIP_" "database_path" some (literal "data/geoip/GeoLite2-City.mmdb")
  let cacheSize ← readField environ "GEOIP_" "cache_size" pydantic.int 10000
  let enabled ← readField environ "GEOIP_" "enabled" pydantic.bool true
  return { databasePath, cacheSize, enabled }

def CredentialSettings.build : Option CredentialSettings := do
  let maxCredentialLengthRaw ←
    readField environ "CREDENTIAL_" "max_credential_length_raw" pydantic.int 256
  return { maxCredentialLengthRaw }

/-- The defaults of the sub-settings fields, which the body of the root class
evaluates: `import honeywatch.core.config`. -/
structure Defaults where
  db : DatabaseSettings
  redis : RedisSettings
  honeypot : HoneypotSettings
  api : APISettings
  geoip : GeoIPSettings
  credential : CredentialSettings

def importConfig : Option Defaults := do
  let db ← DatabaseSettings.build pydantic environ
  let redis ← RedisSettings.build pydantic environ
  let honeypot ← HoneypotSettings.build pydantic environ
  let api ← APISettings.build pydantic environ
  let geoip ← GeoIPSettings.build pydantic environ
  let credential ← CredentialSettings.build pydantic environ
  return { db, redis, honeypot, api, geoip, credential }

end Classes

/-- What the root reads: the environment, and the file `.env`, which is `none`
when it cannot be decoded. -/
structure Process where
  environ : Environ
  dotenv : Option Environ

structure Settings where
  environment : Str
  logLevel : Str
  db : DatabaseSettings
  redis : RedisSettings
  honeypot : HoneypotSettings
  api : APISettings
  geoip : GeoIPSettings
  credential : CredentialSettings

section Root

variable (pydantic : Pydantic) (process : Process)

/-- A text field of the root; the environment goes before the file. -/
def rootText (file : Environ) (name : String) (default : String) : Str :=
  ((process.environ.get (literal name)).or (file.get (literal name))).getD (literal default)

/-- The texts that give a sub-settings object as a whole. -/
def objectTexts (file : Environ) (part : Part) : List Str :=
  (process.environ.get part.variable).toList ++ (file.get part.variable).toList

/-- A sub-settings field of the root. -/
def rootPart (file : Environ) (part : Part) (default : part.Settings) : Option part.Settings :=
  match objectTexts process file part with
  | [] => some default
  | texts => pydantic.object part process.environ texts

/-- `get_settings`. -/
def getSettings (defaults : Defaults) : Option Settings := do
  let file ← process.dotenv
  let db ← rootPart pydantic process file .db defaults.db
  let redis ← rootPart pydantic process file .redis defaults.redis
  let honeypot ← rootPart pydantic process file .honeypot defaults.honeypot
  let api ← rootPart pydantic process file .api defaults.api
  let geoip ← rootPart pydantic process file .geoip defaults.geoip
  let credential ← rootPart pydantic process file .credential defaults.credential
  return { environment := rootText process file "environment" "development"
           logLevel := rootText process file "log_level" "INFO"
           db, redis, honeypot, api, geoip, credential }

/-- `get_max_credential_length`. -/
def getMaxCredentialLength (defaults : Defaults) : Int :=
  match getSettings pydantic process defaults with
  | some settings => settings.credential.maxCredentialLength
  | none => 256

end Root

/-! ## What the environment must hold -/

/-- The variables that are read as integers. -/
def integerVariables : List Str :=
  [fieldVariable "DB_" "port", fieldVariable "REDIS_" "port", fieldVariable "REDIS_" "db",
    fieldVariable "HONEYPOT_" "ssh_port", fieldVariable "HONEYPOT_" "ssh_public_port",
    fieldVariable "HONEYPOT_" "ssh_max_auth_attempts", fieldVariable "HONEYPOT_" "ssh_timeout",
    fieldVariable "HONEYPOT_" "http_port", fieldVariable "HONEYPOT_" "http_public_port",
    fieldVariable "API_" "port", fieldVariable "GEOIP_" "cache_size",
    fieldVariable "CREDENTIAL_" "max_credential_length_raw"]

/-- The variables that are read as truth values. -/
def booleanVariables : List Str := [fieldVariable "GEOIP_" "enabled"]

/-- A variable is unset or parses. -/
def Accepted {α : Type} (environ : Environ) (parse : Str → Option α) (name : Str) : Prop :=
  ∀ value, environ.get name = some value → (parse value).isSome = true

/-- Every variable of a typed field is accepted. -/
structure Parses (pydantic : Pydantic) (environ : Environ) : Prop where
  integers : ∀ name ∈ integerVariables, Accepted environ pydantic.int name
  booleans : ∀ name ∈ booleanVariables, Accepted environ pydantic.bool name

variable {α : Type} {pydantic : Pydantic} {environ : Environ} {process : Process}

/-- A variable that is not set cannot be refused. -/
theorem accepted_of_unset {parse : Str → Option α} {name : Str}
    (unset : environ.get name = none) : Accepted environ parse name := by
  intro value set
  rw [unset] at set
  cases set

/-- Where no variable of a typed field is set there is nothing to parse. -/
theorem parses_of_unset
    (unset : ∀ name ∈ integerVariables ++ booleanVariables, environ.get name = none) :
    Parses pydantic environ where
  integers name member := accepted_of_unset (unset name (List.mem_append_left _ member))
  booleans name member := accepted_of_unset (unset name (List.mem_append_right _ member))

/-- A field can be read exactly when its variable is accepted, by the parser of its
type or because it is not set. -/
theorem readField_isSome {envPrefix name : String} {parse : Str → Option α} {default : α} :
    (readField environ envPrefix name parse default).isSome = true ↔
      Accepted environ parse (fieldVariable envPrefix name) := by
  unfold readField Accepted
  cases environ.get (fieldVariable envPrefix name) with
  | none => simp
  | some given => simp

/-- Any text is accepted as text. -/
theorem readText_isSome {envPrefix name : String} {default : Str} :
    (readField environ envPrefix name some default).isSome = true ↔ True :=
  iff_of_true (readField_isSome.mpr fun _ _ => rfl) trivial

/-- An optional integer is accepted as an integer is. -/
theorem readOptional_isSome {envPrefix name : String} {default : Option Int} :
    (readField environ envPrefix name (fun value => (pydantic.int value).map some)
        default).isSome = true ↔
      Accepted environ pydantic.int (fieldVariable envPrefix name) := by
  rw [readField_isSome]
  simp [Accepted]

/-- An object is built when its first field is read and the others are, whatever
value the first field has. -/
theorem bind_isSome {β : Type} {first : Option α} {rest : α → Option β} {head tail : Prop}
    (reads : first.isSome = true ↔ head) (builds : ∀ value, (rest value).isSome = true ↔ tail) :
    (first >>= rest).isSome = true ↔ head ∧ tail := by
  cases first with
  | none =>
    have fails : ¬head := by simpa using reads
    exact iff_of_false (by simp) fun both => fails both.1
  | some value =>
    have holds : head := by simpa using reads
    exact (builds value).trans (and_iff_right holds).symm

/-- Where every field has been read the settings are built. -/
theorem return_isSome (value : α) : (some value).isSome = true ↔ True := by simp

/-- The settings of the database are refused for their port only; the other fields
are text. Each of these lemmas reads the fields in the order of the class. -/
theorem database_isSome :
    (DatabaseSettings.build pydantic environ).isSome = true ↔
      Accepted environ pydantic.int (fieldVariable "DB_" "port") := by
  refine (bind_isSome readText_isSome fun host => bind_isSome readField_isSome fun port =>
    bind_isSome readText_isSome fun user => bind_isSome readText_isSome fun password =>
    bind_isSome readText_isSome fun name => return_isSome _).trans ?_
  simp

/-- Those of Redis for the port and the number of the database, -/
theorem redis_isSome :
    (RedisSettings.build pydantic environ).isSome = true ↔
      Accepted environ pydantic.int (fieldVariable "REDIS_" "port") ∧
        Accepted environ pydantic.int (fieldVariable "REDIS_" "db") := by
  refine (bind_isSome readText_isSome fun host => bind_isSome readField_isSome fun port =>
    bind_isSome readField_isSome fun db => return_isSome _).trans ?_
  simp

/-- those of the honeypots for the ports and the two limits, -/
theorem honeypot_isSome :
    (HoneypotSettings.build pydantic environ).isSome = true ↔
      Accepted environ pydantic.int (fieldVariable "HONEYPOT_" "ssh_port") ∧
        Accepted environ pydantic.int (fieldVariable "HONEYPOT_" "ssh_public_port") ∧
        Accepted environ pydantic.int (fieldVariable "HONEYPOT_" "ssh_max_auth_attempts") ∧
        Accepted environ pydantic.int (fieldVariable "HONEYPOT_" "ssh_timeout") ∧
        Accepted environ pydantic.int (fieldVariable "HONEYPOT_" "http_port") ∧
        Accepted environ pydantic.int (fieldVariable "HONEYPOT_" "http_public_port") := by
  refine (bind_isSome readText_isSome fun sshHost => bind_isSome readField_isSome fun sshPort =>
    bind_isSome readOptional_isSome fun sshPublicPort =>
    bind_isSome readField_isSome fun attempts => bind_isSome readField_isSome fun timeout =>
    bind_isSome readText_isSome fun keyDir => bind_isSome readText_isSome fun version =>
    bind_isSome readText_isSome fun httpHost => bind_isSome readField_isSome fun httpPort =>
    bind_isSome readOptional_isSome fun httpPublicPort => return_isSome _).trans ?_
  simp

/-- those of the API for the port, -/
theorem api_isSome :
    (APISettings.build pydantic environ).isSome = true ↔
      Accepted environ pydantic.int (fieldVariable "API_" "port") := by
  refine (bind_isSome readText_isSome fun host => bind_isSome readField_isSome fun port =>
    bind_isSome readText_isSome fun user => bind_isSome readText_isSome fun password =>
    return_isSome _).trans ?_
  simp

/-- those of the locations for the size of the cache and the switch, -/
theorem geoip_isSome :
    (GeoIPSettings.build pydantic environ).isSome = true ↔
      Accepted environ pydantic.int (fieldVariable "GEOIP_" "cache_size") ∧
        Accepted environ pydantic.bool (fieldVariable "GEOIP_" "enabled") := by
  refine (bind_isSome readText_isSome fun path => bind_isSome readField_isSome fun size =>
    bind_isSome readField_isSome fun enabled => return_isSome _).trans ?_
  simp

/-- and those of the credentials for the length, under the name that the field
really has. -/
theorem credential_isSome :
    (CredentialSettings.build pydantic environ).isSome = true ↔
      Accepted environ pydantic.int
        (fieldVariable "CREDENTIAL_" "max_credential_length_raw") := by
  refine (bind_isSome readField_isSome fun raw => return_isSome _).trans ?_
  simp

/-- The module can be imported exactly when every typed variable is accepted: the
settings are built while it is imported, and the first variable refused raises. -/
theorem importConfig_isSome :
    (importConfig pydantic environ).isSome = true ↔ Parses pydantic environ := by
  refine (bind_isSome database_isSome fun db => bind_isSome redis_isSome fun redis =>
    bind_isSome honeypot_isSome fun honeypot => bind_isSome api_isSome fun api =>
    bind_isSome geoip_isSome fun geoip => bind_isSome credential_isSome fun credential =>
    return_isSome _).trans ?_
  constructor
  · rintro ⟨db, redis, honeypot, api, ⟨size, enabled⟩, credential, -⟩
    constructor
    · simp only [integerVariables, List.mem_cons, List.not_mem_nil, or_false, forall_eq_or_imp,
        forall_eq]
      exact ⟨db, redis.1, redis.2, honeypot.1, honeypot.2.1, honeypot.2.2.1, honeypot.2.2.2.1,
        honeypot.2.2.2.2.1, honeypot.2.2.2.2.2, api, size, credential⟩
    · simpa only [booleanVariables, List.forall_mem_singleton] using enabled
  · rintro ⟨integers, booleans⟩
    simp only [integerVariables, List.mem_cons, List.not_mem_nil, or_false, forall_eq_or_imp,
      forall_eq] at integers
    simp only [booleanVariables, List.forall_mem_singleton] at booleans
    obtain ⟨db, redisPort, redisDb, port, publicPort, attempts, timeout, httpPort,
      httpPublicPort, api, size, credential⟩ := integers
    exact ⟨db, ⟨redisPort, redisDb⟩,
      ⟨port, publicPort, attempts, timeout, httpPort, httpPublicPort⟩, api, ⟨size, booleans⟩,
      credential, trivial⟩

/-- What the import leaves as the default of the credential settings is what they
are built to at that time. -/
theorem importConfig_credential {defaults : Defaults}
    (imported : importConfig pydantic environ = some defaults) :
    CredentialSettings.build pydantic environ = some defaults.credential := by
  simp only [importConfig, Option.bind_eq_bind, Option.bind_eq_some_iff] at imported
  obtain ⟨db, -, redis, -, honeypot, -, api, -, geoip, -, credential, built, kept⟩ := imported
  cases kept
  exact built

/-- No sub-settings object is given as a whole, and the file can be decoded. -/
def Process.Plain (process : Process) : Prop :=
  ∃ file, process.dotenv = some file ∧ ∀ part, objectTexts process file part = []

/-- In such a process the sub-settings of every root object are the defaults. -/
theorem getSettings_plain (pydantic : Pydantic) (plain : process.Plain) (defaults : Defaults) :
    ∃ settings, getSettings pydantic process defaults = some settings ∧
      settings.credential = defaults.credential := by
  obtain ⟨file, decoded, unset⟩ := plain
  simp only [getSettings, decoded, rootPart, unset, Option.bind_eq_bind, Option.bind_some]
  exact ⟨_, rfl, rfl⟩

end Honeywatch.Config
