import Honeywatch.Foundation.FormRoundTrip
import Honeywatch.Honeypot.Http

/-!
# The credentials of an encoded form

Extraction undoes encoding: of the bytes of an urlencoded form, whatever names
and values it holds, the honeypot extracts the first email and the first
password that were encoded, cut to the configured number of characters. The
fields of other names play no part, wherever they stand.
-/

namespace Honeywatch.Honeypot.Http

open Utf8 FormEncoding

/-- A limit that the settings accept. -/
abbrev CredentialLimit := { limit : Nat // 1 ≤ limit ∧ limit ≤ 4096 }

/-- The honeypot with a limit configured. -/
def HTTPHoneypot.limited (honeypot : HTTPHoneypot) (limit : CredentialLimit) : HTTPHoneypot :=
  { honeypot with maxCredentialLengthRaw := some limit.val }

/-- A limit that the settings accept is the one in use. -/
theorem maxCredentialLength_limited (honeypot : HTTPHoneypot) (limit : CredentialLimit) :
    (honeypot.limited limit).maxCredentialLength = limit.val := by
  obtain ⟨value, positive, small⟩ := limit
  have accepted : (1 : Int) ≤ (value : Int) ∧ (value : Int) ≤ 4096 := by omega
  simp only [HTTPHoneypot.limited, HTTPHoneypot.maxCredentialLength, if_pos accepted,
    Int.toNat_natCast]

/-- What is extracted of an encoded form, under any settings: the first values of
the two names, cut to the limit. -/
theorem extractCredentials_urlencode (honeypot : HTTPHoneypot)
    (fields : List (List Char × List Char)) :
    honeypot.extractCredentials (asciiBytes (urlencode fields)) =
      { email := (firstValue fields "email").take honeypot.maxCredentialLength
        password := (firstValue fields "password").take honeypot.maxCredentialLength
        parsed := true } := by
  rw [HTTPHoneypot.extractCredentials, decodeStrict_asciiBytes _ (urlencode_ascii fields)]
  simp only [parseQs_urlencode]

/-- A field that the extraction reads. -/
def isCredentialField (field : List Char × List Char) : Bool :=
  decide (field.1 = "email".toList ∨ field.1 = "password".toList)

/-- A first value is found among the fields of its name, so fields of other names
can be left out of the form. -/
theorem firstValue_filter (keep : List Char × List Char → Bool) (name : String)
    (kept : ∀ field, field.1 = name.toList → keep field = true)
    (fields : List (List Char × List Char)) :
    firstValue (fields.filter keep) name = firstValue fields name := by
  have narrowed : (fun field => keep field && decide (field.1 = name.toList)) =
      fun field => decide (field.1 = name.toList) := by
    funext field
    by_cases named : field.1 = name.toList
    · simp [named, kept field named]
    · simp [named]
  simp only [firstValue, List.find?_filter, ← Bool.and_eq_true, Bool.decide_eq_true, narrowed]

/-- Only the credential fields and their order matter; a field of another name may
stand anywhere. -/
theorem firstValue_credential (name : String) (read : name = "email" ∨ name = "password")
    (fields : List (List Char × List Char)) :
    firstValue (fields.filter isCredentialField) name = firstValue fields name := by
  apply firstValue_filter
  intro field named
  apply decide_eq_true
  rcases read with rfl | rfl
  · exact .inl named
  · exact .inr named

/-- For every list of fields and every limit that the settings accept: of the
UTF-8 bytes of the encoded list, the extraction returns the first characters of
the first email and of the first password, as many as the limit allows, and
reports the form as parsed. Two lists with the same credential fields in the same
order give the same result, whatever other fields they hold. -/
theorem extraction_undoes_encoding (honeypot : HTTPHoneypot) (limit : CredentialLimit)
    (fields : List (List Char × List Char)) :
    (honeypot.limited limit).extractCredentials (encode (urlencode fields)) =
        { email := (firstValue fields "email").take limit.val
          password := (firstValue fields "password").take limit.val
          parsed := true } ∧
      ∀ others : List (List Char × List Char),
        others.filter isCredentialField = fields.filter isCredentialField →
        (honeypot.limited limit).extractCredentials (encode (urlencode others)) =
          (honeypot.limited limit).extractCredentials (encode (urlencode fields)) := by
  have extracted (form : List (List Char × List Char)) :
      (honeypot.limited limit).extractCredentials (encode (urlencode form)) =
        { email := (firstValue form "email").take limit.val
          password := (firstValue form "password").take limit.val
          parsed := true } := by
    rw [encode_ascii _ (urlencode_ascii form), extractCredentials_urlencode,
      maxCredentialLength_limited]
  constructor
  · exact extracted fields
  · intro others same
    rw [extracted others, extracted fields]
    rw [← firstValue_credential "email" (.inl rfl) others,
      ← firstValue_credential "password" (.inr rfl) others, same,
      firstValue_credential "email" (.inl rfl) fields,
      firstValue_credential "password" (.inr rfl) fields]

end Honeywatch.Honeypot.Http
