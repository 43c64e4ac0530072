import Mathlib.Data.List.Infix
import Mathlib.Data.List.DropRight
import Mathlib.Order.Fin.Basic

/-!
# Strings of code points

A string is a list of code points, surrogates included: a decoder may hand over
lone surrogates where the bytes were no text. Text proper is a list of Unicode
scalar values. A string is text exactly when it holds no surrogate, and the two
views are inverse to each other there.

Lower-casing covers the code points whose lower case begins with an ASCII
letter; every other code point is lowered to something outside ASCII and is
kept, which no comparison with an ASCII constant can observe.
-/

namespace Honeywatch.Text

/-- A Unicode code point; U+D800..U+DFFF are surrogates. -/
abbrev CodePoint := Fin 0x110000

abbrev Str := List CodePoint

/-- Surrogates are the code points that are not scalar values. -/
def isSurrogate (point : CodePoint) : Bool :=
  decide (0xD800 ≤ point.val) && decide (point.val ≤ 0xDFFF)

/-- The range of the surrogates, as inequalities. -/
theorem isSurrogate_iff (point : CodePoint) :
    isSurrogate point = true ↔ 0xD800 ≤ point.val ∧ point.val ≤ 0xDFFF := by
  simp [isSurrogate]

/-- Scalar values lie on either side of the surrogates, within Unicode. -/
theorem char_range (char : Char) :
    char.toNat < 0xD800 ∨ (0xDFFF < char.toNat ∧ char.toNat < 0x110000) := by
  have valid := char.valid
  simpa only [UInt32.isValidChar, Nat.isValidChar, Char.toNat_val] using valid

/-- A scalar value is a code point. -/
def ofChar (char : Char) : CodePoint :=
  ⟨char.toNat, by
    have range := char_range char
    omega⟩

/-- A character is the code point with its number. -/
@[simp] theorem ofChar_val (char : Char) : (ofChar char).val = char.toNat := rfl

def ofChars (chars : List Char) : Str := chars.map ofChar

/-- A literal of the source. -/
def literal (text : String) : Str := ofChars text.toList

/-- The scalar value at a code point that is no surrogate. -/
def toChar (point : CodePoint) : Option Char :=
  if isSurrogate point then none else some (Char.ofNat point.val)

/-- The text a string denotes; none when it holds a lone surrogate. -/
def toChars (text : Str) : Option (List Char) := text.mapM toChar

/-- No lone surrogate occurs. -/
def WellFormed (text : Str) : Prop := ∀ point ∈ text, isSurrogate point = false

instance (text : Str) : Decidable (WellFormed text) := List.decidableBAll _ text

/-- Scalar values are never surrogates. -/
theorem ofChar_scalar (char : Char) : isSurrogate (ofChar char) = false := by
  have range := char_range char
  rw [← Bool.not_eq_true, isSurrogate_iff, ofChar_val]
  omega

/-- Text read as a string holds no surrogate. -/
theorem ofChars_wellFormed (chars : List Char) : WellFormed (ofChars chars) := by
  intro point member
  obtain ⟨char, _, rfl⟩ := List.mem_map.mp member
  exact ofChar_scalar char

/-- The empty text has no surrogates, -/
@[simp] theorem wellFormed_nil : WellFormed [] := by simp [WellFormed]

/-- and a text has none exactly when none of its parts has. -/
@[simp] theorem wellFormed_append (left right : Str) :
    WellFormed (left ++ right) ↔ WellFormed left ∧ WellFormed right := by
  simp only [WellFormed, List.mem_append]
  constructor
  · intro both
    exact ⟨fun point member => both point (.inl member),
      fun point member => both point (.inr member)⟩
  · rintro ⟨first, second⟩ point (member | member)
    · exact first point member
    · exact second point member

/-- A character is read back from its code point, for it is no surrogate. -/
@[simp] theorem toChar_ofChar (char : Char) : toChar (ofChar char) = some char := by
  rw [toChar, ofChar_scalar]
  simp [ofChar]

/-- A scalar code point is recovered from its scalar value, so a text that can be
read is determined by its characters. -/
theorem ofChar_of_toChar {point : CodePoint} {char : Char} (read : toChar point = some char) :
    ofChar char = point := by
  unfold toChar at read
  split at read
  · simp at read
  · next scalar =>
    have same : Char.ofNat point.val = char := Option.some.inj read
    have bounded := point.isLt
    rw [isSurrogate_iff] at scalar
    have valid : point.val.isValidChar := by
      simp only [Nat.isValidChar]
      omega
    have kept : (Char.ofNat point.val).toNat = point.val := by
      rw [Char.ofNat, dif_pos valid]
      rfl
    exact Fin.ext (same ▸ kept)

/-- So is a text from its code points. By induction over its characters. -/
@[simp] theorem toChars_ofChars (chars : List Char) : toChars (ofChars chars) = some chars := by
  induction chars with
  | nil => rfl
  | cons char rest inductionHypothesis =>
    simp only [toChars, ofChars, List.map_cons, List.mapM_cons, toChar_ofChar,
      Option.bind_eq_bind, Option.bind_some] at inductionHypothesis ⊢
    rw [inductionHypothesis]
    rfl

/-- Reading a string as text loses nothing; the induction is on the string. -/
theorem ofChars_of_toChars {text : Str} {chars : List Char} (read : toChars text = some chars) :
    ofChars chars = text := by
  induction text generalizing chars with
  | nil =>
    have same : [] = chars := Option.some.inj read
    exact same ▸ rfl
  | cons point rest inductionHypothesis =>
    simp only [toChars, List.mapM_cons, Option.bind_eq_bind, Option.bind_eq_some_iff,
      Option.pure_def, Option.some.injEq] at read
    obtain ⟨char, first, tail, later, rfl⟩ := read
    simp only [ofChars, List.map_cons, ofChar_of_toChar first]
    exact congrArg (point :: ·) (inductionHypothesis later)

/-- A string denotes text exactly when it is well formed, that is, when it holds no
lone surrogate. -/
theorem toChars_isSome_iff (text : Str) : (toChars text).isSome ↔ WellFormed text := by
  constructor
  · intro read
    obtain ⟨chars, denoted⟩ := Option.isSome_iff_exists.mp read
    exact ofChars_of_toChars denoted ▸ ofChars_wellFormed chars
  · intro wellFormed
    induction text with
    | nil => rfl
    | cons point rest inductionHypothesis =>
      have scalar : isSurrogate point = false := wellFormed point (by simp)
      have later := inductionHypothesis fun other member => wellFormed other (by simp [member])
      obtain ⟨chars, denoted⟩ := Option.isSome_iff_exists.mp later
      simp only [toChars] at denoted
      simp [toChars, toChar, scalar, denoted]

/-- Case-folding of the code points whose lower case starts in ASCII: the ASCII
capitals, the Kelvin sign, and the capital I with a dot above. -/
def lowerPoint (point : CodePoint) : Str :=
  if 0x41 ≤ point.val ∧ point.val ≤ 0x5A then [point + 0x20]
  else if point.val = 0x212A then [0x6B]
  else if point.val = 0x130 then [0x69, 0x307]
  else [point]

/-- `str.lower` as far as ASCII constants can observe it. -/
def lower (text : Str) : Str := text.flatMap lowerPoint

/-- Lowercasing goes character by character, so it can be done in parts. -/
theorem lower_append (left right : Str) : lower (left ++ right) = lower left ++ lower right :=
  List.flatMap_append

/-- Lower-casing keeps what begins a string at its beginning. -/
theorem lower_begins {part text : Str} (begins : part <+: text) : lower part <+: lower text := by
  obtain ⟨rest, rfl⟩ := begins
  exact ⟨lower rest, (lower_append part rest).symm⟩

/-- Lower-casing keeps what occurs in a string within it. -/
theorem lower_inside {part text : Str} (inside : part <:+: text) : lower part <:+: lower text := by
  obtain ⟨before, after, rfl⟩ := inside
  exact ⟨lower before, lower after, by simp only [lower_append]⟩

/-- `str.rstrip` with one character. -/
def rstrip (stripped : CodePoint) (text : Str) : Str :=
  text.rdropWhile fun point => decide (point = stripped)

/-- Only the stripped character is missing at the end, as often as it stood there.
-/
theorem rstrip_append (stripped : CodePoint) (text : Str) :
    ∃ count, text = rstrip stripped text ++ List.replicate count stripped := by
  have same : ∀ point ∈ text.rtakeWhile (fun point => decide (point = stripped)),
      point = stripped := by
    intro point member
    simpa using List.mem_rtakeWhile_imp member
  refine ⟨(text.rtakeWhile fun point => decide (point = stripped)).length, ?_⟩
  rw [← List.eq_replicate_of_mem same, rstrip, List.rdropWhile_append_rtakeWhile]

end Honeywatch.Text
