import Honeywatch.Foundation.FormEncoding

/-!
# Searching decoded bytes

Bytes decoded with replacement keep their ASCII: each ASCII byte becomes its
character, and each stretch of other bytes becomes a stretch of other
characters, whether it was well-formed or not. So a nonempty ASCII text occurs
in what was decoded exactly where its bytes occur in the bytes.
-/

namespace Honeywatch.Utf8

open FormEncoding

/-- Text and bytes agree on ASCII: between the same ASCII there are other
characters on the one side where there are other bytes on the other. -/
inductive Aligned : List Char → List Byte → Prop
  | nil : Aligned [] []
  | ascii (char : Char) (byte : Byte) (small : char.toNat < 0x80) (same : asciiByte char = byte)
      (text : List Char) (bytes : List Byte) (rest : Aligned text bytes) :
      Aligned (char :: text) (byte :: bytes)
  | other (chars : List Char) (read : List Byte) (someChars : chars ≠ []) (someBytes : read ≠ [])
      (large : ∀ char ∈ chars, 0x80 ≤ char.toNat) (high : ∀ byte ∈ read, 0x80 ≤ byte.val)
      (text : List Char) (bytes : List Byte) (rest : Aligned text bytes) :
      Aligned (chars ++ text) (read ++ bytes)

/-- Some text that can be searched for: ASCII, and not empty. -/
structure Pattern where
  chars : List Char
  ascii : ∀ char ∈ chars, char.toNat < 0x80
  nonempty : chars ≠ []

/-- An ASCII character is the byte with its number, -/
theorem asciiByte_val {char : Char} (small : char.toNat < 0x80) :
    (asciiByte char).val = char.toNat := by
  simp only [asciiByte, Fin.val_ofNat]
  exact Nat.mod_eq_of_lt (by omega)

/-- so different characters are different bytes, and a search for text is one for
bytes. -/
theorem asciiByte_inj {left right : Char} (one : left.toNat < 0x80) (other : right.toNat < 0x80)
    (same : asciiByte left = asciiByte right) : left = right := by
  have values := congrArg Fin.val same
  rw [asciiByte_val one, asciiByte_val other] at values
  exact Char.toNat_inj.mp values

section Search

/-- ASCII is a beginning of the text when its bytes are one of the bytes. A
character of several bytes has none below 128, so it matches on neither side. -/
theorem Aligned.prefix_iff {text : List Char} {bytes : List Byte} (aligned : Aligned text bytes)
    (searched : List Char) (ascii : ∀ char ∈ searched, char.toNat < 0x80) :
    searched <+: text ↔ searched.map asciiByte <+: bytes := by
  induction aligned generalizing searched with
  | nil => simp
  | ascii char byte small same text bytes _ inductionHypothesis =>
    cases searched with
    | nil => simp
    | cons first later =>
      rw [List.forall_mem_cons] at ascii
      rw [List.map_cons, List.cons_prefix_cons, List.cons_prefix_cons,
        inductionHypothesis later ascii.2, ← same]
      constructor
      · rintro ⟨rfl, tail⟩
        exact ⟨rfl, tail⟩
      · rintro ⟨equal, tail⟩
        exact ⟨asciiByte_inj ascii.1 small equal, tail⟩
  | other chars read someChars someBytes large high text bytes _ _ =>
    cases searched with
    | nil => simp
    | cons first later =>
      have small := ascii first (List.mem_cons_self ..)
      obtain ⟨char, chars, rfl⟩ := List.exists_cons_of_ne_nil someChars
      obtain ⟨byte, read, rfl⟩ := List.exists_cons_of_ne_nil someBytes
      have one := large char (List.mem_cons_self ..)
      have two := high byte (List.mem_cons_self ..)
      rw [List.map_cons, List.cons_append, List.cons_append, List.cons_prefix_cons,
        List.cons_prefix_cons]
      constructor
      · rintro ⟨rfl, _⟩
        omega
      · rintro ⟨rfl, _⟩
        rw [asciiByte_val small] at two
        omega

/-- Nothing searched for begins with what it does not hold, so these items can be
skipped. -/
theorem infix_append_of_absent {α : Type} {searched : List α} (some_searched : searched ≠ [])
    {skipped : List α} (absent : ∀ item ∈ skipped, item ∉ searched) (rest : List α) :
    searched <:+: skipped ++ rest ↔ searched <:+: rest := by
  induction skipped with
  | nil => rfl
  | cons item later inductionHypothesis =>
    have here : ¬ searched <+: item :: (later ++ rest) := by
      intro beginning
      obtain ⟨first, others, rfl⟩ := List.exists_cons_of_ne_nil some_searched
      obtain ⟨rfl, _⟩ := List.cons_prefix_cons.mp beginning
      exact absent first (List.mem_cons_self ..) (List.mem_cons_self ..)
    rw [List.cons_append, List.infix_cons_iff, or_iff_right here]
    exact inductionHypothesis fun other member => absent other (List.mem_cons_of_mem _ member)

/-- A pattern occurs in the text exactly when its bytes occur in the bytes, broken
sequences included: what replaces them is no ASCII. -/
theorem Aligned.infix_iff {text : List Char} {bytes : List Byte} (aligned : Aligned text bytes)
    (pattern : Pattern) :
    pattern.chars <:+: text ↔ pattern.chars.map asciiByte <:+: bytes := by
  have some_bytes : pattern.chars.map asciiByte ≠ [] := by
    simpa using pattern.nonempty
  induction aligned with
  | nil => simp
  | ascii char byte small same text bytes rest inductionHypothesis =>
    have begins := (Aligned.ascii char byte small same text bytes rest).prefix_iff pattern.chars
      pattern.ascii
    rw [List.infix_cons_iff, List.infix_cons_iff, begins]
    exact or_congr_right inductionHypothesis
  | other chars read _ _ large high text bytes _ inductionHypothesis =>
    rw [infix_append_of_absent pattern.nonempty, infix_append_of_absent some_bytes]
    · exact inductionHypothesis
    · intro byte member inside
      obtain ⟨char, searched, rfl⟩ := List.mem_map.mp inside
      have small := pattern.ascii char searched
      have two := high _ member
      rw [asciiByte_val small] at two
      omega
    · intro char member inside
      have small := pattern.ascii char inside
      have one := large char member
      omega

end Search

/-- A sequence in the middle: bytes above ASCII so far, and whatever follows
within the bounds, the value at its end is a scalar value above ASCII. -/
structure Promising (pending : Pending) : Prop where
  first : 0x80 ≤ pending.first.val
  others : ∀ byte ∈ pending.others, 0x80 ≤ byte.val
  missing : 1 ≤ pending.missing
  low : 0x80 ≤ pending.low
  high : pending.high ≤ 0xBF
  least : 0x80 ≤ (pending.value * 64 + (pending.low - 0x80)) * 64 ^ (pending.missing - 1)
  scalar : (pending.value * 64 + (pending.high - 0x80) + 1) * 64 ^ (pending.missing - 1) ≤ 0xD800 ∨
    (0xE000 ≤ (pending.value * 64 + (pending.low - 0x80)) * 64 ^ (pending.missing - 1) ∧
      (pending.value * 64 + (pending.high - 0x80) + 1) * 64 ^ (pending.missing - 1) ≤ 0x110000)

/-- What a byte opens is promising, and holds this byte alone; the bounds exclude
surrogates and forms that are too long. -/
theorem opening_promising {byte : Byte} {pending : Pending}
    (opened : opening byte = some pending) :
    Promising pending ∧ pending.first = byte ∧ pending.others = [] := by
  unfold opening at opened
  split at opened
  · cases opened
  -- sequences of two, three and four bytes
  split at opened
  · cases opened
    refine ⟨?_, rfl, rfl⟩
    constructor <;> simp <;> omega
  split at opened
  · cases opened
    refine ⟨?_, rfl, rfl⟩
    constructor <;> simp <;> (try split) <;> (try split) <;> omega
  split at opened
  · cases opened
    refine ⟨?_, rfl, rfl⟩
    constructor <;> simp <;> (try split) <;> (try split) <;> omega
  · cases opened

/-- A byte within the bounds keeps the promise, on the way to the last byte of its
sequence. -/
theorem Promising.extended {pending : Pending} (promising : Promising pending) {byte : Byte}
    (within : pending.low ≤ byte.val ∧ byte.val ≤ pending.high)
    (unfinished : ¬ pending.missing ≤ 1) :
    Promising
      { first := pending.first
        others := pending.others ++ [byte]
        value := pending.value * 0x40 + (byte.val - 0x80)
        missing := pending.missing - 1 } := by
  obtain ⟨first, others, missing, low, high, least, scalar⟩ := promising
  obtain ⟨further, counted⟩ : ∃ further, pending.missing = further + 2 :=
    ⟨pending.missing - 2, by omega⟩
  have weight : 64 ^ (pending.missing - 1) = 64 * 64 ^ further := by
    rw [counted, show further + 2 - 1 = further + 1 by omega, Nat.pow_succ, Nat.mul_comm]
  have less : pending.missing - 1 - 1 = further := by omega
  rw [weight, ← Nat.mul_assoc] at least scalar
  rw [← Nat.mul_assoc] at scalar
  have above : (pending.value * 64 + (pending.low - 0x80)) * 64 * 64 ^ further ≤
      (pending.value * 64 + (byte.val - 0x80)) * 64 * 64 ^ further := by
    apply Nat.mul_le_mul_right
    omega
  have below : ((pending.value * 64 + (byte.val - 0x80)) * 64 + 64) * 64 ^ further ≤
      (pending.value * 64 + (pending.high - 0x80) + 1) * 64 * 64 ^ further := by
    apply Nat.mul_le_mul_right
    omega
  constructor
  · exact first
  · intro other member
    rcases List.mem_append.mp member with before | last
    · exact others other before
    · rw [List.mem_singleton.mp last]
      omega
  · simp only
    omega
  · exact le_refl _
  · exact le_refl _
  · simp only [less, Nat.sub_self, Nat.add_zero]
    exact least.trans above
  · simp only [less, Nat.sub_self, Nat.add_zero]
    rcases scalar with small | ⟨beyond, bounded⟩
    · left
      exact below.trans small
    · right
      exact ⟨beyond.trans above, below.trans bounded⟩

/-- The last byte keeps it: what is read is a scalar value above ASCII, so it is no
character of a pattern. -/
theorem Promising.finished {pending : Pending} (promising : Promising pending) {byte : Byte}
    (within : pending.low ≤ byte.val ∧ byte.val ≤ pending.high) (finished : pending.missing ≤ 1) :
    0x80 ≤ (Char.ofNat (pending.value * 0x40 + (byte.val - 0x80))).toNat := by
  obtain ⟨_, _, missing, low, high, least, scalar⟩ := promising
  have last : pending.missing - 1 = 0 := by omega
  rw [last, Nat.pow_zero, Nat.mul_one] at least scalar
  rw [Nat.mul_one] at scalar
  have valid : (pending.value * 0x40 + (byte.val - 0x80)).isValidChar := by
    rcases scalar with small | ⟨beyond, bounded⟩
    · left
      omega
    · right
      omega
  have read : (Char.ofNat (pending.value * 0x40 + (byte.val - 0x80))).toNat =
      pending.value * 0x40 + (byte.val - 0x80) := by
    rw [Char.ofNat, dif_pos valid]
    rfl
  rw [read]
  omega

/-- The character of a piece that is no ASCII. -/
theorem replacement_large : 0x80 ≤ (Char.ofNat 0xFFFD).toNat := by decide

/-- A single character beyond ASCII, with the bytes that it was read from: no ASCII
character is among them, so none can match there. -/
theorem Aligned.other_one {char : Char} {read : List Byte} (someBytes : read ≠ [])
    (large : 0x80 ≤ char.toNat) (high : ∀ byte ∈ read, 0x80 ≤ byte.val) {text : List Char}
    {bytes : List Byte} (rest : Aligned text bytes) : Aligned (char :: text) (read ++ bytes) := by
  apply Aligned.other [char] read (List.cons_ne_nil _ _) someBytes _ high text bytes rest
  intro other member
  rw [List.mem_singleton.mp member]
  exact large

/-- A byte between two sequences, with what follows it, whether it is a character,
opens a sequence or is replaced. -/
theorem start_aligned (byte : Byte) (rest : List Byte)
    (between : Aligned ((pieces none rest).map Piece.replaced) rest)
    (inside : ∀ pending, Promising pending →
      Aligned ((pieces (some pending) rest).map Piece.replaced)
        (pending.first :: pending.others ++ rest)) :
    Aligned (((start byte).1 ++ pieces (start byte).2 rest).map Piece.replaced)
      (byte :: rest) := by
  unfold start
  by_cases small : byte.val < 0x80
  · rw [if_pos small]
    have value : (Char.ofNat byte.val).toNat = byte.val := by
      rw [Char.ofNat, dif_pos (Or.inl (by omega))]
      rfl
    apply Aligned.ascii _ _ _ _ _ _ between
    · exact value.trans_lt small
    · exact Fin.ext ((asciiByte_val (value.symm ▸ small)).trans value)
  · rw [if_neg small]
    cases opened : opening byte with
    | none =>
      refine Aligned.other_one (List.cons_ne_nil byte []) replacement_large ?_ between
      intro other member
      rw [List.mem_singleton.mp member]
      omega
    | some pending =>
      obtain ⟨promising, first, others⟩ := opening_promising opened
      have aligned := inside pending promising
      rw [first, others] at aligned
      exact aligned

/-- Decoding keeps text and bytes aligned, between sequences and inside one. Both
are shown together, as a broken sequence leads from the one to the other. -/
theorem pieces_aligned (bytes : List Byte) :
    Aligned ((pieces none bytes).map Piece.replaced) bytes ∧
      ∀ pending, Promising pending →
        Aligned ((pieces (some pending) bytes).map Piece.replaced)
          (pending.first :: pending.others ++ bytes) := by
  induction bytes with
  | nil =>
    refine ⟨.nil, ?_⟩
    intro pending promising
    apply Aligned.other_one (List.cons_ne_nil _ _) replacement_large _ .nil
    exact List.forall_mem_cons.mpr ⟨promising.first, promising.others⟩
  | cons byte rest inductionHypothesis =>
    obtain ⟨between, inside⟩ := inductionHypothesis
    have fresh := start_aligned byte rest between inside
    refine ⟨fresh, ?_⟩
    intro pending promising
    have read : ∀ other ∈ pending.first :: pending.others, 0x80 ≤ other.val :=
      List.forall_mem_cons.mpr ⟨promising.first, promising.others⟩
    rw [pieces, step]
    by_cases within : pending.low ≤ byte.val ∧ byte.val ≤ pending.high
    · rw [if_pos within, extend]
      have joined : pending.first :: pending.others ++ byte :: rest =
          (pending.first :: (pending.others ++ [byte])) ++ rest := by simp
      by_cases finished : pending.missing ≤ 1
      · simp only [if_pos finished]
        rw [joined]
        apply Aligned.other_one (List.cons_ne_nil _ _) (promising.finished within finished) _
          between
        intro other member
        rcases List.mem_cons.mp member with rfl | later
        · exact promising.first
        · rcases List.mem_append.mp later with before | last
          · exact promising.others other before
          · rw [List.mem_singleton.mp last]
            have low := promising.low
            omega
      · simp only [if_neg finished]
        rw [joined]
        exact inside _ (promising.extended within finished)
    · rw [if_neg within]
      exact Aligned.other_one (List.cons_ne_nil _ _) replacement_large read fresh

/-- A pattern occurs in decoded bytes exactly when its bytes occur in the bytes. -/
theorem infix_decodeReplace_iff (pattern : Pattern) (bytes : List Byte) :
    pattern.chars <:+: decodeReplace bytes ↔ pattern.chars.map asciiByte <:+: bytes :=
  (pieces_aligned bytes).1.infix_iff pattern

end Honeywatch.Utf8
