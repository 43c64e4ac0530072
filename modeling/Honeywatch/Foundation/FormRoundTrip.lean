import Honeywatch.Foundation.FormEncoding
import Mathlib.Data.List.SplitBy

/-!
# Encoding a form and reading it again

UTF-8 encoding and `urllib.parse.urlencode`. What is written of a character
decodes to the character, whatever follows. A quoted name or value holds no
ampersand and no equals sign, so a form is taken apart where it was put
together, and its fields are read as they were written.
-/

namespace Honeywatch.Utf8

/-- A byte of a number below 256. -/
def byteOf (value : Nat) : Byte := ⟨value % 256, Nat.mod_lt _ (Nat.succ_pos 255)⟩

/-- A number below 256 is a byte as it is. -/
theorem byteOf_val (value : Nat) (small : value < 256) : (byteOf value).val = value :=
  Nat.mod_eq_of_lt small

/-- The bytes of a character. -/
def encodeChar (char : Char) : List Byte :=
  let value := char.toNat
  if value < 0x80 then [byteOf value]
  else if value < 0x800 then [byteOf (0xC0 + value / 0x40), byteOf (0x80 + value % 0x40)]
  else if value < 0x10000 then
    [byteOf (0xE0 + value / 0x1000), byteOf (0x80 + value / 0x40 % 0x40),
      byteOf (0x80 + value % 0x40)]
  else
    [byteOf (0xF0 + value / 0x40000), byteOf (0x80 + value / 0x1000 % 0x40),
      byteOf (0x80 + value / 0x40 % 0x40), byteOf (0x80 + value % 0x40)]

/-- `text.encode("utf-8")`. -/
def encode (text : List Char) : List Byte := text.flatMap encodeChar

/-- A byte of ASCII is a character. -/
theorem pieces_ascii (byte : Byte) (rest : List Byte) (ascii : byte.val < 0x80) :
    pieces none (byte :: rest) = .scalar (Char.ofNat byte.val) :: pieces none rest := by
  simp [pieces, step, start, ascii]

/-- A byte that opens a sequence. -/
theorem pieces_opening (byte : Byte) (rest : List Byte) (pending : Pending)
    (high : 0x80 ≤ byte.val) (opens : opening byte = some pending) :
    pieces none (byte :: rest) = pieces (some pending) rest := by
  have above : ¬ byte.val < 0x80 := Nat.not_lt.mpr high
  simp [pieces, step, start, above, opens]

/-- A byte within its bounds that is not the last one joins the sequence, and the
bounds of the next are the plain ones. -/
theorem pieces_middle (pending : Pending) (byte : Byte) (rest : List Byte)
    (low : pending.low ≤ byte.val) (high : byte.val ≤ pending.high)
    (more : 1 < pending.missing) :
    pieces (some pending) (byte :: rest) =
      pieces (some
        { first := pending.first
          others := pending.others ++ [byte]
          value := pending.value * 0x40 + (byte.val - 0x80)
          missing := pending.missing - 1 }) rest := by
  have several : ¬ pending.missing ≤ 1 := Nat.not_le.mpr more
  simp [pieces, step, extend, low, high, several]

/-- The last byte completes the value. -/
theorem pieces_last (pending : Pending) (byte : Byte) (rest : List Byte)
    (low : pending.low ≤ byte.val) (high : byte.val ≤ pending.high)
    (last : pending.missing ≤ 1) :
    pieces (some pending) (byte :: rest) =
      .scalar (Char.ofNat (pending.value * 0x40 + (byte.val - 0x80))) :: pieces none rest := by
  simp [pieces, step, extend, low, high, last]

/-- The first byte of two: which bytes may open a sequence, with how many to follow,
is the table of the decoder, and this and the next two lemmas read it for the
encoder. -/
theorem opening_two (byte : Byte) (low : 0xC2 ≤ byte.val) (high : byte.val < 0xE0) :
    opening byte = some { first := byte, value := byte.val - 0xC0, missing := 1 } := by
  rw [opening, if_neg (by omega), if_pos high]

/-- The first byte of three. After two of these bytes the range of the second byte
is narrower: against overlong forms and against surrogates. -/
theorem opening_three (byte : Byte) (low : 0xE0 ≤ byte.val) (high : byte.val < 0xF0) :
    opening byte = some
      { first := byte
        value := byte.val - 0xE0
        missing := 2
        low := if byte.val = 0xE0 then 0xA0 else 0x80
        high := if byte.val = 0xED then 0x9F else 0xBF } := by
  rw [opening, if_neg (by omega), if_neg (by omega), if_pos high]

/-- The first byte of four, with a narrower second byte at both ends of the range.
-/
theorem opening_four (byte : Byte) (low : 0xF0 ≤ byte.val) (high : byte.val < 0xF5) :
    opening byte = some
      { first := byte
        value := byte.val - 0xF0
        missing := 3
        low := if byte.val = 0xF0 then 0x90 else 0x80
        high := if byte.val = 0xF4 then 0x8F else 0xBF } := by
  rw [opening, if_neg (by omega), if_neg (by omega), if_neg (by omega), if_pos high]

/-- What is written of a character decodes to it, whatever follows. The cases are
the four lengths, and each of them checks the bounds of its second byte. -/
theorem pieces_encodeChar (char : Char) (rest : List Byte) :
    pieces none (encodeChar char ++ rest) = .scalar char :: pieces none rest := by
  have range := Text.char_range char
  have same : Char.ofNat char.toNat = char := Char.ofNat_toNat char
  unfold encodeChar
  by_cases one : char.toNat < 0x80
  · have value := byteOf_val char.toNat (by omega)
    simp only [one, if_true, List.singleton_append]
    rw [pieces_ascii _ _ (by omega), value, same]
  by_cases two : char.toNat < 0x800
  · have first := byteOf_val (0xC0 + char.toNat / 0x40) (by omega)
    have second := byteOf_val (0x80 + char.toNat % 0x40) (by omega)
    simp only [one, two, if_true, if_false, List.cons_append, List.nil_append]
    rw [pieces_opening _ _ _ (by omega) (opening_two _ (by omega) (by omega)),
      pieces_last _ _ _ (by simp only; omega) (by simp only; omega) (by simp only; omega)]
    have whole : (0xC0 + char.toNat / 0x40 - 0xC0) * 0x40 + (0x80 + char.toNat % 0x40 - 0x80) =
        char.toNat := by
      omega
    simp only [first, second, whole, same]
  by_cases three : char.toNat < 0x10000
  · have first := byteOf_val (0xE0 + char.toNat / 0x1000) (by omega)
    have second := byteOf_val (0x80 + char.toNat / 0x40 % 0x40) (by omega)
    have third := byteOf_val (0x80 + char.toNat % 0x40) (by omega)
    simp only [one, two, three, if_true, if_false, List.cons_append, List.nil_append]
    -- the bounds of the second byte leave out overlong forms and surrogates
    rw [pieces_opening _ _ _ (by omega) (opening_three _ (by omega) (by omega)),
      pieces_middle _ _ _ (by simp only [first, second]; split <;> omega)
        (by simp only [first, second]; split <;> omega) (by simp only; omega),
      pieces_last _ _ _ (by simp only; omega) (by simp only; omega) (by simp only; omega)]
    have whole : ((0xE0 + char.toNat / 0x1000 - 0xE0) * 0x40 +
        (0x80 + char.toNat / 0x40 % 0x40 - 0x80)) * 0x40 + (0x80 + char.toNat % 0x40 - 0x80) =
        char.toNat := by
      omega
    simp only [first, second, third, whole, same]
  · have first := byteOf_val (0xF0 + char.toNat / 0x40000) (by omega)
    have second := byteOf_val (0x80 + char.toNat / 0x1000 % 0x40) (by omega)
    have third := byteOf_val (0x80 + char.toNat / 0x40 % 0x40) (by omega)
    have fourth := byteOf_val (0x80 + char.toNat % 0x40) (by omega)
    simp only [one, two, three, if_false, List.cons_append, List.nil_append]
    rw [pieces_opening _ _ _ (by omega) (opening_four _ (by omega) (by omega)),
      pieces_middle _ _ _ (by simp only [first, second]; split <;> omega)
        (by simp only [first, second]; split <;> omega) (by simp only; omega),
      pieces_middle _ _ _ (by simp only; omega) (by simp only; omega) (by simp only; omega),
      pieces_last _ _ _ (by simp only; omega) (by simp only; omega) (by simp only; omega)]
    have whole : (((0xF0 + char.toNat / 0x40000 - 0xF0) * 0x40 +
        (0x80 + char.toNat / 0x1000 % 0x40 - 0x80)) * 0x40 +
        (0x80 + char.toNat / 0x40 % 0x40 - 0x80)) * 0x40 + (0x80 + char.toNat % 0x40 - 0x80) =
        char.toNat := by
      omega
    simp only [first, second, third, fourth, whole, same]

/-- Decoding undoes encoding, character by character: every piece of the decoded
text is a scalar, none is a broken sequence. By induction over the text. -/
theorem pieces_encode (text : List Char) : pieces none (encode text) = text.map Piece.scalar := by
  induction text with
  | nil => rfl
  | cons char rest inductionHypothesis =>
    rw [encode, List.flatMap_cons, pieces_encodeChar]
    exact congrArg (Piece.scalar char :: ·) inductionHypothesis

/-- Decoding with replacement replaces nothing of encoded text. -/
theorem decodeReplace_encode (text : List Char) : decodeReplace (encode text) = text := by
  rw [decodeReplace, pieces_encode, List.map_map]
  exact List.map_id text

end Honeywatch.Utf8

namespace Honeywatch.FormEncoding

open Utf8 Digits

/-- The characters that quoting leaves alone. -/
def isUnreserved (char : Char) : Bool :=
  decide ('A' ≤ char ∧ char ≤ 'Z') || decide ('a' ≤ char ∧ char ≤ 'z') ||
    decide ('0' ≤ char ∧ char ≤ '9') || decide (char ∈ ['_', '.', '-', '~'])

/-- A hexadecimal digit in upper case. -/
def upperDigit (value : Nat) : Char :=
  if value < 10 then Char.ofNat ('0'.toNat + value) else Char.ofNat ('A'.toNat + (value - 10))

/-- A byte of a quoted text. -/
def quoteByte (byte : Byte) : List Char :=
  let char := Char.ofNat byte.val
  if isUnreserved char then [char]
  else if char = ' ' then ['+']
  else ['%', upperDigit (byte.val / 16), upperDigit (byte.val % 16)]

/-- `quote_plus`. -/
def quotePlus (text : List Char) : List Char := (encode text).flatMap quoteByte

/-- A field of a form. -/
def encodeField (field : List Char × List Char) : List Char :=
  quotePlus field.1 ++ '=' :: quotePlus field.2

/-- `urllib.parse.urlencode`. -/
def urlencode (fields : List (List Char × List Char)) : List Char :=
  ['&'].intercalate (fields.map encodeField)

/-- The bytes of ASCII text. -/
def asciiBytes (text : List Char) : List Byte := text.map asciiByte

/-- A quoted byte after the plus signs have become spaces. -/
def spacedByte (byte : Byte) : List Char :=
  (quoteByte byte).map fun char => if char = '+' then ' ' else char

/-- Quoting uses neither separator, and only ASCII; there are as many cases as
bytes. -/
theorem quoteByte_plain (byte : Byte) : ∀ char ∈ quoteByte byte,
    char ≠ '&' ∧ char ≠ '=' ∧ char.toNat < 0x80 := by
  have checked : ∀ byte : Byte, ((quoteByte byte).all fun char =>
      decide (char ≠ '&' ∧ char ≠ '=' ∧ char.toNat < 0x80)) = true := by
    decide +kernel
  intro char member
  exact of_decide_eq_true (List.all_eq_true.mp (checked byte) char member)

/-- What a byte becomes in a form is plain ASCII, whatever the byte is. -/
theorem spacedByte_ascii (byte : Byte) : ∀ char ∈ spacedByte byte, isAscii char = true := by
  have checked : ∀ byte : Byte, ((spacedByte byte).all isAscii) = true := by decide +kernel
  exact List.all_eq_true.mp (checked byte)

/-- An unreserved byte or a space stands for itself. -/
theorem spacedByte_kept : ∀ byte : Byte,
    (isUnreserved (Char.ofNat byte.val) = true ∨ Char.ofNat byte.val = ' ') →
      spacedByte byte = [Char.ofNat byte.val] ∧ Char.ofNat byte.val ≠ '%' ∧
        asciiByte (Char.ofNat byte.val) = byte ∧ byte.val < 0x80 := by
  decide +kernel

/-- Any other byte is escaped. -/
theorem spacedByte_escaped : ∀ byte : Byte,
    ¬ (isUnreserved (Char.ofNat byte.val) = true ∨ Char.ofNat byte.val = ' ') →
      spacedByte byte = ['%', upperDigit (byte.val / 16), upperDigit (byte.val % 16)] ∧
        hexByte (upperDigit (byte.val / 16)) (upperDigit (byte.val % 16)) = some byte := by
  decide +kernel

/-- A character that is no percent sign stands for itself. -/
theorem unquoteToBytes_kept (char : Char) (rest : List Char) (other : char ≠ '%') :
    unquoteToBytes (char :: rest) = asciiByte char :: unquoteToBytes rest := by
  rw [unquoteToBytes]
  · rfl
  · intro high low more percent
    exact absurd percent other

/-- A percent sign with two digits stands for the byte that they spell. -/
theorem unquoteToBytes_escaped (high low : Char) (rest : List Char) (byte : Byte)
    (encoded : hexByte high low = some byte) :
    unquoteToBytes ('%' :: high :: low :: rest) = byte :: unquoteToBytes rest := by
  simp [unquoteToBytes, encoded]

/-- The bytes are read as they were quoted, one at a time: a safe byte is itself,
any other one a percent sign and two digits. -/
theorem unquoteToBytes_spaced (bytes : List Byte) :
    unquoteToBytes (bytes.flatMap spacedByte) = bytes := by
  induction bytes with
  | nil => rfl
  | cons byte rest inductionHypothesis =>
    rw [List.flatMap_cons]
    by_cases kept : isUnreserved (Char.ofNat byte.val) = true ∨ Char.ofNat byte.val = ' '
    · obtain ⟨plain, other, same, _⟩ := spacedByte_kept byte kept
      rw [plain, List.singleton_append, unquoteToBytes_kept _ _ other, same, inductionHypothesis]
    · obtain ⟨escaped, encoded⟩ := spacedByte_escaped byte kept
      rw [escaped]
      simp only [List.cons_append, List.nil_append]
      rw [unquoteToBytes_escaped _ _ _ byte encoded, inductionHypothesis]

/-- Bytes that are quoted without a percent sign are ASCII text, so the reader that
skips them and the one that decodes them agree. -/
theorem spaced_without_percent (bytes : List Byte)
    (plain : '%' ∉ bytes.flatMap spacedByte) :
    bytes.flatMap spacedByte = decodeReplace bytes := by
  induction bytes with
  | nil => rfl
  | cons byte rest inductionHypothesis =>
    rw [List.flatMap_cons, List.mem_append, not_or] at plain
    by_cases kept : isUnreserved (Char.ofNat byte.val) = true ∨ Char.ofNat byte.val = ' '
    · obtain ⟨same, _, _, ascii⟩ := spacedByte_kept byte kept
      have first : decodeReplace (byte :: rest) = Char.ofNat byte.val :: decodeReplace rest := by
        rw [decodeReplace, pieces_ascii byte rest ascii]
        rfl
      rw [List.flatMap_cons, same, inductionHypothesis plain.2, first]
      rfl
    · obtain ⟨escaped, _⟩ := spacedByte_escaped byte kept
      rw [escaped] at plain
      exact absurd (List.mem_cons_self ..) plain.1

/-- A quoted name or value is read as it was, spaces and percent signs included. -/
theorem fieldText_quotePlus (text : List Char) : fieldText (quotePlus text) = text := by
  have spaced : (quotePlus text).map (fun char => if char = '+' then ' ' else char) =
      (encode text).flatMap spacedByte := by
    rw [quotePlus, List.map_flatMap]
    rfl
  rw [fieldText, spaced, unquote]
  by_cases percent : '%' ∈ (encode text).flatMap spacedByte
  · have ascii : ∀ char ∈ (encode text).flatMap spacedByte, isAscii char = true := by
      intro char member
      obtain ⟨byte, _, inside⟩ := List.mem_flatMap.mp member
      exact spacedByte_ascii byte char inside
    have run : ((encode text).flatMap spacedByte).splitBy
        (fun left right => isAscii left == isAscii right) = [(encode text).flatMap spacedByte] := by
      apply List.splitBy_of_isChain (List.ne_nil_of_mem percent)
      apply List.Pairwise.isChain
      apply List.Pairwise.imp_of_mem (R := fun _ _ : Char => True)
      · intro left right one other _
        simp [ascii left one, ascii right other]
      · exact List.pairwise_of_forall fun _ _ => trivial
    have all : ((encode text).flatMap spacedByte).all isAscii = true := List.all_eq_true.mpr ascii
    rw [if_pos percent, run, List.flatMap_singleton, unquoteRun, if_pos all,
      unquoteToBytes_spaced, decodeReplace_encode]
  · rw [if_neg percent, spaced_without_percent _ percent, decodeReplace_encode]

/-- A quoted text holds no separator. -/
theorem quotePlus_plain (text : List Char) (char : Char) (member : char ∈ quotePlus text) :
    char ≠ '&' ∧ char ≠ '=' ∧ char.toNat < 0x80 := by
  obtain ⟨byte, _, inside⟩ := List.mem_flatMap.mp member
  exact quoteByte_plain byte char inside

/-- Up to the first separator the text is one piece, if it holds none itself. -/
theorem split_append (separator : Char) (piece rest : List Char) (apart : separator ∉ piece) :
    split separator (piece ++ separator :: rest) = piece :: split separator rest := by
  induction piece with
  | nil => simp [split]
  | cons char others inductionHypothesis =>
    rw [List.mem_cons, not_or] at apart
    simp [split, Ne.symm apart.1, inductionHypothesis apart.2]

/-- Without a separator there is one piece, the whole text. -/
theorem split_single (separator : Char) (piece : List Char) (apart : separator ∉ piece) :
    split separator piece = [piece] := by
  induction piece with
  | nil => rfl
  | cons char others inductionHypothesis =>
    rw [List.mem_cons, not_or] at apart
    simp [split, Ne.symm apart.1, inductionHypothesis apart.2]

/-- Joined pieces come apart at the separators, provided that no piece holds one. -/
theorem split_intercalate (separator : Char) (first : List Char) (pieces : List (List Char))
    (apart : ∀ piece ∈ first :: pieces, separator ∉ piece) :
    split separator ([separator].intercalate (first :: pieces)) = first :: pieces := by
  induction pieces generalizing first with
  | nil =>
    rw [List.intercalate_singleton]
    exact split_single separator first (apart first (List.mem_cons_self ..))
  | cons second others inductionHypothesis =>
    have joined : [separator].intercalate (first :: second :: others) =
        first ++ separator :: [separator].intercalate (second :: others) := by
      rw [List.intercalate_cons_cons, List.append_assoc]
      rfl
    rw [joined, split_append separator first _ (apart first (List.mem_cons_self ..)),
      inductionHypothesis second fun piece member => apart piece (List.mem_cons_of_mem _ member)]

/-- A field is cut at its first separator. A name without one is so found again,
whatever the value holds. -/
theorem splitFirst_append (separator : Char) (name value : List Char) (apart : separator ∉ name) :
    splitFirst separator (name ++ separator :: value) = (name, value) := by
  induction name with
  | nil => simp [splitFirst]
  | cons char others inductionHypothesis =>
    rw [List.mem_cons, not_or] at apart
    simp [splitFirst, Ne.symm apart.1, inductionHypothesis apart.2]

/-- A field is read as it was written. -/
theorem read_encodeField (field : List Char × List Char) :
    (fieldText (splitFirst '=' (encodeField field)).1,
      fieldText (splitFirst '=' (encodeField field)).2) = field := by
  have apart : '=' ∉ quotePlus field.1 := fun member =>
    (quotePlus_plain field.1 '=' member).2.1 rfl
  rw [encodeField, splitFirst_append '=' _ _ apart, fieldText_quotePlus, fieldText_quotePlus]

/-- A form is read as it was written: quoting removes both separators from names and
values, so the joined text comes apart where it was joined. -/
theorem parseQs_urlencode (fields : List (List Char × List Char)) :
    parseQs (urlencode fields) = fields := by
  have separate : ∀ piece ∈ fields.map encodeField, '&' ∉ piece := by
    intro piece member inside
    obtain ⟨field, _, rfl⟩ := List.mem_map.mp member
    rcases List.mem_append.mp inside with name | value
    · exact (quotePlus_plain field.1 '&' name).1 rfl
    · rcases List.mem_cons.mp value with equals | value
      · exact absurd equals (by decide)
      · exact (quotePlus_plain field.2 '&' value).1 rfl
  cases fields with
  | nil => rfl
  | cons first others =>
    have pieces : split '&' (urlencode (first :: others)) = (first :: others).map encodeField := by
      rw [urlencode, List.map_cons]
      exact split_intercalate '&' _ _ separate
    have filled : ((first :: others).map encodeField).filter (fun piece => decide (piece ≠ [])) =
        (first :: others).map encodeField := by
      apply List.filter_eq_self.mpr
      intro piece member
      obtain ⟨field, _, rfl⟩ := List.mem_map.mp member
      simp [encodeField]
    rw [parseQs, pieces, filled, List.map_map]
    exact (List.map_congr_left fun field _ => read_encodeField field).trans (List.map_id _)

/-- What is joined consists of the pieces and the separator, which bounds its
characters by theirs. -/
theorem mem_intercalate (separator : Char) (pieces : List (List Char)) (char : Char)
    (member : char ∈ [separator].intercalate pieces) :
    char = separator ∨ ∃ piece ∈ pieces, char ∈ piece := by
  induction pieces with
  | nil => cases member
  | cons first others inductionHypothesis =>
    cases others with
    | nil =>
      rw [List.intercalate_singleton] at member
      exact .inr ⟨first, List.mem_cons_self .., member⟩
    | cons second rest =>
      rw [List.intercalate_cons_cons, List.append_assoc] at member
      rcases List.mem_append.mp member with inside | later
      · exact .inr ⟨first, List.mem_cons_self .., inside⟩
      · rcases List.mem_cons.mp later with rfl | later
        · exact .inl rfl
        · rcases inductionHypothesis later with same | ⟨piece, known, inside⟩
          · exact .inl same
          · exact .inr ⟨piece, List.mem_cons_of_mem _ known, inside⟩

/-- A form is ASCII, so its bytes are its characters and no decoding can fail on
them. -/
theorem urlencode_ascii (fields : List (List Char × List Char)) :
    ∀ char ∈ urlencode fields, char.toNat < 0x80 := by
  intro char member
  rcases mem_intercalate '&' _ char member with rfl | ⟨piece, known, inside⟩
  · decide
  · obtain ⟨field, _, rfl⟩ := List.mem_map.mp known
    rcases List.mem_append.mp inside with name | value
    · exact (quotePlus_plain field.1 char name).2.2
    · rcases List.mem_cons.mp value with rfl | value
      · decide
      · exact (quotePlus_plain field.2 char value).2.2

/-- ASCII text is encoded by its own bytes, one for each character. -/
theorem encode_ascii (text : List Char) (ascii : ∀ char ∈ text, char.toNat < 0x80) :
    encode text = asciiBytes text := by
  induction text with
  | nil => rfl
  | cons char rest inductionHypothesis =>
    have small := ascii char (List.mem_cons_self ..)
    have others := inductionHypothesis fun other member =>
      ascii other (List.mem_cons_of_mem _ member)
    have single : encodeChar char = [asciiByte char] := by
      rw [encodeChar, if_pos small]
      rfl
    rw [encode, List.flatMap_cons, single, List.singleton_append]
    exact congrArg (asciiByte char :: ·) others

/-- ASCII text decodes to its own characters, none of which opens a sequence. -/
theorem pieces_asciiBytes (text : List Char) (ascii : ∀ char ∈ text, char.toNat < 0x80) :
    pieces none (asciiBytes text) = text.map Piece.scalar := by
  induction text with
  | nil => rfl
  | cons char rest inductionHypothesis =>
    have small := ascii char (List.mem_cons_self ..)
    have value : (asciiByte char).val = char.toNat := Nat.mod_eq_of_lt (by omega)
    have others := inductionHypothesis fun other member =>
      ascii other (List.mem_cons_of_mem _ member)
    rw [asciiBytes, List.map_cons, pieces_ascii _ _ (by omega), value, Char.ofNat_toNat]
    exact congrArg (Piece.scalar char :: ·) others

/-- Pieces that are all scalars pass the strict decoder unchanged. -/
theorem strict_scalars (text : List Char) :
    (text.map Piece.scalar).mapM Piece.strict = some text := by
  induction text with
  | nil => rfl
  | cons char rest inductionHypothesis => simp [Piece.strict, inductionHypothesis]

/-- The bytes of ASCII text decode to it. -/
theorem decodeStrict_asciiBytes (text : List Char) (ascii : ∀ char ∈ text, char.toNat < 0x80) :
    decodeStrict (asciiBytes text) = some text := by
  rw [decodeStrict, pieces_asciiBytes text ascii, strict_scalars]

end Honeywatch.FormEncoding
