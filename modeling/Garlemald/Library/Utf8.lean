import Garlemald.Library.Bytes

/-!
Lossy decoding of UTF-8. Text is its list of Unicode scalar values. A byte
string that is not UTF-8 decodes to one replacement character for each maximal
ill-formed part, and the encoding of a text decodes back to that text.
-/

namespace Library

abbrev Text := List Char

def utf8 (text : Text) : Bytes := text.flatMap String.utf8EncodeChar

def secondFits (b0 b1 : UInt8) : Bool :=
  if b0 = 0xE0 then 0xA0 ≤ b1 ∧ b1 ≤ 0xBF
  else if b0 = 0xED then 0x80 ≤ b1 ∧ b1 ≤ 0x9F
  else if b0 = 0xF0 then 0x90 ≤ b1 ∧ b1 ≤ 0xBF
  else if b0 = 0xF4 then 0x80 ≤ b1 ∧ b1 ≤ 0x8F
  else 0xE0 ≤ b0 ∧ b0 < 0xF4 ∧ 0x80 ≤ b1 ∧ b1 ≤ 0xBF

def thirdFits (b0 : UInt8) : Bytes → Bool
  | b2 :: _ => 0xF0 ≤ b0 ∧ 0x80 ≤ b2 ∧ b2 ≤ 0xBF
  | [] => false

/-- The length of the maximal ill-formed part at the start of a byte string
whose first bytes do not encode a scalar value. -/
def illFormedLength : Bytes → Nat
  | b0 :: b1 :: rest =>
      if secondFits b0 b1 then (if thirdFits b0 rest then 3 else 2) else 1
  | _ => 1

theorem illFormedLength_pos (bs : Bytes) : 0 < illFormedLength bs := by
  simp only [illFormedLength]
  split
  · split
    · split <;> exact Nat.succ_pos _
    · exact Nat.one_pos
  · exact Nat.one_pos

/-- One scalar value or one replacement character for each of at most `fuel`
steps; a step never takes less than one byte. -/
def fromUtf8LossySteps : Nat → Bytes → Text
  | 0, _ => []
  | _, [] => []
  | fuel + 1, bs =>
      match bs.toByteArray.utf8DecodeChar? 0 with
      | some c => c :: fromUtf8LossySteps fuel (bs.drop c.utf8Size)
      | none => '\uFFFD' :: fromUtf8LossySteps fuel (bs.drop (illFormedLength bs))

theorem fromUtf8LossySteps_cons (fuel : Nat) (b : UInt8) (bs : Bytes) :
    fromUtf8LossySteps (fuel + 1) (b :: bs) =
      match (b :: bs).toByteArray.utf8DecodeChar? 0 with
      | some c => c :: fromUtf8LossySteps fuel ((b :: bs).drop c.utf8Size)
      | none => '\uFFFD' :: fromUtf8LossySteps fuel ((b :: bs).drop (illFormedLength (b :: bs))) :=
  rfl

def fromUtf8Lossy (bs : Bytes) : Text := fromUtf8LossySteps bs.length bs

theorem utf8_cons (c : Char) (text : Text) :
    utf8 (c :: text) = String.utf8EncodeChar c ++ utf8 text :=
  List.flatMap_cons

theorem decode_encoded (c : Char) (rest : Bytes) :
    (String.utf8EncodeChar c ++ rest).toByteArray.utf8DecodeChar? 0 = some c := by
  rw [List.toByteArray_append]
  exact ByteArray.utf8DecodeChar?_utf8EncodeChar_append

theorem length_utf8_le (text : Text) : text.length ≤ (utf8 text).length := by
  induction text with
  | nil => exact Nat.le_refl 0
  | cons c text ih =>
      have size := c.utf8Size_pos
      simp only [utf8_cons, List.length_append, String.length_utf8EncodeChar, List.length_cons]
      omega

theorem fromUtf8LossySteps_utf8 (text : Text) (rest : Bytes) (fuel : Nat) :
    fromUtf8LossySteps (text.length + fuel) (utf8 text ++ rest) =
      text ++ fromUtf8LossySteps fuel rest := by
  induction text with
  | nil => simp [utf8]
  | cons c text ih =>
      have step : (c :: text).length + fuel = (text.length + fuel) + 1 := by simp; omega
      rw [step, utf8_cons, List.append_assoc]
      cases input : String.utf8EncodeChar c ++ (utf8 text ++ rest) with
      | nil => exact absurd (List.append_eq_nil_iff.mp input).1 String.utf8EncodeChar_ne_nil
      | cons b bs =>
          have decoded := decode_encoded c (utf8 text ++ rest)
          have dropped : (b :: bs).drop c.utf8Size = utf8 text ++ rest := by
            rw [← input, ← String.length_utf8EncodeChar c, List.drop_left]
          rw [input] at decoded
          simp only [fromUtf8LossySteps_cons, decoded, dropped, ih, List.cons_append]

theorem fromUtf8LossySteps_more (fuel extra : Nat) (bs : Bytes) (enough : bs.length ≤ fuel) :
    fromUtf8LossySteps (fuel + extra) bs = fromUtf8LossySteps fuel bs := by
  induction fuel generalizing bs with
  | zero =>
      have empty : bs = [] := List.length_eq_zero_iff.mp (by omega)
      subst bs
      cases extra <;> rfl
  | succ fuel ih =>
      cases bs with
      | nil => rw [Nat.succ_add]; rfl
      | cons b bs =>
          have shorter (n : Nat) (pos : 0 < n) : ((b :: bs).drop n).length ≤ fuel := by
            simp only [List.length_cons, List.length_drop] at *
            omega
          rw [Nat.succ_add]
          simp only [fromUtf8LossySteps_cons]
          cases (b :: bs).toByteArray.utf8DecodeChar? 0 with
          | some c => simp only [ih _ (shorter _ c.utf8Size_pos)]
          | none =>
              simp only [ih _ (shorter _ (illFormedLength_pos _))]

theorem fromUtf8Lossy_append (text : Text) (rest : Bytes) :
    fromUtf8Lossy (utf8 text ++ rest) = text ++ fromUtf8Lossy rest := by
  have bound := length_utf8_le text
  have fuel : (utf8 text ++ rest).length =
      text.length + (rest.length + ((utf8 text).length - text.length)) := by
    rw [List.length_append]; omega
  rw [fromUtf8Lossy, fuel, fromUtf8LossySteps_utf8, fromUtf8LossySteps_more _ _ _ (Nat.le_refl _),
    fromUtf8Lossy]

@[simp] theorem fromUtf8Lossy_utf8 (text : Text) : fromUtf8Lossy (utf8 text) = text := by
  have whole := fromUtf8Lossy_append text []
  rwa [List.append_nil, show fromUtf8Lossy [] = [] from rfl, List.append_nil] at whole

theorem fromUtf8Lossy_ne_nil {bs : Bytes} (h : bs ≠ []) : fromUtf8Lossy bs ≠ [] := by
  cases bs with
  | nil => exact absurd rfl h
  | cons b bs =>
      simp only [fromUtf8Lossy, List.length_cons, fromUtf8LossySteps_cons]
      cases (b :: bs).toByteArray.utf8DecodeChar? 0 <;> simp

theorem zero_mem_utf8EncodeChar {c : Char} : 0 ∈ String.utf8EncodeChar c ↔ c.toNat = 0 := by
  have valid := c.valid
  have value : c.val.toNat = c.toNat := rfl
  have zero : ∀ n : Nat, (0 : UInt8) = UInt8.ofNat n ↔ n % 256 = 0 := by
    intro n
    rw [← UInt8.toNat_inj, UInt8.toNat_ofNat', eq_comm]
    rfl
  rw [String.utf8EncodeChar, value]
  split
  · simp only [List.mem_singleton, zero]; omega
  split
  · simp only [List.mem_cons, List.not_mem_nil, or_false, zero]; omega
  split
  · simp only [List.mem_cons, List.not_mem_nil, or_false, zero]; omega
  · simp only [List.mem_cons, List.not_mem_nil, or_false, zero]; omega

theorem zero_mem_utf8 {text : Text} : 0 ∈ utf8 text ↔ Char.ofNat 0 ∈ text := by
  rw [utf8, List.mem_flatMap]
  constructor
  · rintro ⟨c, member, zero⟩
    have nul : c = Char.ofNat 0 := by
      rw [← Char.ofNat_toNat c, zero_mem_utf8EncodeChar.mp zero]
    exact nul ▸ member
  · intro member
    exact ⟨_, member, zero_mem_utf8EncodeChar.mpr rfl⟩

/-- A text field: truncated to `width` bytes and padded with zeros. -/
def paddedField (s : Text) (width : Nat) : Bytes :=
  (utf8 s).take width ++ zeros (width - (utf8 s).length)

@[simp] theorem length_paddedField (s : Text) (width : Nat) :
    (paddedField s width).length = width := by
  simp only [paddedField, List.length_append, List.length_take, length_zeros]
  omega

/-- A text that fits a field of `width` bytes and has no zero byte. -/
structure FitsField (width : Nat) (s : Text) : Prop where
  short : (utf8 s).length ≤ width
  nulFree : 0 ∉ utf8 s

theorem FitsField.paddedField_eq {width : Nat} {s : Text} (fits : FitsField width s) :
    paddedField s width = utf8 s ++ zeros (width - (utf8 s).length) := by
  rw [paddedField, List.take_of_length_le fits.short]

theorem FitsField.nil (width : Nat) : FitsField width [] :=
  ⟨Nat.zero_le _, List.not_mem_nil⟩

theorem paddedField_nil (width : Nat) : paddedField [] width = zeros width := by
  simp [paddedField, utf8]

example : fromUtf8Lossy [0x41, 0xE2, 0x82, 0x42, 0xFF] = ['A', '\uFFFD', 'B', '\uFFFD'] := by decide

end Library
