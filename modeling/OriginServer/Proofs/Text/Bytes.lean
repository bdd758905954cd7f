import OriginServer.Text.Utf8

/-!
# The bytes of characters

The bytes of a text are those of its characters, one after the other. An ASCII character is one
byte, its number, and all bytes of any other character lie above ASCII, so an ASCII byte in a text
always stands for the ASCII character.
-/
namespace OriginServer.Utf8

/-- The bytes of a list of characters. -/
def ofChars (chars : List Char) : Bytes := chars.flatMap String.utf8EncodeChar

/-- The bytes of a text are those of its characters. -/
theorem encode_eq_ofChars (text : String) : encode text = ofChars text.toList := by
  conv => lhs; rw [← String.ofList_toList (s := text), encode, String.toByteArray_ofList]
  rw [ofChars, List.utf8Encode, List.data_toByteArray]

/-- The bytes of two texts follow each other. -/
theorem encode_append (left right : String) :
    encode (left ++ right) = encode left ++ encode right := by
  simp [encode, String.toByteArray_append]

/-- Different texts have different bytes. -/
theorem encode_injective {left right : String} (same : encode left = encode right) :
    left = right := by
  have decoded := decode?_encode left
  rw [same, decode?_encode] at decoded
  exact (Option.some.inj decoded).symm

/-- An ASCII character is one byte. -/
theorem bytes_of_ascii {char : Char} (ascii : char.toNat < 128) :
    String.utf8EncodeChar char = [UInt8.ofNat char.toNat] := by
  have small : char.val.toNat ≤ 127 := Nat.le_of_lt_succ ascii
  simp only [String.utf8EncodeChar, small, if_true]
  rfl

/-- Every byte of a character that is not ASCII lies above ASCII. -/
theorem above_ascii {char : Char} {byte : UInt8} (wide : 128 ≤ char.toNat)
    (inside : byte ∈ String.utf8EncodeChar char) : 128 ≤ byte.toNat := by
  have large : ¬char.val.toNat ≤ 127 := Nat.not_le_of_gt wide
  simp only [String.utf8EncodeChar, large, if_false] at inside
  split at inside
  · simp only [List.mem_cons, List.not_mem_nil, or_false] at inside
    rcases inside with rfl | rfl <;> simp only [UInt8.toNat_ofNat'] <;> omega
  · split at inside
    · simp only [List.mem_cons, List.not_mem_nil, or_false] at inside
      rcases inside with rfl | rfl | rfl <;> simp only [UInt8.toNat_ofNat'] <;> omega
    · simp only [List.mem_cons, List.not_mem_nil, or_false] at inside
      rcases inside with rfl | rfl | rfl | rfl <;> simp only [UInt8.toNat_ofNat'] <;> omega

/-- An ASCII byte of a character is the whole character. -/
theorem eq_of_mem_ascii {char : Char} {byte : UInt8} (ascii : byte.toNat < 128)
    (inside : byte ∈ String.utf8EncodeChar char) : char.toNat = byte.toNat := by
  by_cases small : char.toNat < 128
  · rw [bytes_of_ascii small, List.mem_singleton] at inside
    subst inside
    simp only [UInt8.toNat_ofNat']
    omega
  · have wide := above_ascii (Nat.le_of_not_lt small) inside
    omega

/-- Text whose bytes begin with an ASCII byte begins with the ASCII character. -/
theorem ofChars_eq_cons {chars : List Char} {byte : UInt8} {bytes : Bytes}
    (ascii : byte.toNat < 128) (same : ofChars chars = byte :: bytes) :
    ∃ char rest, chars = char :: rest ∧ char.toNat = byte.toNat ∧ bytes = ofChars rest := by
  cases chars with
  | nil => simp [ofChars] at same
  | cons char rest =>
    rw [ofChars, List.flatMap_cons] at same
    have inside : byte ∈ String.utf8EncodeChar char := by
      cases encoded : String.utf8EncodeChar char with
      | nil =>
        have size := String.length_utf8EncodeChar char
        have positive := Char.utf8Size_pos char
        rw [encoded, List.length_nil] at size
        omega
      | cons first more =>
        rw [encoded, List.cons_append] at same
        rw [(List.cons.inj same).1]
        exact List.mem_cons_self
    have number := eq_of_mem_ascii ascii inside
    rw [bytes_of_ascii (number ▸ ascii), List.cons_append] at same
    exact ⟨char, rest, rfl, number, (List.cons.inj same).2.symm⟩

end OriginServer.Utf8
