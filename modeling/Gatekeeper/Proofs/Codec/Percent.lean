import Gatekeeper.Codec.Percent
import Gatekeeper.Proofs.Codec.Utf8

/-!
# Percent-encoded texts are read back

What is written for a byte is read as that byte, whatever follows it, and a text
without percent signs stands for itself.  So a text is read back from its encoding,
also behind a text that stands for itself.
-/

namespace Gatekeeper

namespace Codec

namespace Percent

theorem value?_digit : ∀ n < 16, Hex.value? (digit n) = some n := by
  decide

theorem escaped?_of_ne {mark : Char} (other : mark ≠ '%') (high low : Char) :
    escaped? mark high low = none := if_neg other

/-- A character other than a percent sign stands for itself. -/
theorem bytes_cons_of_ne {c : Char} (other : c ≠ '%') (rest : List Char) :
    bytes (c :: rest) = Utf8.encodeChar c ++ bytes rest := by
  cases rest with
  | nil => exact List.flatMap_cons
  | cons high rest =>
      cases rest with
      | nil => exact List.flatMap_cons
      | cons low rest => rw [bytes, escaped?_of_ne other]

theorem bytes_append_of_not_mem {before : List Char} (plain : '%' ∉ before) (rest : List Char) :
    bytes (before ++ rest) = Utf8.encode before ++ bytes rest := by
  induction before with
  | nil => rfl
  | cons c before ih =>
      simp only [List.mem_cons, not_or] at plain
      have parts : Utf8.encode (c :: before) = Utf8.encodeChar c ++ Utf8.encode before :=
        List.flatMap_cons
      rw [List.cons_append, bytes_cons_of_ne (Ne.symm plain.1), ih plain.2, parts,
        List.append_assoc]

theorem bytes_escape (byte : UInt8) (rest : List Char) :
    bytes ('%' :: digit (byte.toNat / 16) :: digit (byte.toNat % 16) :: rest) =
      byte :: bytes rest := by
  have bound : byte.toNat < 256 := byte.toNat_lt
  have joined : 16 * (byte.toNat / 16) + byte.toNat % 16 = byte.toNat := by omega
  rw [bytes, escaped?, if_pos rfl, value?_digit _ (by omega), value?_digit _ (by omega)]
  simp only [joined, UInt8.ofNat_toNat]

/-- The bytes of characters that stand for themselves are ASCII, and none is a percent sign. -/
theorem of_isUnreserved :
    ∀ n < 256, isUnreserved (Char.ofNat n) = true →
      n < 0x80 ∧ (Char.ofNat n).toNat = n ∧ Char.ofNat n ≠ '%' := by
  decide +kernel

theorem bytes_encodeByte (byte : UInt8) (rest : List Char) :
    bytes (encodeByte byte ++ rest) = byte :: bytes rest := by
  rw [encodeByte]
  by_cases unreserved : isUnreserved (Char.ofNat byte.toNat) = true
  · obtain ⟨ascii, same, other⟩ := of_isUnreserved byte.toNat byte.toNat_lt unreserved
    have itself : Utf8.encodeChar (Char.ofNat byte.toNat) = [byte] := by
      rw [Utf8.encodeChar, same, if_pos ascii, UInt8.ofNat_toNat]
    rw [if_pos unreserved, List.singleton_append, bytes_cons_of_ne other, itself]
    rfl
  · rw [if_neg unreserved]
    exact bytes_escape byte rest

theorem bytes_flatMap_encodeByte (read : List UInt8) : bytes (read.flatMap encodeByte) = read := by
  induction read with
  | nil => rfl
  | cons byte rest ih => rw [List.flatMap_cons, bytes_encodeByte, ih]

/-- A text is read back from its encoding, and what stands before it as it is. -/
theorem decode_append_encode {before : List Char} (plain : '%' ∉ before) (cs : List Char) :
    decode (before ++ encode cs) = .ok (before ++ cs) := by
  rw [decode, bytes_append_of_not_mem plain, encode, bytes_flatMap_encodeByte,
    ← Utf8.encode_append, Utf8.decode_encode]

end Percent

end Codec

end Gatekeeper
