import Gatekeeper.Http.Authorization
import Gatekeeper.Proofs.Credentials

/-!
# Which headers are read back

The header of an identifier and a password holds the UTF-8 of their line, and the
service takes the bytes of a payload for ASCII.  So the header is read as the two if
both are ASCII, and otherwise it is not read at all.
-/

namespace Gatekeeper

namespace Text

def IsAscii (cs : List Char) : Prop := ∀ c ∈ cs, c.toNat < 0x80

instance (cs : List Char) : Decidable (IsAscii cs) := List.decidableBAll _ cs

theorem isAscii_cons {c : Char} {rest : List Char} :
    IsAscii (c :: rest) ↔ c.toNat < 0x80 ∧ IsAscii rest := List.forall_mem_cons

end Text

namespace Http

namespace Authorization

/-! ## Payloads -/

theorem ascii?_cons (byte : UInt8) (rest : List UInt8) :
    ascii? (byte :: rest) =
      if byte.toNat < 0x80 then (ascii? rest).map (Char.ofNat byte.toNat :: ·) else none := by
  rw [ascii?, List.mapM_cons]
  by_cases small : byte.toNat < 0x80
  · rw [if_pos small, if_pos small, ascii?]
    cases rest.mapM fun byte => if byte.toNat < 0x80 then some (Char.ofNat byte.toNat) else none <;>
      rfl
  · rw [if_neg small, if_neg small]
    rfl

theorem encodeChar_of_ascii {c : Char} (small : c.toNat < 0x80) :
    Codec.Utf8.encodeChar c = [UInt8.ofNat c.toNat] := if_pos small

/-- The bytes of any other character begin with none of ASCII. -/
theorem encodeChar_of_not_ascii {c : Char} (large : ¬c.toNat < 0x80) :
    ∃ byte rest, Codec.Utf8.encodeChar c = byte :: rest ∧ ¬byte.toNat < 0x80 := by
  have top : c.toNat < 0x110000 := by
    rcases c.valid with before | ⟨-, after⟩
    · exact Nat.lt_trans before (by decide)
    · exact after
  simp only [Codec.Utf8.encodeChar, if_neg large]
  split
  · refine ⟨_, _, rfl, ?_⟩
    rw [Codec.Utf8.toNat_ofNat_of_lt (by omega)]
    omega
  · split
    · refine ⟨_, _, rfl, ?_⟩
      rw [Codec.Utf8.toNat_ofNat_of_lt (by omega)]
      omega
    · refine ⟨_, _, rfl, ?_⟩
      rw [Codec.Utf8.toNat_ofNat_of_lt (by omega)]
      omega

/-- The bytes of a text are taken for ASCII exactly if the text is, and then they are the text. -/
theorem ascii?_encode (cs : List Char) :
    ascii? (Codec.Utf8.encode cs) = if Text.IsAscii cs then some cs else none := by
  induction cs with
  | nil => exact (if_pos (show Text.IsAscii [] from nofun)).symm
  | cons c rest ih =>
      rw [Codec.Utf8.encode, List.flatMap_cons, ← Codec.Utf8.encode]
      by_cases small : c.toNat < 0x80
      · have same : (UInt8.ofNat c.toNat).toNat = c.toNat :=
          Codec.Utf8.toNat_ofNat_of_lt (by omega)
        rw [encodeChar_of_ascii small, List.singleton_append, ascii?_cons, same, if_pos small, ih,
          Char.ofNat_toNat]
        by_cases others : Text.IsAscii rest
        · rw [if_pos others, if_pos (Text.isAscii_cons.mpr ⟨small, others⟩)]
          rfl
        · rw [if_neg others, if_neg fun all => others (Text.isAscii_cons.mp all).2]
          rfl
      · obtain ⟨byte, more, bytes, large⟩ := encodeChar_of_not_ascii small
        rw [bytes, List.cons_append, ascii?_cons, if_neg large,
          if_neg fun all => small (Text.isAscii_cons.mp all).1]

/-! ## Headers -/

/-- What stands after the scheme of a header is its payload, without the blanks around it. -/
theorem ofHeader?_of_scheme {header : String} {payload : List Char}
    (whole : header.toList = basicScheme.toList ++ payload) :
    ofHeader? header =
      if (Text.trim Text.isBlank payload).all (·.toNat < 0x80) then
        ofPayload? (Text.trim Text.isBlank payload)
      else none := by
  have parts : header.toList = "Basic".toList ++ ' ' :: payload := whole
  have scheme : "Basic".toList.map Char.toLower = "basic".toList := by decide
  rw [ofHeader?, parts, splitScheme, Text.splitFirst?_append _ (by decide)]
  simp only [scheme, true_and]

/-- The payload of a header is what is written for the bytes that it is to hold. -/
theorem ofHeader?_basic (bytes : List UInt8) :
    ofHeader? (basicScheme ++ String.ofList (Codec.Base64.encode bytes)) =
      (ascii? bytes).bind fun line =>
        (Text.splitFirst? separator line).map fun (user, password) =>
          ⟨String.ofList user, ⟨String.ofList password⟩⟩ := by
  have whole : (basicScheme ++ String.ofList (Codec.Base64.encode bytes)).toList =
      basicScheme.toList ++ Codec.Base64.encode bytes := by
    rw [String.toList_append, String.toList_ofList]
  have bare : Text.trim Text.isBlank (Codec.Base64.encode bytes) = Codec.Base64.encode bytes :=
    Text.trim_of_forall fun _ among => Codec.Base64.not_blank_of_mem_encode among
  have small : (Codec.Base64.encode bytes).all (·.toNat < 0x80) = true := by
    rw [List.all_eq_true]
    exact fun _ among => decide_eq_true (Codec.Base64.ascii_of_mem_encode among)
  rw [ofHeader?_of_scheme whole, bare, if_pos small, ofPayload?,
    Codec.Base64.decodeLenient_of_decodeStrict (Codec.Base64.decodeStrict_encode _)]
  dsimp only
  cases ascii? bytes with
  | none => rfl
  | some line => rfl

/-- The header of an identifier and a password is read as these two if they are ASCII, and is not
read at all otherwise. -/
theorem ofHeader?_basicHeader {user password header : String}
    (made : Credentials.basicHeader user password = .ok header) :
    ofHeader? header =
      if Text.IsAscii user.toList ∧ Text.IsAscii password.toList then some ⟨user, ⟨password⟩⟩
      else none := by
  have formed := Credentials.wellFormed_of_basicHeader made
  rw [Credentials.basicHeader_of_wellFormed formed, Except.ok.injEq] at made
  rw [← made, Credentials.payload, ofHeader?_basic, ascii?_encode]
  have both : Text.IsAscii (user.toList ++ separator :: password.toList) ↔
      Text.IsAscii user.toList ∧ Text.IsAscii password.toList := by
    rw [Text.IsAscii, List.forall_mem_append, List.forall_mem_cons]
    exact ⟨fun all => ⟨all.1, all.2.2⟩, fun all => ⟨all.1, by decide, all.2⟩⟩
  by_cases small : Text.IsAscii user.toList ∧ Text.IsAscii password.toList
  · rw [if_pos small, if_pos (both.mpr small)]
    simp [Text.splitFirst?_append _ formed.2]
  · rw [if_neg small, if_neg fun all => small (both.mp all)]
    rfl

end Authorization

end Http

end Gatekeeper
