import Gatekeeper.Codec.Utf8

/-!
# Encoded texts are read back

The bytes of a character are read as that character, whatever follows them.  So a
text is read back from its bytes, and two texts with the same bytes are one.  The
other way round, the bounds of the decoder rule out numbers that are written too
long, surrogates and what is no character, so whatever is read as a text are the
bytes of that text.
-/

namespace Gatekeeper

namespace Codec

namespace Utf8

/-! ## Steps of the decoder -/

theorem toNat_ofNat_of_lt {n : Nat} (small : n < 256) : (UInt8.ofNat n).toNat = n := by
  simpa using small

/-- A continuation byte that is not the last one. -/
theorem decodeFrom_push (position : Nat) {s : Sequence} {n : Nat} (small : n < 256)
    (low : s.low ≤ n) (high : n ≤ s.high) (more : 1 < s.owed) (rest : List UInt8) :
    decodeFrom position (some s) (UInt8.ofNat n :: rest) =
      decodeFrom (position + 1) (some (s.push n)) rest := by
  have owes : (s.push n).owed ≠ 0 := by
    simp only [Sequence.push]
    omega
  rw [decodeFrom, toNat_ofNat_of_lt small, if_pos ⟨low, high⟩]
  simp only [owes, if_false]

/-- The last byte of a sequence. -/
theorem decodeFrom_close (position : Nat) {s : Sequence} {n : Nat} (small : n < 256)
    (low : s.low ≤ n) (high : n ≤ s.high) (last : s.owed = 1) (rest : List UInt8) :
    decodeFrom position (some s) (UInt8.ofNat n :: rest) =
      (decodeFrom (position + 1) none rest).map
        (Char.ofNat (64 * s.code + (n - 0x80)) :: ·) := by
  rw [decodeFrom, toNat_ofNat_of_lt small, if_pos ⟨low, high⟩]
  simp [Sequence.push, last]

theorem decodeFrom_begin (position : Nat) {n : Nat} (small : n < 256) (large : 0x80 ≤ n)
    {s : Sequence} (begun : begin? (UInt8.ofNat n) = some s) (rest : List UInt8) :
    decodeFrom position none (UInt8.ofNat n :: rest) = decodeFrom (position + 1) (some s) rest := by
  rw [decodeFrom, toNat_ofNat_of_lt small, if_neg (by omega), begun]

/-! ## First bytes -/

theorem begin?_two {n : Nat} (low : 0x80 ≤ n) (high : n < 0x800) :
    begin? (UInt8.ofNat (0xc0 + n / 64)) =
      some ⟨UInt8.ofNat (0xc0 + n / 64), 1, 1, n / 64, 0x80, 0xbf⟩ := by
  have small : 0xc0 + n / 64 < 256 := by omega
  simp only [begin?, toNat_ofNat_of_lt small]
  rw [if_neg (by omega), if_pos (by omega), Nat.add_sub_cancel_left]

/-- The second byte of three is bounded so that no number is written too long and no surrogate
is written at all. -/
theorem begin?_three {n : Nat} (low : 0x800 ≤ n) (high : n < 0x10000) (valid : n.isValidChar) :
    ∃ least most, begin? (UInt8.ofNat (0xe0 + n / 4096)) =
        some ⟨UInt8.ofNat (0xe0 + n / 4096), 1, 2, n / 4096, least, most⟩ ∧
      least ≤ 0x80 + n / 64 % 64 ∧ 0x80 + n / 64 % 64 ≤ most := by
  have small : 0xe0 + n / 4096 < 256 := by omega
  simp only [begin?, toNat_ofNat_of_lt small]
  rw [if_neg (by omega), if_neg (by omega)]
  by_cases first : n / 4096 = 0
  · rw [if_pos (by omega)]
    exact ⟨0xa0, 0xbf, by rw [first], by omega, by omega⟩
  · rw [if_neg (by omega)]
    by_cases surrogates : n / 4096 = 13
    · rw [if_pos (by omega)]
      have before : n < 0xd800 := by
        rcases valid with before | ⟨after, -⟩
        · exact before
        · omega
      exact ⟨0x80, 0x9f, by rw [surrogates], by omega, by omega⟩
    · rw [if_neg (by omega), if_pos (by omega), Nat.add_sub_cancel_left]
      exact ⟨0x80, 0xbf, rfl, by omega, by omega⟩

theorem begin?_four {n : Nat} (low : 0x10000 ≤ n) (high : n < 0x110000) :
    ∃ least most, begin? (UInt8.ofNat (0xf0 + n / 262144)) =
        some ⟨UInt8.ofNat (0xf0 + n / 262144), 1, 3, n / 262144, least, most⟩ ∧
      least ≤ 0x80 + n / 4096 % 64 ∧ 0x80 + n / 4096 % 64 ≤ most := by
  have small : 0xf0 + n / 262144 < 256 := by omega
  simp only [begin?, toNat_ofNat_of_lt small]
  rw [if_neg (by omega), if_neg (by omega), if_neg (by omega), if_neg (by omega),
    if_neg (by omega)]
  by_cases first : n / 262144 = 0
  · rw [if_pos (by omega)]
    exact ⟨0x90, 0xbf, by rw [first], by omega, by omega⟩
  · rw [if_neg (by omega)]
    by_cases inner : n / 262144 < 4
    · rw [if_pos (by omega), Nat.add_sub_cancel_left]
      exact ⟨0x80, 0xbf, rfl, by omega, by omega⟩
    · rw [if_neg (by omega), if_pos (by omega)]
      have last : n / 262144 = 4 := by omega
      exact ⟨0x80, 0x8f, by rw [last], by omega, by omega⟩

/-! ## Characters and texts -/

theorem decodeFrom_encodeChar (position : Nat) (c : Char) (rest : List UInt8) :
    decodeFrom position none (encodeChar c ++ rest) =
      (decodeFrom (position + (encodeChar c).length) none rest).map (c :: ·) := by
  have valid : c.toNat.isValidChar := c.valid
  have top : c.toNat < 0x110000 := by
    rcases valid with before | ⟨-, after⟩
    · omega
    · exact after
  have same := Char.ofNat_toNat c
  unfold encodeChar
  by_cases one : c.toNat < 0x80
  · have small := toNat_ofNat_of_lt (show c.toNat < 256 by omega)
    simp only [one, if_true, List.cons_append, List.nil_append, List.length_cons, List.length_nil]
    rw [decodeFrom, small, if_pos one, same]
  by_cases two : c.toNat < 0x800
  · have begun := begin?_two (by omega) two
    have code : 64 * (c.toNat / 64) + (0x80 + c.toNat % 64 - 0x80) = c.toNat := by omega
    simp only [one, two, if_false, if_true, List.cons_append, List.nil_append, List.length_cons,
      List.length_nil]
    rw [decodeFrom_begin _ (by omega) (by omega) begun,
      decodeFrom_close _ (by omega) (by dsimp only; omega) (by dsimp only; omega) rfl]
    dsimp only
    rw [code, same]
  by_cases three : c.toNat < 0x10000
  · obtain ⟨least, most, begun, low, high⟩ := begin?_three (by omega) three valid
    have code : 64 * (64 * (c.toNat / 4096) + (0x80 + c.toNat / 64 % 64 - 0x80)) +
        (0x80 + c.toNat % 64 - 0x80) = c.toNat := by
      omega
    simp only [one, two, three, if_false, if_true, List.cons_append, List.nil_append,
      List.length_cons, List.length_nil]
    rw [decodeFrom_begin _ (by omega) (by omega) begun,
      decodeFrom_push _ (by omega) low high (show 1 < 2 by decide),
      decodeFrom_close _ (by omega) (by dsimp only [Sequence.push]; omega)
        (by dsimp only [Sequence.push]; omega) rfl]
    dsimp only [Sequence.push]
    rw [code, same]
  · obtain ⟨least, most, begun, low, high⟩ := begin?_four (by omega) top
    have code : 64 * (64 * (64 * (c.toNat / 262144) + (0x80 + c.toNat / 4096 % 64 - 0x80)) +
        (0x80 + c.toNat / 64 % 64 - 0x80)) + (0x80 + c.toNat % 64 - 0x80) = c.toNat := by
      omega
    simp only [one, two, three, if_false, List.cons_append, List.nil_append, List.length_cons,
      List.length_nil]
    rw [decodeFrom_begin _ (by omega) (by omega) begun,
      decodeFrom_push _ (by omega) low high (show 1 < 3 by decide),
      decodeFrom_push _ (by omega) (by dsimp only [Sequence.push]; omega)
        (by dsimp only [Sequence.push]; omega) (show 1 < 2 by decide),
      decodeFrom_close _ (by omega) (by dsimp only [Sequence.push]; omega)
        (by dsimp only [Sequence.push]; omega) rfl]
    dsimp only [Sequence.push]
    rw [code, same]

theorem decodeFrom_encode (position : Nat) (cs : List Char) :
    decodeFrom position none (encode cs) = .ok cs := by
  induction cs generalizing position with
  | nil => rfl
  | cons c rest ih =>
      rw [encode, List.flatMap_cons, decodeFrom_encodeChar, ← encode, ih]
      rfl

theorem decode_encode (cs : List Char) : decode (encode cs) = .ok cs := decodeFrom_encode 0 cs

theorem encode_injective {cs ds : List Char} (same : encode cs = encode ds) : cs = ds := by
  have decoded := congrArg decode same
  rw [decode_encode, decode_encode] at decoded
  exact Except.ok.inj decoded

theorem encode_append (cs ds : List Char) : encode (cs ++ ds) = encode cs ++ encode ds :=
  List.flatMap_append

/-- The zero character is the zero byte. -/
theorem encode_replicate_zero (count : Nat) :
    encode (List.replicate count '\x00') = List.replicate count 0 := by
  induction count with
  | zero => rfl
  | succ count ih =>
      have zero : encodeChar '\x00' = [0] := by decide
      rw [List.replicate_succ, List.replicate_succ, encode, List.flatMap_cons, ← encode, ih, zero]
      rfl

/-! ## What is read -/

/-- The byte that a sequence goes on with lies within its bounds. -/
theorem exists_of_decodeFrom_some {position : Nat} {s : Sequence} {bytes : List UInt8}
    {cs : List Char} (read : decodeFrom position (some s) bytes = .ok cs) :
    ∃ byte rest, bytes = byte :: rest ∧ s.low ≤ byte.toNat ∧ byte.toNat ≤ s.high ∧
      (if s.owed - 1 = 0 then
        (decodeFrom (position + 1) none rest).map
          (Char.ofNat (64 * s.code + (byte.toNat - 0x80)) :: ·)
      else decodeFrom (position + 1) (some (s.push byte.toNat)) rest) = .ok cs := by
  cases bytes with
  | nil => cases read
  | cons byte rest =>
      rw [decodeFrom] at read
      by_cases within : s.low ≤ byte.toNat ∧ byte.toNat ≤ s.high
      · rw [if_pos within] at read
        exact ⟨byte, rest, rfl, within.1, within.2, read⟩
      · rw [if_neg within] at read
        cases read

def Continues (byte : UInt8) : Prop := 0x80 ≤ byte.toNat ∧ byte.toNat ≤ 0xbf

/-- The last byte of a sequence completes a character. -/
theorem exists_of_closing {position : Nat} {s : Sequence} {bytes : List UInt8} {cs : List Char}
    (last : s.owed = 1) (low : s.low = 0x80) (high : s.high = 0xbf)
    (read : decodeFrom position (some s) bytes = .ok cs) :
    ∃ byte rest later, bytes = byte :: rest ∧ Continues byte ∧
      cs = Char.ofNat (64 * s.code + (byte.toNat - 0x80)) :: later ∧
      decodeFrom (position + 1) none rest = .ok later := by
  obtain ⟨byte, rest, rfl, least, most, read⟩ := exists_of_decodeFrom_some read
  rw [last, if_pos rfl] at read
  cases read_rest : decodeFrom (position + 1) none rest with
  | error fault =>
      rw [read_rest] at read
      cases read
  | ok later =>
      rw [read_rest] at read
      exact ⟨byte, rest, later, rfl, ⟨low ▸ least, high ▸ most⟩, (Except.ok.inj read).symm,
        read_rest⟩

/-- Any byte before that leaves a sequence that owes one byte less. -/
theorem exists_of_continuing {position : Nat} {s : Sequence} {bytes : List UInt8} {cs : List Char}
    (more : 1 < s.owed) (read : decodeFrom position (some s) bytes = .ok cs) :
    ∃ byte rest, bytes = byte :: rest ∧ s.low ≤ byte.toNat ∧ byte.toNat ≤ s.high ∧
      decodeFrom (position + 1) (some (s.push byte.toNat)) rest = .ok cs := by
  obtain ⟨byte, rest, rfl, least, most, read⟩ := exists_of_decodeFrom_some read
  rw [if_neg (by omega)] at read
  exact ⟨byte, rest, rfl, least, most, read⟩

/-- How a sequence begins.  Its bounds rule out what could be written with fewer bytes, the
surrogates, and what is no character. -/
theorem begin?_cases {byte : UInt8} {s : Sequence} (begun : begin? byte = some s) :
    (0xc2 ≤ byte.toNat ∧ byte.toNat < 0xe0 ∧ s.owed = 1 ∧ s.code = byte.toNat - 0xc0 ∧
      s.low = 0x80 ∧ s.high = 0xbf) ∨
    (0xe0 ≤ byte.toNat ∧ byte.toNat < 0xf0 ∧ s.owed = 2 ∧ s.code = byte.toNat - 0xe0 ∧
      0x80 ≤ s.low ∧ s.high ≤ 0xbf ∧ (byte.toNat = 0xe0 → 0xa0 ≤ s.low) ∧
      (byte.toNat = 0xed → s.high ≤ 0x9f)) ∨
    (0xf0 ≤ byte.toNat ∧ byte.toNat < 0xf5 ∧ s.owed = 3 ∧ s.code = byte.toNat - 0xf0 ∧
      0x80 ≤ s.low ∧ s.high ≤ 0xbf ∧ (byte.toNat = 0xf0 → 0x90 ≤ s.low) ∧
      (byte.toNat = 0xf4 → s.high ≤ 0x8f)) := by
  grind [begin?]

theorem toNat_ofNat_of_valid {n : Nat} (valid : n.isValidChar) : (Char.ofNat n).toNat = n := by
  rw [Char.ofNat, dif_pos valid]
  rfl

theorem encodeChar_two {a b : UInt8} {code : Nat} (low : 0xc2 ≤ a.toNat) (high : a.toNat < 0xe0)
    (second : Continues b) (value : code = 64 * (a.toNat - 0xc0) + (b.toNat - 0x80)) :
    encodeChar (Char.ofNat code) = [a, b] := by
  obtain ⟨least, most⟩ := second
  have same := toNat_ofNat_of_valid (n := code) (.inl (by omega))
  have first : 0xc0 + code / 64 = a.toNat := by omega
  have last : 0x80 + code % 64 = b.toNat := by omega
  simp only [encodeChar, same]
  rw [if_neg (by omega), if_pos (by omega), first, last, UInt8.ofNat_toNat, UInt8.ofNat_toNat]

theorem encodeChar_three {a b c : UInt8} {code : Nat} (low : 0xe0 ≤ a.toNat)
    (high : a.toNat < 0xf0) (second : Continues b) (long : a.toNat = 0xe0 → 0xa0 ≤ b.toNat)
    (valid : a.toNat = 0xed → b.toNat ≤ 0x9f) (third : Continues c)
    (value : code = 64 * (64 * (a.toNat - 0xe0) + (b.toNat - 0x80)) + (c.toNat - 0x80)) :
    encodeChar (Char.ofNat code) = [a, b, c] := by
  obtain ⟨⟨least, most⟩, least', most'⟩ := And.intro second third
  have same := toNat_ofNat_of_valid (n := code) (by unfold Nat.isValidChar; omega)
  have first : 0xe0 + code / 4096 = a.toNat := by omega
  have middle : 0x80 + code / 64 % 64 = b.toNat := by omega
  have last : 0x80 + code % 64 = c.toNat := by omega
  simp only [encodeChar, same]
  rw [if_neg (by omega), if_neg (by omega), if_pos (by omega), first, middle, last,
    UInt8.ofNat_toNat, UInt8.ofNat_toNat, UInt8.ofNat_toNat]

theorem encodeChar_four {a b c d : UInt8} {code : Nat} (low : 0xf0 ≤ a.toNat)
    (high : a.toNat < 0xf5) (second : Continues b) (long : a.toNat = 0xf0 → 0x90 ≤ b.toNat)
    (valid : a.toNat = 0xf4 → b.toNat ≤ 0x8f) (third : Continues c) (fourth : Continues d)
    (value : code = 64 * (64 * (64 * (a.toNat - 0xf0) + (b.toNat - 0x80)) + (c.toNat - 0x80)) +
      (d.toNat - 0x80)) :
    encodeChar (Char.ofNat code) = [a, b, c, d] := by
  obtain ⟨⟨least, most⟩, ⟨least', most'⟩, least'', most''⟩ :=
    And.intro second (And.intro third fourth)
  have same := toNat_ofNat_of_valid (n := code) (by unfold Nat.isValidChar; omega)
  have first : 0xf0 + code / 262144 = a.toNat := by omega
  have next : 0x80 + code / 4096 % 64 = b.toNat := by omega
  have middle : 0x80 + code / 64 % 64 = c.toNat := by omega
  have last : 0x80 + code % 64 = d.toNat := by omega
  simp only [encodeChar, same]
  rw [if_neg (by omega), if_neg (by omega), if_neg (by omega), first, next, middle, last,
    UInt8.ofNat_toNat, UInt8.ofNat_toNat, UInt8.ofNat_toNat, UInt8.ofNat_toNat]

/-- What is read begins with the bytes of its first character. -/
theorem exists_char_of_decodeFrom {position : Nat} {byte : UInt8} {rest : List UInt8}
    {cs : List Char} (read : decodeFrom position none (byte :: rest) = .ok cs) :
    ∃ c later position' rest', cs = c :: later ∧ byte :: rest = encodeChar c ++ rest' ∧
      decodeFrom position' none rest' = .ok later := by
  rw [decodeFrom] at read
  by_cases small : byte.toNat < 0x80
  · rw [if_pos small] at read
    cases read_rest : decodeFrom (position + 1) none rest with
    | error fault =>
        rw [read_rest] at read
        cases read
    | ok later =>
        rw [read_rest] at read
        have code := toNat_ofNat_of_valid (n := byte.toNat) (.inl (by omega))
        have written : encodeChar (Char.ofNat byte.toNat) = [byte] := by
          rw [encodeChar, code, if_pos small, UInt8.ofNat_toNat]
        exact ⟨_, later, _, rest, (Except.ok.inj read).symm, by rw [written]; rfl, read_rest⟩
  · rw [if_neg small] at read
    cases begun : begin? byte with
    | none =>
        rw [begun] at read
        cases read
    | some s =>
        rw [begun] at read
        dsimp only at read
        obtain ⟨low, high, owed, code, least, most⟩ |
          ⟨low, high, owed, code, least, most, long, valid⟩ |
          ⟨low, high, owed, code, least, most, long, valid⟩ := begin?_cases begun
        · obtain ⟨b, rest', later, rfl, second, rfl, read_rest⟩ :=
            exists_of_closing owed least most read
          refine ⟨_, later, _, rest', rfl, ?_, read_rest⟩
          rw [encodeChar_two low high second]
          · rfl
          · rw [code]
        · obtain ⟨b, bytes, rfl, least', most', read⟩ := exists_of_continuing (by omega) read
          obtain ⟨c, rest', later, rfl, third, rfl, read_rest⟩ :=
            exists_of_closing (by simp only [Sequence.push]; omega) rfl rfl read
          refine ⟨_, later, _, rest', rfl, ?_, read_rest⟩
          rw [encodeChar_three low high ⟨by omega, by omega⟩
            (fun first => Nat.le_trans (long first) least')
            (fun first => Nat.le_trans most' (valid first)) third]
          · rfl
          · rw [Sequence.push, code]
        · obtain ⟨b, bytes, rfl, least', most', read⟩ := exists_of_continuing (by omega) read
          obtain ⟨c, bytes, rfl, least'', most'', read⟩ :=
            exists_of_continuing (by simp only [Sequence.push]; omega) read
          obtain ⟨d, rest', later, rfl, fourth, rfl, read_rest⟩ :=
            exists_of_closing (by simp only [Sequence.push]; omega) rfl rfl read
          refine ⟨_, later, _, rest', rfl, ?_, read_rest⟩
          rw [encodeChar_four low high ⟨by omega, by omega⟩
            (fun first => Nat.le_trans (long first) least')
            (fun first => Nat.le_trans most' (valid first)) ⟨least'', most''⟩ fourth]
          · rfl
          · simp only [Sequence.push, code]

theorem eq_encode_of_decodeFrom {position : Nat} {bytes : List UInt8} {cs : List Char}
    (read : decodeFrom position none bytes = .ok cs) : bytes = encode cs := by
  induction cs generalizing position bytes with
  | nil =>
      cases bytes with
      | nil => rfl
      | cons byte rest =>
          obtain ⟨c, later, -, -, impossible, -⟩ := exists_char_of_decodeFrom read
          cases impossible
  | cons c later ih =>
      cases bytes with
      | nil => cases read
      | cons byte rest =>
          obtain ⟨d, later', position', rest', same, bytes, read_rest⟩ :=
            exists_char_of_decodeFrom read
          obtain ⟨rfl, rfl⟩ := List.cons.inj same
          rw [bytes, ih read_rest, encode, encode, List.flatMap_cons]

/-- Bytes are read as a text exactly if they are the bytes of that text. -/
theorem decode_eq_ok_iff {bytes : List UInt8} {cs : List Char} :
    decode bytes = .ok cs ↔ bytes = encode cs :=
  ⟨eq_encode_of_decodeFrom, fun same => same ▸ decode_encode cs⟩

end Utf8

end Codec

end Gatekeeper
