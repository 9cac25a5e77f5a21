import Gatekeeper.Codec.Hex

/-!
# Hexadecimal byte strings are read back

The digits written for a byte string are lower-case ASCII digits, and reading
them gives the byte string again.  What else is read are pairs of digits of either
case with ASCII blanks around the pairs.
-/

namespace Gatekeeper

namespace Codec

namespace Hex

/-! ## Digits -/

theorem value?_digitChar : ∀ n < 16, value? (Nat.digitChar n) = some n := by
  decide

theorem digitChar_not_blank : ∀ n < 16, Text.isAsciiBlank (Nat.digitChar n) = false := by
  decide

theorem digitChar_ascii : ∀ n < 16, (Nat.digitChar n).toNat < 0x80 := by
  decide

/-- Every character that is written is the digit of a number below 16. -/
theorem exists_digitChar_of_mem_encode {bytes : List UInt8} {c : Char} (h : c ∈ encode bytes) :
    ∃ n < 16, c = Nat.digitChar n := by
  obtain ⟨byte, _, hc⟩ := List.mem_flatMap.mp h
  have bound : byte.toNat < 256 := byte.toNat_lt
  simp only [encodeByte, List.mem_cons, List.not_mem_nil, or_false] at hc
  rcases hc with rfl | rfl
  · exact ⟨byte.toNat / 16, by omega, rfl⟩
  · exact ⟨byte.toNat % 16, by omega, rfl⟩

theorem not_mem_encode {c : Char} (other : ∀ n < 16, c ≠ Nat.digitChar n) (bytes : List UInt8) :
    c ∉ encode bytes := by
  intro h
  obtain ⟨n, bound, same⟩ := exists_digitChar_of_mem_encode h
  exact other n bound same

/-! ## Round trip -/

theorem encode_cons (byte : UInt8) (bytes : List UInt8) :
    encode (byte :: bytes) =
      Nat.digitChar (byte.toNat / 16) :: Nat.digitChar (byte.toNat % 16) :: encode bytes := rfl

theorem decodeFrom_encode (position : Nat) (bytes : List UInt8) :
    decodeFrom position (encode bytes) = .ok bytes := by
  induction bytes generalizing position with
  | nil => rfl
  | cons byte bytes ih =>
      have bound : byte.toNat < 256 := byte.toNat_lt
      have high : byte.toNat / 16 < 16 := by omega
      have low : byte.toNat % 16 < 16 := by omega
      have joined : 16 * (byte.toNat / 16) + byte.toNat % 16 = byte.toNat := by omega
      rw [encode_cons, decodeFrom, digitChar_not_blank _ high, value?_digitChar _ high]
      simp only [Bool.false_eq_true, if_false, value?_digitChar _ low, ih, joined]
      simp [Except.map]

theorem decode_encode (bytes : List UInt8) : decode (encode bytes) = .ok bytes := by
  have ascii : (encode bytes).findIdx? (fun c => decide (0x80 ≤ c.toNat)) = none := by
    rw [List.findIdx?_eq_none_iff]
    intro c hc
    obtain ⟨n, bound, rfl⟩ := exists_digitChar_of_mem_encode hc
    have := digitChar_ascii n bound
    simpa using this
  rw [decode, ascii]
  exact decodeFrom_encode 0 bytes

/-! ## Spellings -/

/-- Pairs of digits, with ASCII blanks allowed before, between and after the pairs, and the bytes
that they spell. -/
inductive Spells : List Char → List UInt8 → Prop where
  | done : Spells [] []
  | blank {c : Char} {rest : List Char} {bytes : List UInt8} (blank : Text.isAsciiBlank c = true)
      (later : Spells rest bytes) : Spells (c :: rest) bytes
  | pair {c d : Char} {high low : Nat} {rest : List Char} {bytes : List UInt8}
      (first : value? c = some high) (second : value? d = some low) (later : Spells rest bytes) :
      Spells (c :: d :: rest) (UInt8.ofNat (16 * high + low) :: bytes)

theorem bounds_of_value? {c : Char} {n : Nat} (digit : value? c = some n) :
    48 ≤ c.toNat ∧ c.toNat ≤ 102 := by
  simp only [value?] at digit
  split at digit
  · omega
  · split at digit
    · omega
    · split at digit
      · omega
      · cases digit

theorem not_blank_of_value? {c : Char} {n : Nat} (digit : value? c = some n) :
    Text.isAsciiBlank c = false := by
  have bounds := bounds_of_value? digit
  simp only [Text.isAsciiBlank, Bool.or_eq_false_iff, Bool.and_eq_false_iff,
    decide_eq_false_iff_not, beq_eq_false_iff_ne]
  omega

theorem Spells.ascii {cs : List Char} {bytes : List UInt8} (spells : Spells cs bytes) :
    ∀ c ∈ cs, c.toNat < 0x80 := by
  induction spells with
  | done => exact nofun
  | @blank c rest bytes blank later ih =>
      have small : c.toNat < 0x80 := by
        simp only [Text.isAsciiBlank, Bool.or_eq_true, Bool.and_eq_true, decide_eq_true_eq,
          beq_iff_eq] at blank
        omega
      exact List.forall_mem_cons.mpr ⟨small, ih⟩
  | pair first second later ih =>
      have bounds := bounds_of_value? first
      have bounds' := bounds_of_value? second
      exact List.forall_mem_cons.mpr ⟨by omega, List.forall_mem_cons.mpr ⟨by omega, ih⟩⟩

theorem spells_of_decodeFrom {position : Nat} {cs : List Char} {bytes : List UInt8}
    (read : decodeFrom position cs = .ok bytes) : Spells cs bytes := by
  induction position, cs using decodeFrom.induct generalizing bytes with
  | case1 position =>
      cases read
      exact .done
  | case2 position c rest blank ih =>
      rw [decodeFrom, if_pos blank] at read
      exact .blank blank (ih read)
  | case3 position c rest other none =>
      rw [decodeFrom, if_neg other, none] at read
      cases read
  | case4 position c other high first =>
      rw [decodeFrom, if_neg other, first] at read
      cases read
  | case5 position c other high first d rest none =>
      rw [decodeFrom, if_neg other, first] at read
      dsimp only at read
      rw [none] at read
      cases read
  | case6 position c other high first d rest low second ih =>
      rw [decodeFrom, if_neg other, first] at read
      dsimp only at read
      rw [second] at read
      dsimp only at read
      cases later : decodeFrom (position + 2) rest with
      | error fault =>
          rw [later] at read
          cases read
      | ok bytes =>
          rw [later] at read
          cases read
          exact .pair first second (ih later)

theorem Spells.decodeFrom_eq {cs : List Char} {bytes : List UInt8} (spells : Spells cs bytes)
    (position : Nat) : decodeFrom position cs = .ok bytes := by
  induction spells generalizing position with
  | done => rfl
  | blank blank later ih => rw [decodeFrom, if_pos blank, ih]
  | pair first second later ih =>
      rw [decodeFrom, not_blank_of_value? first, if_neg Bool.false_ne_true, first]
      dsimp only
      rw [second]
      dsimp only
      rw [ih]
      rfl

/-- A text is read as a byte string exactly if it spells the byte string. -/
theorem decode_eq_ok_iff {cs : List Char} {bytes : List UInt8} :
    decode cs = .ok bytes ↔ Spells cs bytes := by
  rw [decode]
  constructor
  · intro read
    cases foreign : cs.findIdx? (fun c => decide (0x80 ≤ c.toNat)) with
    | some position =>
        rw [foreign] at read
        cases read
    | none =>
        rw [foreign] at read
        exact spells_of_decodeFrom read
  · intro spells
    have ascii : cs.findIdx? (fun c => decide (0x80 ≤ c.toNat)) = none := by
      rw [List.findIdx?_eq_none_iff]
      intro c letter
      simpa using spells.ascii c letter
    rw [ascii]
    exact spells.decodeFrom_eq 0

end Hex

end Codec

end Gatekeeper
