import Gatekeeper.Codec.Base64
import Gatekeeper.Text.Blank

/-!
# Base64 texts are read back

The text written for a byte string holds digits of the alphabet and padding, and
padding only at its end, so the strict reader finds nothing in it that is not due
and gives the byte string again.  The lenient reader reads whatever the strict one
accepts, and gives the same; blanks around a text make no difference to it.
-/

namespace Gatekeeper

namespace Codec

namespace Base64

/-! ## Digits -/

theorem value?_digit : ∀ n < 64, value? (digit n) = some n := by
  decide +kernel

theorem digit_ne_padding : ∀ n < 64, digit n ≠ '=' := by
  decide +kernel

theorem digit_ascii : ∀ n < 64, (digit n).toNat < 0x80 := by
  decide +kernel

theorem digit_not_blank : ∀ n < 64, Text.isBlank (digit n) = false := by
  decide +kernel

/-! ## What is written -/

theorem encode_group (a b c : UInt8) (rest : List UInt8) :
    encode (a :: b :: c :: rest) =
      digit (a.toNat / 4) :: digit (a.toNat % 4 * 16 + b.toNat / 16)
        :: digit (b.toNat % 16 * 4 + c.toNat / 64) :: digit (c.toNat % 64) :: encode rest := rfl

/-- Every character that is written is padding or the digit of a number below 64. -/
theorem eq_padding_or_exists_digit_of_mem_encode {bytes : List UInt8} {x : Char}
    (h : x ∈ encode bytes) : x = '=' ∨ ∃ n < 64, x = digit n := by
  induction bytes using encode.induct with
  | case1 => cases h
  | case2 a =>
      have first : a.toNat < 256 := a.toNat_lt
      simp only [encode, List.mem_cons, List.not_mem_nil, or_false] at h
      rcases h with rfl | rfl | rfl | rfl
      · exact .inr ⟨_, by omega, rfl⟩
      · exact .inr ⟨_, by omega, rfl⟩
      · exact .inl rfl
      · exact .inl rfl
  | case3 a b =>
      have first : a.toNat < 256 := a.toNat_lt
      have second : b.toNat < 256 := b.toNat_lt
      simp only [encode, List.mem_cons, List.not_mem_nil, or_false] at h
      rcases h with rfl | rfl | rfl | rfl
      · exact .inr ⟨_, by omega, rfl⟩
      · exact .inr ⟨_, by omega, rfl⟩
      · exact .inr ⟨_, by omega, rfl⟩
      · exact .inl rfl
  | case4 a b c rest ih =>
      have first : a.toNat < 256 := a.toNat_lt
      have second : b.toNat < 256 := b.toNat_lt
      have third : c.toNat < 256 := c.toNat_lt
      rw [encode_group] at h
      simp only [List.mem_cons] at h
      rcases h with rfl | rfl | rfl | rfl | later
      · exact .inr ⟨_, by omega, rfl⟩
      · exact .inr ⟨_, by omega, rfl⟩
      · exact .inr ⟨_, by omega, rfl⟩
      · exact .inr ⟨_, by omega, rfl⟩
      · exact ih later

theorem of_mem_encode {P : Char → Prop} (padding : P '=') (digits : ∀ n < 64, P (digit n))
    {bytes : List UInt8} {x : Char} (h : x ∈ encode bytes) : P x := by
  rcases eq_padding_or_exists_digit_of_mem_encode h with rfl | ⟨n, bound, rfl⟩
  · exact padding
  · exact digits n bound

theorem ascii_of_mem_encode {bytes : List UInt8} {x : Char} (h : x ∈ encode bytes) :
    x.toNat < 0x80 :=
  of_mem_encode (P := fun x => x.toNat < 0x80) (by decide) digit_ascii h

theorem not_blank_of_mem_encode {bytes : List UInt8} {x : Char} (h : x ∈ encode bytes) :
    Text.isBlank x = false :=
  of_mem_encode (P := fun x => Text.isBlank x = false) (by decide) digit_not_blank h

/-! ## Steps of the strict reader -/

theorem strictFrom_digit (decoded : Nat) (group : Group) (pads : Nat) {n : Nat} (bound : n < 64)
    (rest : List Char) :
    strictFrom decoded group pads false (digit n :: rest) =
      emit (group.push n).1 (strictFrom (decoded + (group.push n).1.toList.length)
        (group.push n).2 0 false rest) := by
  rw [strictFrom, if_neg (digit_ne_padding n bound), value?_digit n bound]
  rfl

theorem ofNat_eq_of_toNat_eq {a : UInt8} {n : Nat} (same : n = a.toNat) : UInt8.ofNat n = a := by
  rw [same, UInt8.ofNat_toNat]

/-- Two digits hold the first byte of a group. -/
theorem strictFrom_first (decoded : Nat) (a : UInt8) {low : Nat} (small : low < 16)
    (rest : List Char) :
    strictFrom decoded .empty 0 false
        (digit (a.toNat / 4) :: digit (a.toNat % 4 * 16 + low) :: rest) =
      (strictFrom (decoded + 1) (.two low) 0 false rest).map (a :: ·) := by
  have bound : a.toNat < 256 := a.toNat_lt
  have whole : UInt8.ofNat (a.toNat / 4 * 4 + (a.toNat % 4 * 16 + low) / 16) = a :=
    ofNat_eq_of_toNat_eq (by omega)
  have left : (a.toNat % 4 * 16 + low) % 16 = low := by omega
  rw [strictFrom_digit _ _ _ (by omega), strictFrom_digit _ _ _ (by omega)]
  simp only [Group.push, emit, whole, left]
  rfl

theorem strictFrom_second (decoded : Nat) (b : UInt8) {low : Nat} (small : low < 4)
    (rest : List Char) :
    strictFrom decoded (.two (b.toNat / 16)) 0 false (digit (b.toNat % 16 * 4 + low) :: rest) =
      (strictFrom (decoded + 1) (.three low) 0 false rest).map (b :: ·) := by
  have bound : b.toNat < 256 := b.toNat_lt
  have whole : UInt8.ofNat (b.toNat / 16 * 16 + (b.toNat % 16 * 4 + low) / 4) = b :=
    ofNat_eq_of_toNat_eq (by omega)
  have left : (b.toNat % 16 * 4 + low) % 4 = low := by omega
  rw [strictFrom_digit _ _ _ (by omega)]
  simp only [Group.push, emit, whole, left]
  rfl

theorem strictFrom_third (decoded : Nat) (c : UInt8) (rest : List Char) :
    strictFrom decoded (.three (c.toNat / 64)) 0 false (digit (c.toNat % 64) :: rest) =
      (strictFrom (decoded + 1) .empty 0 false rest).map (c :: ·) := by
  have bound : c.toNat < 256 := c.toNat_lt
  have whole : UInt8.ofNat (c.toNat / 64 * 64 + c.toNat % 64) = c :=
    ofNat_eq_of_toNat_eq (by omega)
  rw [strictFrom_digit _ _ _ (by omega)]
  simp only [Group.push, emit, whole]
  rfl

/-- Padding that completes a group ends the text. -/
theorem strictFrom_paddings (decoded bits : Nat) :
    strictFrom decoded (.two bits) 0 false ['=', '='] = .ok [] := rfl

theorem strictFrom_padding (decoded bits : Nat) :
    strictFrom decoded (.three bits) 0 false ['='] = .ok [] := rfl

/-! ## Round trip -/

theorem strictFrom_encode (decoded : Nat) (bytes : List UInt8) :
    strictFrom decoded .empty 0 false (encode bytes) = .ok bytes := by
  induction bytes using encode.induct generalizing decoded with
  | case1 => rfl
  | case2 a =>
      have ended := strictFrom_first decoded a (show 0 < 16 by decide) ['=', '=']
      simp only [Nat.add_zero, strictFrom_paddings] at ended
      exact ended
  | case3 a b =>
      have second : b.toNat < 256 := b.toNat_lt
      have ended := strictFrom_second (decoded + 1) b (show 0 < 4 by decide) ['=']
      simp only [Nat.add_zero, strictFrom_padding] at ended
      rw [encode, strictFrom_first _ _ (by omega), ended]
      rfl
  | case4 a b c rest ih =>
      have second : b.toNat < 256 := b.toNat_lt
      have third : c.toNat < 256 := c.toNat_lt
      rw [encode_group, strictFrom_first _ _ (by omega), strictFrom_second _ _ (by omega),
        strictFrom_third, ih]
      rfl

theorem decodeStrict_encode (bytes : List UInt8) : decodeStrict (encode bytes) = .ok bytes := by
  have ascii : (encode bytes).any (0x80 ≤ ·.toNat) = false := by
    rw [List.any_eq_false]
    intro x h
    simpa using ascii_of_mem_encode h
  have starts : (encode bytes).head? ≠ some '=' := by
    induction bytes using encode.induct with
    | case1 => nofun
    | case2 a | case3 a b | case4 a b c rest =>
        have first : a.toNat < 256 := a.toNat_lt
        have plain := digit_ne_padding (a.toNat / 4) (by omega)
        simpa [encode] using plain
  rw [decodeStrict, ascii, if_neg Bool.false_ne_true, if_neg starts]
  exact strictFrom_encode 0 bytes

/-! ## The lenient reader -/

theorem exists_of_emit_eq_ok {byte : Option UInt8} {rest : Except Fault (List UInt8)}
    {bytes : List UInt8} (emitted : emit byte rest = .ok bytes) :
    ∃ later, rest = .ok later ∧ emit byte (.ok later) = .ok bytes := by
  cases rest with
  | error fault => cases byte <;> cases emitted
  | ok later => exact ⟨later, rfl, emitted⟩

/-- Where every character is due nothing is skipped. -/
theorem lenientFrom_of_strictFrom {decoded : Nat} {group : Group} {pads : Nat} {padded : Bool}
    {cs : List Char} {bytes : List UInt8}
    (read : strictFrom decoded group pads padded cs = .ok bytes) :
    lenientFrom decoded group pads cs = .ok bytes := by
  induction cs generalizing decoded group pads padded bytes with
  | nil => exact read
  | cons c rest ih =>
      rw [strictFrom] at read
      rw [lenientFrom]
      by_cases padding : c = '='
      · rw [if_pos padding] at read ⊢
        by_cases late : 2 ≤ group.size
        · rw [if_pos late] at read ⊢
          by_cases complete : 4 ≤ group.size + (pads + 1)
          · rw [if_pos complete] at read ⊢
            by_cases last : rest.isEmpty = true
            · rwa [if_pos last] at read
            · rw [if_neg last] at read
              cases read
          · rw [if_neg complete] at read ⊢
            exact ih read
        · rw [if_neg late] at read ⊢
          exact ih read
      · rw [if_neg padding] at read ⊢
        cases value : value? c with
        | none =>
            rw [value] at read
            cases read
        | some n =>
            rw [value] at read
            dsimp only at read ⊢
            cases padded with
            | true => cases read
            | false =>
                rw [if_neg Bool.false_ne_true] at read
                obtain ⟨later, read_later, emitted⟩ := exists_of_emit_eq_ok read
                rw [ih read_later]
                exact emitted

/-- What the strict reader accepts the lenient one reads alike. -/
theorem decodeLenient_of_decodeStrict {cs : List Char} {bytes : List UInt8}
    (read : decodeStrict cs = .ok bytes) : decodeLenient cs = .ok bytes := by
  rw [decodeStrict] at read
  rw [decodeLenient]
  by_cases foreign : cs.any (0x80 ≤ ·.toNat) = true
  · rw [if_pos foreign] at read
    cases read
  · rw [if_neg foreign] at read ⊢
    by_cases padded : cs.head? = some '='
    · rw [if_pos padded] at read
      cases read
    · rw [if_neg padded] at read
      exact lenientFrom_of_strictFrom read

/-! ## Blanks -/

/-- A character that the lenient reader skips wherever it stands. -/
def Foreign (c : Char) : Prop := c ≠ '=' ∧ value? c = none

theorem foreign_of_isBlank {c : Char} (blank : Text.isBlank c = true) : Foreign c := by
  refine ⟨?_, ?_⟩
  · rintro rfl
    exact absurd blank (by decide)
  · simp only [Text.isBlank, Text.isWhiteSpace, Bool.or_eq_true, Bool.and_eq_true,
      decide_eq_true_eq, beq_iff_eq] at blank
    simp only [value?]
    rw [if_neg (by omega), if_neg (by omega), if_neg (by omega), if_neg (by omega),
      if_neg (by omega)]

section Foreign

variable (decoded : Nat) (group : Group) (pads : Nat) {before after : List Char}

theorem lenientFrom_foreign {c : Char} (foreign : Foreign c) (rest : List Char) :
    lenientFrom decoded group pads (c :: rest) = lenientFrom decoded group pads rest := by
  rw [lenientFrom, if_neg foreign.1, foreign.2]

theorem lenientFrom_foreign_append (foreign : ∀ c ∈ before, Foreign c) (cs : List Char) :
    lenientFrom decoded group pads (before ++ cs) = lenientFrom decoded group pads cs := by
  induction before with
  | nil => rfl
  | cons c rest ih =>
      rw [List.forall_mem_cons] at foreign
      rw [List.cons_append, lenientFrom_foreign _ _ _ foreign.1, ih foreign.2]

theorem lenientFrom_append_foreign (foreign : ∀ c ∈ after, Foreign c) (cs : List Char) :
    lenientFrom decoded group pads (cs ++ after) = lenientFrom decoded group pads cs := by
  induction cs generalizing decoded group pads with
  | nil =>
      have skipped := lenientFrom_foreign_append decoded group pads foreign []
      rwa [List.append_nil] at skipped
  | cons c rest ih =>
      rw [List.cons_append, lenientFrom, lenientFrom]
      simp only [ih]

end Foreign

theorem decodeLenient_trim {cs : List Char} (ascii : ∀ c ∈ cs, c.toNat < 0x80) :
    decodeLenient (Text.trim Text.isBlank cs) = decodeLenient cs := by
  obtain ⟨before, after, whole, ahead, behind⟩ := Text.exists_trim Text.isBlank cs
  generalize Text.trim Text.isBlank cs = core at whole
  subst whole
  have small : (before ++ core ++ after).any (0x80 ≤ ·.toNat) = false := by
    rw [List.any_eq_false]
    exact fun c among => by simpa using ascii c among
  have small_core : core.any (0x80 ≤ ·.toNat) = false := by
    rw [List.any_append, List.any_append, Bool.or_eq_false_iff, Bool.or_eq_false_iff] at small
    exact small.1.2
  rw [decodeLenient, decodeLenient, small, small_core, if_neg Bool.false_ne_true,
    if_neg Bool.false_ne_true,
    lenientFrom_append_foreign _ _ _ fun c among => foreign_of_isBlank (behind c among),
    lenientFrom_foreign_append _ _ _ fun c among => foreign_of_isBlank (ahead c among)]

end Base64

end Codec

end Gatekeeper
