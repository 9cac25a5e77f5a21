import Gatekeeper.Proofs.Password.Format
import Gatekeeper.Proofs.Text.Numeral

/-!
# Which hashes can be verified

A text in the place of a hash is taken apart exactly if it has four fields, the algorithm, a
numeral and two byte strings.  A password is compared with it if derivation takes the number for
an iteration count.  Every other text is refused for what is wrong with a field, unless the number
is one that derivation has no room for: that is an overflow, and not a fault of the format.
-/

namespace Gatekeeper

/-! ## Iteration counts -/

namespace Hash

namespace Pbkdf2

def Fault.IsOverflow : Fault → Prop
  | tooWide | tooGreat => True
  | notPositive => False

/-- Counts below `-2 ^ 63` or above `2 ^ 31 - 1`. -/
def Overflows (iterations : Int) : Prop :=
  iterations < -9223372036854775808 ∨ maxIterations < iterations

theorem isOverflow_iff {iterations : Int} {fault : Fault}
    (refused : refusal? iterations = some fault) : fault.IsOverflow ↔ Overflows iterations := by
  have least : Int64.minValue.toInt = -9223372036854775808 := by decide
  have greatest : Int64.maxValue.toInt = 9223372036854775807 := by decide
  unfold Overflows maxIterations
  unfold refusal? maxIterations at refused
  rw [least, greatest] at refused
  split at refused
  · cases refused
    simp only [Fault.IsOverflow, true_iff]
    omega
  · split at refused
    · cases refused
      simp only [Fault.IsOverflow, false_iff]
      omega
    · split at refused
      · cases refused
        simp only [Fault.IsOverflow, true_iff]
        omega
      · cases refused

end Pbkdf2

end Hash

namespace PasswordHash

open Hash.Pbkdf2 (Overflows maxIterations)

variable {hash : PasswordHash} {fields : Fields}

def Fault.IsOverflow : Fault → Prop
  | derivation fault => fault.IsOverflow
  | _ => False

/-! ## Fields -/

/-- A text with four fields between the marks: the algorithm, a numeral of no more digits than are
converted, and the spellings of two byte strings. -/
def Denotes (hash : PasswordHash) (fields : Fields) : Prop :=
  ∃ (iterations salt digest : List Char) (digits : List Nat),
    hash.text.toList = [fieldMark].intercalate [hashAlgorithm.toList, iterations, salt, digest] ∧
    (∀ field ∈ [iterations, salt, digest], fieldMark ∉ field) ∧
    Text.Numeral iterations digits fields.iterations ∧ digits.length ≤ Text.digitLimit ∧
    Codec.Hex.Spells salt fields.salt ∧ Codec.Hex.Spells digest fields.digest

def Explained (hash : PasswordHash) : Except Fault Fields → Prop
  | .ok fields => hash.Denotes fields
  | .error fault => ¬fault.IsOverflow

theorem explained_fields (hash : PasswordHash) : hash.Explained hash.fields := by
  unfold PasswordHash.fields
  split
  · next algorithm iterations salt digest split =>
    by_cases known : algorithm = hashAlgorithm.toList
    · rw [if_pos known]
      cases first : Codec.Hex.decode salt with
      | error fault => exact not_false
      | ok saltBytes =>
          cases second : Codec.Hex.decode digest with
          | error fault => exact not_false
          | ok digestBytes =>
              cases count : Text.readInteger (String.ofList iterations) with
              | error fault => exact not_false
              | ok n =>
                  obtain ⟨-, clear, whole⟩ := Text.splitAll_eq_iff.mp split
                  obtain ⟨digits, numeral, few⟩ := Text.readInteger_eq_ok_iff.mp count
                  rw [String.toList_ofList] at numeral
                  rw [known] at whole
                  exact ⟨iterations, salt, digest, digits, whole,
                    fun field among => clear field (List.mem_cons_of_mem _ among), numeral, few,
                    Codec.Hex.decode_eq_ok_iff.mp first, Codec.Hex.decode_eq_ok_iff.mp second⟩
    · rw [if_neg known]
      exact not_false
  · exact not_false

/-- A hash is taken apart exactly into the fields that its text denotes. -/
theorem fields_eq_ok_iff : hash.fields = .ok fields ↔ hash.Denotes fields := by
  refine ⟨fun read => by simpa [read, Explained] using hash.explained_fields, ?_⟩
  rintro ⟨iterations, salt, digest, digits, whole, clear, numeral, few, first, second⟩
  have split : Text.splitAll fieldMark hash.text.toList =
      [hashAlgorithm.toList, iterations, salt, digest] :=
    Text.splitAll_eq_iff.mpr ⟨List.cons_ne_nil _ _,
      List.forall_mem_cons.mpr ⟨fieldMark_not_mem_algorithm, clear⟩, whole⟩
  rw [← String.toList_ofList (l := iterations)] at numeral
  rw [PasswordHash.fields, split]
  simp only [if_true, Codec.Hex.decode_eq_ok_iff.mpr first, Codec.Hex.decode_eq_ok_iff.mpr second,
    Text.readInteger_eq_ok_iff.mpr ⟨digits, numeral, few⟩]

theorem denotes_unique {other : Fields} (denotes : hash.Denotes fields)
    (denotes' : hash.Denotes other) : other = fields := by
  have read := fields_eq_ok_iff.mpr denotes
  rw [fields_eq_ok_iff.mpr denotes', Except.ok.injEq] at read
  exact read

theorem Denotes.exists_iff (denotes : hash.Denotes fields) (P : Fields → Prop) :
    (∃ other, hash.Denotes other ∧ P other) ↔ P fields := by
  constructor
  · rintro ⟨other, denotes', holds⟩
    rwa [denotes_unique denotes denotes'] at holds
  · exact fun holds => ⟨fields, denotes, holds⟩

theorem Denotes.forall_iff (denotes : hash.Denotes fields) (P : Fields → Prop) :
    (∀ other, hash.Denotes other → P other) ↔ P fields := by
  refine ⟨fun all => all fields denotes, fun holds other denotes' => ?_⟩
  rwa [denotes_unique denotes denotes']

/-- A hash denotes what it is composed of, however great the count is. -/
theorem denotes_compose {n : Nat} (short : (Nat.toDigits 10 n).length ≤ Text.digitLimit)
    (salt digest : List UInt8) : (compose n salt digest).Denotes ⟨n, salt, digest⟩ := by
  obtain ⟨digits, numeral, few⟩ := Text.readInteger_eq_ok_iff.mp (Text.readInteger_repr short)
  refine ⟨n.repr.toList, Codec.Hex.encode salt, Codec.Hex.encode digest, digits, ?_, ?_, numeral,
    few, Codec.Hex.decode_eq_ok_iff.mp (Codec.Hex.decode_encode salt),
    Codec.Hex.decode_eq_ok_iff.mp (Codec.Hex.decode_encode digest)⟩
  · rw [toList_text_compose]
    simp [List.intercalate_cons_cons]
  · simp only [List.forall_mem_cons, List.not_mem_nil, false_implies, implies_true, and_true]
    exact ⟨fieldMark_not_mem_repr n, fieldMark_not_mem_hex salt, fieldMark_not_mem_hex digest⟩

/-! ## Verification -/

theorem verify_of_not_denotes (password : Password) (other : ¬∃ fields, hash.Denotes fields) :
    ∃ fault, hash.verify password = .error fault ∧ ¬fault.IsOverflow := by
  cases read : hash.fields with
  | ok fields => exact absurd ⟨fields, fields_eq_ok_iff.mp read⟩ other
  | error fault =>
      have explained := hash.explained_fields
      rw [read] at explained
      exact ⟨fault, by rw [verify, read], explained⟩

theorem verify_of_accepted (password : Password) (denotes : hash.Denotes fields)
    (accepted : Hash.Pbkdf2.refusal? fields.iterations = none) :
    hash.verify password =
      .ok (decide (password.key fields.salt fields.iterations.toNat = fields.digest)) := by
  rw [verify, fields_eq_ok_iff.mpr denotes]
  dsimp only
  rw [Password.derive, Hash.Pbkdf2.derive, accepted]
  rfl

theorem verify_of_refused (password : Password) (denotes : hash.Denotes fields)
    {fault : Hash.Pbkdf2.Fault}
    (refused : Hash.Pbkdf2.refusal? fields.iterations = some fault) :
    hash.verify password = .error (.derivation fault) := by
  rw [verify, fields_eq_ok_iff.mpr denotes]
  dsimp only
  rw [Password.derive, Hash.Pbkdf2.derive, refused]

/-- Every verification ends in one of three ways.  It answers exactly if the text denotes fields
with a count that derivation takes, and then it compares derived keys.  It overflows exactly if the
text denotes fields with a count for which there is no room.  Otherwise a value is at fault. -/
theorem verify_ends (hash : PasswordHash) (password : Password) :
    ((∃ answer, hash.verify password = .ok answer) ↔
      ∃ fields, hash.Denotes fields ∧ 1 ≤ fields.iterations ∧
        fields.iterations ≤ maxIterations) ∧
    ((∃ fault, hash.verify password = .error fault ∧ fault.IsOverflow) ↔
      ∃ fields, hash.Denotes fields ∧ Overflows fields.iterations) ∧
    ((∃ fault, hash.verify password = .error fault ∧ ¬fault.IsOverflow) ↔
      ∀ fields, hash.Denotes fields →
        -9223372036854775808 ≤ fields.iterations ∧ fields.iterations < 1) ∧
    ∀ fields, hash.Denotes fields → 1 ≤ fields.iterations → fields.iterations ≤ maxIterations →
      hash.verify password =
        .ok (decide (password.key fields.salt fields.iterations.toNat = fields.digest)) := by
  by_cases known : ∃ fields, hash.Denotes fields
  · obtain ⟨fields, denotes⟩ := known
    rw [denotes.exists_iff fun fields =>
        1 ≤ fields.iterations ∧ fields.iterations ≤ maxIterations,
      denotes.exists_iff fun fields => Overflows fields.iterations,
      denotes.forall_iff fun fields =>
        -9223372036854775808 ≤ fields.iterations ∧ fields.iterations < 1,
      denotes.forall_iff fun fields =>
        1 ≤ fields.iterations → fields.iterations ≤ maxIterations → hash.verify password =
          .ok (decide (password.key fields.salt fields.iterations.toNat = fields.digest))]
    cases refused : Hash.Pbkdf2.refusal? fields.iterations with
    | none =>
        have within := Hash.Pbkdf2.refusal?_eq_none_iff.mp refused
        rw [verify_of_accepted password denotes refused]
        have room : ¬Overflows fields.iterations := by
          unfold Overflows
          omega
        refine ⟨iff_of_true ⟨_, rfl⟩ within, iff_of_false (by simp) room, iff_of_false (by simp) ?_,
          fun _ _ => rfl⟩
        omega
    | some fault =>
        have overflow := Hash.Pbkdf2.isOverflow_iff refused
        have beyond : ¬(1 ≤ fields.iterations ∧ fields.iterations ≤ maxIterations) := by
          intro within
          rw [Hash.Pbkdf2.refusal?_eq_none_iff.mpr within] at refused
          cases refused
        rw [verify_of_refused password denotes refused]
        refine ⟨iff_of_false (by simp) beyond, ?_, ?_,
          fun least most => absurd ⟨least, most⟩ beyond⟩
        · simpa [Fault.IsOverflow] using overflow
        · simp only [Except.error.injEq, exists_eq_left', Fault.IsOverflow, overflow]
          unfold Overflows
          omega
  · obtain ⟨fault, verified, value⟩ := verify_of_not_denotes password known
    rw [verified]
    have none (fields : Fields) : ¬hash.Denotes fields := fun denotes => known ⟨fields, denotes⟩
    simp [none, value]

/-- A hash whose count is the greatest one, written with a sign, an underscore and white space. -/
def ornate : PasswordHash := ⟨"pbkdf2_sha256$\u2003+2_147483647\n$ 0A0b\t$"⟩

theorem denotes_ornate : ornate.Denotes ⟨2147483647, [10, 11], []⟩ := by
  have grouped : Text.Grouped "2_147483647".toList [2, 1, 4, 7, 4, 8, 3, 6, 4, 7] :=
    Text.grouped_of_groupedDigits? (by decide)
  have salt : Codec.Hex.Spells " 0A0b\t".toList [10, 11] :=
    .blank (by decide) (.pair (by decide : _ = some 0) (by decide : _ = some 10)
      (.pair (by decide : _ = some 0) (by decide : _ = some 11) (.blank (by decide) .done)))
  refine ⟨"\u2003+2_147483647\n".toList, " 0A0b\t".toList, [], [2, 1, 4, 7, 4, 8, 3, 6, 4, 7],
    by decide, by decide, ?_, by decide, salt, .done⟩
  exact ⟨['\u2003'], ['+'], "2_147483647".toList, ['\n'], false, by decide,
    List.forall_mem_singleton.mpr (by decide), List.forall_mem_singleton.mpr (by decide),
    .plus, grouped, by decide⟩

/-- Verification answers at the greatest count, and overflows at the next one; a count of none at
all is a value at fault. -/
theorem verify_ends_boundary :
    (∃ answer, ornate.verify ⟨"pw"⟩ = .ok answer) ∧
    (∃ fault, (compose 2147483648 [0] [0]).verify ⟨"pw"⟩ = .error fault ∧ fault.IsOverflow) ∧
    ∃ fault, (compose 0 [] []).verify ⟨"pw"⟩ = .error fault ∧ ¬fault.IsOverflow := by
  refine ⟨?_, ?_, ?_⟩
  · exact (verify_ends ornate ⟨"pw"⟩).1.mpr ⟨_, denotes_ornate, by decide, by decide⟩
  · refine (verify_ends _ ⟨"pw"⟩).2.1.mpr ⟨_, denotes_compose (by decide) [0] [0], .inr ?_⟩
    decide
  · refine (verify_ends _ ⟨"pw"⟩).2.2.1.mpr fun fields denotes => ?_
    rw [denotes_unique (denotes_compose (n := 0) (by decide) [] []) denotes]
    decide

/-- Not every text that cannot be verified is refused for a value at fault. -/
theorem oversized_count_overflows :
    ¬∀ (hash : PasswordHash) (password : Password),
      (¬∃ fields, hash.Denotes fields ∧ 1 ≤ fields.iterations ∧
        fields.iterations ≤ maxIterations) →
      ∃ fault, hash.verify password = .error fault ∧ ¬fault.IsOverflow := by
  intro refused
  have text : compose (2147483648 : Nat) [0] [0] = ⟨"pbkdf2_sha256$2147483648$00$00"⟩ := by
    decide
  have denotes := denotes_compose (n := 2147483648) (by decide) [0] [0]
  have overflows : (compose (2147483648 : Nat) [0] [0]).verify ⟨"pw1"⟩ =
      .error (.derivation .tooGreat) :=
    verify_of_refused ⟨"pw1"⟩ denotes (by decide)
  rw [text] at denotes overflows
  have excessive : ¬∃ fields, (⟨"pbkdf2_sha256$2147483648$00$00"⟩ : PasswordHash).Denotes fields ∧
      1 ≤ fields.iterations ∧ fields.iterations ≤ maxIterations := by
    rintro ⟨fields, denotes', least, most⟩
    rw [denotes_unique denotes denotes'] at most
    exact absurd most (by decide)
  obtain ⟨fault, verified, value⟩ := refused _ ⟨"pw1"⟩ excessive
  rw [overflows, Except.error.injEq] at verified
  rw [← verified] at value
  exact value trivial

end PasswordHash

end Gatekeeper
