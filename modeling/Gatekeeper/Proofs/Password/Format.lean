import Gatekeeper.Password
import Gatekeeper.Proofs.Codec.Hex
import Gatekeeper.Proofs.Text.Integer

/-!
# Stored passwords are read back

A password that was hashed under a salt is taken apart into the iterations, the
salt and the digest that were put into it, so verification compares the derived
keys of the two passwords and nothing else.
-/

namespace Gatekeeper

/-! ## Derived keys -/

theorem Hash.Pbkdf2.refusal?_eq_none_iff {iterations : Int} :
    Hash.Pbkdf2.refusal? iterations = none ↔
      1 ≤ iterations ∧ iterations ≤ Hash.Pbkdf2.maxIterations := by
  have least : Int64.minValue.toInt = -9223372036854775808 := by decide
  have greatest : Int64.maxValue.toInt = 9223372036854775807 := by decide
  unfold Hash.Pbkdf2.refusal? Hash.Pbkdf2.maxIterations
  rw [least, greatest]
  split
  · simp only [reduceCtorEq, false_iff]
    omega
  · split
    · simp only [reduceCtorEq, false_iff]
      omega
    · split
      · simp only [reduceCtorEq, false_iff]
        omega
      · simp only [true_iff]
        omega

namespace Password

def key (password : Password) (salt : List UInt8) (iterations : Nat) : List UInt8 :=
  Hash.Pbkdf2.deriveWith (Hash.Hmac.prepare (Codec.Utf8.encodeString password.text)) salt
    iterations

theorem derive_eq_key (password : Password) (salt : List UInt8) {iterations : Nat}
    (positive : 1 ≤ iterations) (bound : iterations ≤ Hash.Pbkdf2.maxIterations) :
    password.derive salt iterations = .ok (password.key salt iterations) := by
  have accepted : Hash.Pbkdf2.refusal? (iterations : Int) = none :=
    Hash.Pbkdf2.refusal?_eq_none_iff.mpr (by omega)
  rw [derive, Hash.Pbkdf2.derive, accepted]
  rfl

theorem hash_eq (password : Password) (salt : List UInt8) {iterations : Nat}
    (positive : 1 ≤ iterations) (bound : iterations ≤ Hash.Pbkdf2.maxIterations) :
    password.hash salt iterations =
      .ok (PasswordHash.compose iterations salt (password.key salt iterations)) := by
  rw [hash, derive_eq_key password salt positive bound]

theorem hash_of_refused (password : Password) (salt : List UInt8) {iterations : Int}
    {fault : Hash.Pbkdf2.Fault} (refused : Hash.Pbkdf2.refusal? iterations = some fault) :
    password.hash salt iterations = .error fault := by
  rw [hash, derive, Hash.Pbkdf2.derive, refused]

/-- A password that could be hashed was hashed for an iteration count that is not refused. -/
theorem eq_compose_of_hash_eq {password : Password} {salt : List UInt8} {iterations : Nat}
    {hash : PasswordHash} (hashed : password.hash salt iterations = .ok hash) :
    (1 ≤ iterations ∧ iterations ≤ Hash.Pbkdf2.maxIterations) ∧
      hash = .compose iterations salt (password.key salt iterations) := by
  have accepted : Hash.Pbkdf2.refusal? (iterations : Int) = none := by
    rw [Password.hash, derive, Hash.Pbkdf2.derive] at hashed
    cases refused : Hash.Pbkdf2.refusal? (iterations : Int) with
    | none => rfl
    | some fault => simp [refused] at hashed
  have bounds := Hash.Pbkdf2.refusal?_eq_none_iff.mp accepted
  have positive : 1 ≤ iterations := by omega
  have bound : iterations ≤ Hash.Pbkdf2.maxIterations := by omega
  rw [hash_eq password salt positive bound, Except.ok.injEq] at hashed
  exact ⟨⟨positive, bound⟩, hashed.symm⟩

end Password

namespace PasswordHash

/-! ## Fields -/

theorem fieldMark_not_mem_algorithm : fieldMark ∉ hashAlgorithm.toList := by
  decide

theorem fieldMark_not_mem_repr (n : Nat) : fieldMark ∉ n.repr.toList := by
  intro h
  exact absurd (Text.isDigit_of_mem_repr h) (by decide)

theorem fieldMark_not_mem_hex (bytes : List UInt8) : fieldMark ∉ Codec.Hex.encode bytes :=
  Codec.Hex.not_mem_encode (by decide) bytes

theorem toList_text_compose (n : Nat) (salt digest : List UInt8) :
    (compose n salt digest).text.toList =
      hashAlgorithm.toList ++ fieldMark :: (n.repr.toList ++ fieldMark ::
        (Codec.Hex.encode salt ++ fieldMark :: Codec.Hex.encode digest)) := by
  have digits : (toString (n : Int)) = n.repr := by
    simp [Int.repr_eq_if]
  rw [compose, String.toList_ofList, digits]

/-- The longest iteration count that is not refused has far fewer digits than the limit. -/
theorem length_iterations_le {n : Nat} (bound : n ≤ Hash.Pbkdf2.maxIterations) :
    (Nat.toDigits 10 n).length ≤ Text.digitLimit := by
  have ten : n < 10 ^ 10 := Nat.lt_of_le_of_lt bound (by decide)
  have short : (Nat.toDigits 10 n).length ≤ 10 :=
    (Nat.length_toDigits_le_iff (by decide) (by decide)).mpr ten
  exact Nat.le_trans short (by decide)

theorem fields_compose {n : Nat} (bound : n ≤ Hash.Pbkdf2.maxIterations)
    (salt digest : List UInt8) :
    (compose n salt digest).fields = .ok ⟨n, salt, digest⟩ := by
  have parts : Text.splitAll fieldMark (compose n salt digest).text.toList =
      [hashAlgorithm.toList, n.repr.toList, Codec.Hex.encode salt, Codec.Hex.encode digest] := by
    rw [toList_text_compose, Text.splitAll_append _ fieldMark_not_mem_algorithm,
      Text.splitAll_append _ (fieldMark_not_mem_repr n),
      Text.splitAll_append _ (fieldMark_not_mem_hex salt),
      Text.splitAll_of_not_mem (fieldMark_not_mem_hex digest)]
  rw [fields, parts]
  simp only [if_true, Codec.Hex.decode_encode, String.ofList_toList,
    Text.readInteger_repr (length_iterations_le bound)]

/-- Two hashes are the same text exactly if they were composed of the same. -/
theorem text_compose_eq_iff {n n' : Nat} (bound : n ≤ Hash.Pbkdf2.maxIterations)
    (bound' : n' ≤ Hash.Pbkdf2.maxIterations) {salt salt' digest digest' : List UInt8} :
    (compose n salt digest).text = (compose n' salt' digest').text ↔
      n = n' ∧ salt = salt' ∧ digest = digest' := by
  constructor
  · intro same
    have fields : (compose n salt digest).fields = (compose n' salt' digest').fields :=
      congrArg (fun text => PasswordHash.fields ⟨text⟩) same
    rw [fields_compose bound, fields_compose bound', Except.ok.injEq, Fields.mk.injEq,
      Int.ofNat_inj] at fields
    exact fields
  · rintro ⟨rfl, rfl, rfl⟩
    rfl

/-- Hashes that were made under different salts are different. -/
theorem compose_ne_of_salt_ne {n : Nat} (bound : n ≤ Hash.Pbkdf2.maxIterations)
    {salt salt' : List UInt8} (other : salt ≠ salt') (digest digest' : List UInt8) :
    compose n salt digest ≠ compose n salt' digest' := by
  intro same
  have parts := (text_compose_eq_iff bound bound).mp (congrArg PasswordHash.text same)
  exact other parts.2.1

/-! ## Verification -/

theorem verify_compose (password : Password) {n : Nat} (positive : 1 ≤ n)
    (bound : n ≤ Hash.Pbkdf2.maxIterations) (salt digest : List UInt8) :
    (compose n salt digest).verify password = .ok (decide (password.key salt n = digest)) := by
  rw [verify, fields_compose bound]
  simp only [Password.derive_eq_key password salt positive bound]

end PasswordHash

end Gatekeeper
