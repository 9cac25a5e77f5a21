import Gatekeeper.Password.Fresh
import Gatekeeper.Proofs.Password.Format

/-!
# Fresh hashes

A password that is hashed under the salt of a draw is verified by exactly the passwords with
the same derived key, and no verification fails.  A fresh hash tells its iteration count, its
salt and its key apart, so two of them are the same text only if all three are the same.
-/

namespace Gatekeeper

namespace Password

theorem hashFresh_eq_hash (p : Password) {salts : SaltSource} {number : Nat} {salt : List UInt8}
    (drawn : salts.draw number salt.length = salt) {n : Int} {hash : PasswordHash} :
    p.hashFresh salts number salt.length n = .ok hash ↔ p.hash salt n = .ok hash := by
  have nonneg : ¬ (salt.length : Int) < 0 := by omega
  rw [hashFresh, SaltSource.drawOfLength, if_neg nonneg, Int.toNat_natCast, drawn]
  dsimp only
  cases p.hash salt n with
  | error fault => simp
  | ok hash' => simp

/-- A fresh hash can be made for every count in the range and every salt.  Every password is
compared with it, and is accepted exactly if its key is the one in the hash; and another fresh
hash is the same text exactly if it has the same count, salt and key. -/
theorem fresh_hash_verifies (p : Password) (salts : SaltSource) (number : Nat) {salt : List UInt8}
    (drawn : salts.draw number salt.length = salt) {n : Nat} (positive : 1 ≤ n)
    (bound : n ≤ Hash.Pbkdf2.maxIterations) :
    ∃ hash digest, p.hashFresh salts number salt.length n = .ok hash ∧
      p.derive salt n = .ok digest ∧ hash.verify p = .ok true ∧
      (∀ q : Password, ∃ derived accepted, q.derive salt n = .ok derived ∧
        hash.verify q = .ok accepted ∧ (accepted = true ↔ derived = digest)) ∧
      ∀ (p' : Password) (salts' : SaltSource) (number' : Nat) (salt' : List UInt8) (n' : Nat)
        (hash' : PasswordHash) (digest' : List UInt8),
        salts'.draw number' salt'.length = salt' →
        p'.hashFresh salts' number' salt'.length n' = .ok hash' → p'.derive salt' n' = .ok digest' →
        (hash.text = hash'.text ↔ n = n' ∧ salt = salt' ∧ digest = digest') := by
  have hashed := (p.hashFresh_eq_hash drawn).mpr (hash_eq p salt positive bound)
  have verified (q : Password) := PasswordHash.verify_compose q positive bound salt (p.key salt n)
  refine ⟨_, _, hashed, derive_eq_key p salt positive bound, ?_, fun q => ?_, ?_⟩
  · rw [verified, decide_eq_true rfl]
  · exact ⟨_, _, derive_eq_key q salt positive bound, verified q, decide_eq_true_iff⟩
  · intro p' salts' number' salt' n' hash' digest' drawn' hashed' derived'
    obtain ⟨⟨positive', bound'⟩, rfl⟩ :=
      eq_compose_of_hash_eq ((p'.hashFresh_eq_hash drawn').mp hashed')
    rw [derive_eq_key p' salt' positive' bound', Except.ok.injEq] at derived'
    rw [← derived', PasswordHash.text_compose_eq_iff bound bound']

theorem fresh_hash_verifies_unsalted :
    SaltSource.counter.draw 0 0 = [] ∧
    ∃ hash hash', (Password.mk "pw").hashFresh .counter 0 0 1 = .ok hash ∧
      hash.verify ⟨"pw"⟩ = .ok true ∧ (Password.mk "pw").hashFresh .counter 0 0 2 = .ok hash' ∧
      hash.text ≠ hash'.text := by
  have unsalted : SaltSource.counter.draw 0 ([] : List UInt8).length = [] := rfl
  obtain ⟨hash, digest, hashed, -, verified, -, others⟩ :=
    fresh_hash_verifies ⟨"pw"⟩ .counter 0 unsalted (Nat.le_refl 1) (by decide)
  obtain ⟨hash', digest', hashed', derived', -⟩ :=
    fresh_hash_verifies ⟨"pw"⟩ .counter 0 unsalted (show 1 ≤ 2 by decide) (by decide)
  refine ⟨unsalted, hash, hash', hashed, verified, hashed', fun same => ?_⟩
  have all := (others ⟨"pw"⟩ .counter 0 [] 2 hash' digest' unsalted hashed' derived').mp same
  exact absurd all.1 (by decide)

end Password

end Gatekeeper
