import Gatekeeper.Proofs.Codec.Utf8
import Gatekeeper.Proofs.Password.Format

/-!
# Passwords that are hashed alike

A password becomes a key by being filled up with zero bytes to the length of a block.
So two passwords of at most one block have the same key block exactly if one is the
other with zero characters after it, and then all keys derived from them are the same.
-/

namespace Gatekeeper

/-! ## Key blocks -/

namespace Hash.Hmac

theorem keyBlock_of_short {key : List UInt8} (short : key.length ≤ 64) :
    keyBlock key = key ++ List.replicate (64 - key.length) 0 := by
  simp [keyBlock, short]

theorem keyBlock_eq_iff {key other : List UInt8} (le : key.length ≤ other.length)
    (short : other.length ≤ 64) :
    keyBlock key = keyBlock other ↔
      other = key ++ List.replicate (other.length - key.length) 0 := by
  have total : other.length - key.length + (64 - other.length) = 64 - key.length := by omega
  rw [keyBlock_of_short (Nat.le_trans le short), keyBlock_of_short short]
  constructor
  · intro same
    have cut := congrArg (List.take other.length) same
    rw [List.take_left, List.take_append, List.take_of_length_le le, List.take_replicate,
      Nat.min_eq_left (by omega)] at cut
    exact cut.symm
  · intro longer
    conv => rhs; arg 1; rw [longer]
    rw [List.append_assoc, List.replicate_append_replicate, total]

end Hash.Hmac

namespace Password

def block (password : Password) : List UInt8 :=
  Hash.Hmac.keyBlock (Codec.Utf8.encodeString password.text)

def Short (password : Password) : Prop := (Codec.Utf8.encodeString password.text).length ≤ 64

instance (password : Password) : Decidable password.Short := inferInstanceAs (Decidable (_ ≤ 64))

def Extends (password shorter : Password) : Prop :=
  ∃ count, password.text.toList = shorter.text.toList ++ List.replicate count '\x00'

theorem key_eq_of_block_eq {p q : Password} (same : p.block = q.block) (salt : List UInt8)
    (iterations : Nat) : p.key salt iterations = q.key salt iterations := by
  unfold key Hash.Hmac.prepare
  rw [show Hash.Hmac.keyBlock _ = _ from same]
  rfl

theorem Extends.block_eq {p q : Password} (longer : q.Extends p) (short : q.Short) :
    p.block = q.block := by
  obtain ⟨count, longer⟩ := longer
  have bytes : Codec.Utf8.encodeString q.text =
      Codec.Utf8.encodeString p.text ++ List.replicate count 0 := by
    rw [Codec.Utf8.encodeString, longer, Codec.Utf8.encode_append,
      Codec.Utf8.encode_replicate_zero]
    rfl
  have total := congrArg List.length bytes
  rw [List.length_append, List.length_replicate] at total
  refine (Hash.Hmac.keyBlock_eq_iff (by omega) short).mpr ?_
  rw [total, Nat.add_sub_cancel_left]
  exact bytes

theorem extends_of_block_eq {p q : Password} (same : p.block = q.block) (short : q.Short)
    (le : (Codec.Utf8.encodeString p.text).length ≤ (Codec.Utf8.encodeString q.text).length) :
    q.Extends p := by
  refine ⟨(Codec.Utf8.encodeString q.text).length - (Codec.Utf8.encodeString p.text).length,
    Codec.Utf8.encode_injective ?_⟩
  rw [Codec.Utf8.encode_append, Codec.Utf8.encode_replicate_zero]
  exact (Hash.Hmac.keyBlock_eq_iff le short).mp same

/-- One of two passwords is the other with zero characters after it. -/
def Alike (p q : Password) : Prop := p.Extends q ∨ q.Extends p

theorem block_eq_iff_alike {p q : Password} (short : p.Short) (short' : q.Short) :
    p.block = q.block ↔ p.Alike q := by
  constructor
  · intro same
    rcases Nat.le_total (Codec.Utf8.encodeString p.text).length
        (Codec.Utf8.encodeString q.text).length with le | le
    · exact .inr (extends_of_block_eq same short' le)
    · exact .inl (extends_of_block_eq same.symm short le)
  · rintro (longer | longer)
    · exact (longer.block_eq short).symm
    · exact longer.block_eq short'

end Password

end Gatekeeper
