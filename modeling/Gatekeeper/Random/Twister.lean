import Gatekeeper.Random.Source

/-!
# The Mersenne twister

The generator MT19937: 624 words of 32 bits, seeded with a list of words.  The
words are renewed one at a time, just before each is given out.
-/

namespace Gatekeeper

/-- The words of the generator, and the place of the next one to renew. -/
structure Twister where
  words : Vector UInt32 624
  place : Fin 624

namespace Twister

/-- What is mixed of a word into the next one. -/
def carry (word : UInt32) : UInt32 := word ^^^ (word >>> 30)

def spread (seed : UInt32) : Vector UInt32 624 :=
  ((List.finRange 624).foldl
    (fun (words, last) i =>
      if i.val = 0 then (words.set i.val seed, seed)
      else
        let word := 1812433253 * carry last + UInt32.ofNat i.val
        (words.set i.val word, word))
    (Vector.replicate 624 (0 : UInt32), seed)).1

/-- Change the word at a place by a rule that sees the word before it, and go to the next place;
after the last place comes the second, and the first word becomes a copy of the last. -/
def stir (rule : (before word : UInt32) → UInt32) (t : Twister) : Twister :=
  let before := t.words[(t.place + 623).val]
  let words := t.words.set t.place.val (rule before t.words[t.place.val])
  if t.place.val = 623 then ⟨words.set 0 words[623], 1⟩ else ⟨words, t.place + 1⟩

def ofKey (key : List UInt32) : Twister :=
  let start : Twister := ⟨spread 19650218, 1⟩
  let numbered := key.zipIdx.map fun (word, j) => word + UInt32.ofNat j
  let turns := max 624 key.length
  let additions := (List.replicate (turns / max key.length 1 + 1) numbered).flatten.take turns
  let mixed := additions.foldl
    (fun t addition => t.stir fun before word => (word ^^^ (carry before * 1664525)) + addition)
    start
  let settled := (List.range 623).foldl
    (fun t _ =>
      let number := UInt32.ofNat t.place.val
      t.stir fun before word => (word ^^^ (carry before * 1566083941)) - number)
    mixed
  ⟨settled.words.set 0 0x80000000, 0⟩

/-- The words of a number, least significant first; zero has one word. -/
def wordsOf (n : Nat) : List UInt32 :=
  if n < UInt32.size then [UInt32.ofNat n] else UInt32.ofNat n :: wordsOf (n / UInt32.size)
termination_by n
decreasing_by
  rename_i large
  have base : UInt32.size = 4294967296 := rfl
  rw [base] at large ⊢
  omega

/-- The generator for a seed; the sign does not count. -/
def ofSeed (seed : Int) : Twister := ofKey (wordsOf seed.natAbs)

def temper (word : UInt32) : UInt32 :=
  let word := word ^^^ (word >>> 11)
  let word := word ^^^ ((word <<< 7) &&& 0x9d2c5680)
  let word := word ^^^ ((word <<< 15) &&& 0xefc60000)
  word ^^^ (word >>> 18)

def next (t : Twister) : UInt32 × Twister :=
  let joined :=
    (t.words[t.place.val] &&& 0x80000000) ||| (t.words[(t.place + 1).val] &&& 0x7fffffff)
  let twisted := (joined >>> 1) ^^^ (if joined &&& 1 = 0 then 0 else 0x9908b0df)
  let word := t.words[(t.place + 397).val] ^^^ twisted
  (temper word, ⟨t.words.set t.place.val word, t.place + 1⟩)

/-- A number of so many bits, made of whole words and the upper part of the last one. -/
def bits (count : Nat) (t : Twister) : Nat × Twister :=
  let (word, t) := t.next
  if _ : count ≤ 32 then
    (word.toNat >>> (32 - count), t)
  else
    let (rest, t) := bits (count - 32) t
    (word.toNat + (rest <<< 32), t)
termination_by count

/-- How often a draw is repeated until it falls below the bound; half of all draws do. -/
def patience : Nat := 1000

def untilBelow (bound : Nat) (positive : 0 < bound) (count : Nat) :
    (attempts : Nat) → Twister → Fin bound × Twister
  | 0, t => (⟨0, positive⟩, t)
  | attempts + 1, t =>
      let (n, t) := t.bits count
      if h : n < bound then (⟨n, h⟩, t) else untilBelow bound positive count attempts t

def source : RandomSource Twister where
  below bound positive := untilBelow bound positive (bound.log2 + 1) patience

end Twister

end Gatekeeper
