/-!
# Blanks

Two sets of blank characters: the Unicode white space property, and that set
with the four information separators, which is what surrounding blanks are
stripped by.
-/

namespace Gatekeeper

namespace Text

/-- The Unicode property `White_Space`. -/
def isWhiteSpace (c : Char) : Bool :=
  let n := c.toNat
  (9 ≤ n && n ≤ 0xd) || n == 0x20 || n == 0x85 || n == 0xa0 || n == 0x1680
    || (0x2000 ≤ n && n ≤ 0x200a) || n == 0x2028 || n == 0x2029 || n == 0x202f || n == 0x205f
    || n == 0x3000

/-- White space, or one of the information separators U+001C to U+001F. -/
def isBlank (c : Char) : Bool := isWhiteSpace c || (0x1c ≤ c.toNat && c.toNat ≤ 0x1f)

/-- White space within ASCII: tab, line feed, vertical tab, form feed, return and space. -/
def isAsciiBlank (c : Char) : Bool := (9 ≤ c.toNat && c.toNat ≤ 0xd) || c.toNat == 0x20

/-- Without the characters of a class at both ends. -/
def trim (blank : Char → Bool) (cs : List Char) : List Char :=
  ((cs.dropWhile blank).reverse.dropWhile blank).reverse

theorem dropWhile_of_forall {blank : Char → Bool} {cs : List Char}
    (kept : ∀ c ∈ cs, blank c = false) : cs.dropWhile blank = cs := by
  cases cs with
  | nil => rfl
  | cons c rest =>
      rw [List.dropWhile_cons, kept c List.mem_cons_self]
      rfl

/-- Of a text between blanks the blanks are taken away. -/
theorem trim_surrounded {blank : Char → Bool} {before cs after : List Char}
    (ahead : ∀ c ∈ before, blank c = true) (kept : ∀ c ∈ cs, blank c = false)
    (behind : ∀ c ∈ after, blank c = true) : trim blank (before ++ cs ++ after) = cs := by
  rw [trim, List.append_assoc, List.dropWhile_append_of_pos ahead]
  cases cs with
  | nil =>
      have none_left : (after ++ []).dropWhile blank = [] :=
        List.dropWhile_append_of_pos behind
      rw [List.append_nil] at none_left
      rw [List.nil_append, none_left]
      rfl
  | cons c rest =>
      have behind' : ∀ d ∈ after.reverse, blank d = true := by
        intro d among
        exact behind d (List.mem_reverse.mp among)
      have kept' : ∀ d ∈ (c :: rest).reverse, blank d = false := by
        intro d among
        exact kept d (List.mem_reverse.mp among)
      rw [List.cons_append, List.dropWhile_cons, kept c List.mem_cons_self,
        if_neg Bool.false_ne_true, ← List.cons_append, List.reverse_append,
        List.dropWhile_append_of_pos behind', dropWhile_of_forall kept', List.reverse_reverse]

theorem trim_of_forall {blank : Char → Bool} {cs : List Char} (h : ∀ c ∈ cs, blank c = false) :
    trim blank cs = cs := by
  have bare := @trim_surrounded blank [] cs [] nofun h nofun
  rwa [List.nil_append, List.append_nil] at bare

/-- A text is what is left of it between blanks. -/
theorem exists_trim (blank : Char → Bool) (cs : List Char) :
    ∃ before after, cs = before ++ trim blank cs ++ after ∧ (∀ c ∈ before, blank c = true) ∧
      ∀ c ∈ after, blank c = true := by
  refine ⟨cs.takeWhile blank, ((cs.dropWhile blank).reverse.takeWhile blank).reverse, ?_, ?_, ?_⟩
  · rw [trim, List.append_assoc, ← List.reverse_append, List.takeWhile_append_dropWhile,
      List.reverse_reverse, List.takeWhile_append_dropWhile]
  · exact List.all_eq_true.mp List.all_takeWhile
  · intro c behind
    exact List.all_eq_true.mp List.all_takeWhile c (List.mem_reverse.mp behind)

end Text

end Gatekeeper
