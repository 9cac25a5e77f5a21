import Gatekeeper.Proofs.Template.Render
import Gatekeeper.UserId

/-!
# Templates that fit everybody

A template fits if every identifier fills it and is part of the text.  Wherever there is
a field of just the value, the value is part of the text.  So a template without
selectors, conversions and formats fits exactly if it has such a field and no piece that
nobody fills.  In a plain template the braces only stand around the value's name, so a
plain template that mentions the value fits.
-/

namespace Gatekeeper

namespace Template

variable {attributes : Attributes} {fill : Field → Except Fault (List Char)}
  {template user message : String}

/-- The text of every piece is part of the whole. -/
theorem infix_of_joinPieces {parts : List Piece} {piece : Piece} {text joined : List Char}
    (among : piece ∈ parts) (given : piece.text fill = .ok text)
    (all : joinPieces fill parts = .ok joined) : text <:+: joined := by
  induction parts generalizing joined with
  | nil => cases among
  | cons first rest ih =>
      cases head : first.text fill with
      | error fault =>
          rw [joinPieces_cons_of_error head] at all
          cases all
      | ok before =>
          rw [joinPieces_cons_of_ok head] at all
          cases after : joinPieces fill rest with
          | error fault =>
              rw [after] at all
              cases all
          | ok behind =>
              rw [after] at all
              obtain rfl : before ++ behind = joined := Except.ok.inj all
              rcases List.mem_cons.mp among with rfl | later
              · obtain rfl : text = before := Except.ok.inj (given.symm.trans head)
                exact (List.prefix_append text behind).isInfix
              · exact (ih later after).trans (List.suffix_append before behind).isInfix

/-- Where there is a field of just the value, the value is part of the text. -/
theorem infix_of_renderBy (mentioned : .field .whole ∈ pieces template.toList)
    (rendered : renderBy attributes template user = .ok message) :
    user.toList <:+: message.toList := by
  have given : Piece.text (fillField attributes 1 user.toList) (.field .whole) = .ok user.toList :=
    fillField_whole attributes 1 user.toList
  exact infix_of_joinPieces mentioned given (renderBy_eq_ok_iff.mp rendered)

/-! ## Templates for everybody -/

/-- Every well-formed identifier fills the template and is part of the text. -/
def Fits (attributes : Attributes) (template : String) : Prop :=
  ∀ user, UserId.WellFormed user → ∃ message,
    renderBy attributes template user = .ok message ∧ user.toList <:+: message.toList

theorem fits_congr {first second : Attributes}
    (same : ∀ user, renderBy first template user = renderBy second template user) :
    Fits first template ↔ Fits second template := by
  simp only [Fits, same]

theorem fits_of_simple (simple : ∀ piece ∈ pieces template.toList, piece.IsSimple)
    (mentioned : .field .whole ∈ pieces template.toList) : Fits attributes template := by
  intro user _
  have rendered := @renderBy_of_simple attributes template simple user
  exact ⟨_, rendered, infix_of_renderBy mentioned rendered⟩

theorem Piece.length_flatMap_filled {parts : List Piece} (value : List Char)
    (simple : ∀ piece ∈ parts, piece.IsSimple) (unmentioned : .field .whole ∉ parts) :
    (parts.flatMap (Piece.filled value)).length ≤ parts.length := by
  induction parts with
  | nil => exact Nat.le_refl 0
  | cons piece rest ih =>
      rw [List.forall_mem_cons] at simple
      rw [List.mem_cons, not_or] at unmentioned
      have shorter := ih simple.2 unmentioned.2
      cases piece with
      | literal c =>
          rw [List.flatMap_cons, List.length_append, List.length_cons]
          simp only [filled, List.length_singleton]
          omega
      | field f =>
          obtain rfl : f = .whole := simple.1
          exact absurd rfl unmentioned.1
      | malformed m => exact absurd simple.1 id

/-- There are well-formed identifiers of any length. -/
theorem exists_wellFormed (length : Nat) :
    ∃ user, UserId.WellFormed user ∧ user.toList.length = length + 1 := by
  have letters : (String.ofList (List.replicate (length + 1) 'a')).toList =
      List.replicate (length + 1) 'a' := String.toList_ofList
  refine ⟨_, ⟨?_, ?_⟩, by rw [letters, List.length_replicate]⟩
  · intro empty
    rw [← String.toList_eq_nil_iff, letters] at empty
    cases empty
  · rw [letters]
    intro among
    exact absurd (List.eq_of_mem_replicate among) (by decide)

/-- A text that is the same for everybody is too short for somebody. -/
theorem whole_mem_of_fits (fits : Fits attributes template)
    (simple : ∀ piece ∈ pieces template.toList, piece.IsSimple) :
    .field .whole ∈ pieces template.toList := by
  refine Decidable.byContradiction fun unmentioned => ?_
  obtain ⟨user, formed, longer⟩ := exists_wellFormed (pieces template.toList).length
  obtain ⟨message, rendered, inside⟩ := fits user formed
  have shorter := Piece.length_flatMap_filled user.toList simple unmentioned
  rw [renderBy_of_simple simple, Except.ok.injEq] at rendered
  have fitting := inside.length_le
  rw [← rendered, String.toList_ofList] at fitting
  omega

/-- Where all fields of the value are fields of just the value, a template fits exactly if there
is one and all pieces are simple. -/
theorem fits_iff
    (bare : ∀ piece ∈ pieces template.toList, piece.IsUnfillable ∨ piece.IsSimple) :
    Fits attributes template ↔
      (∀ piece ∈ pieces template.toList, piece.IsSimple) ∧
        .field .whole ∈ pieces template.toList := by
  constructor
  · intro fits
    have simple : ∀ piece ∈ pieces template.toList, piece.IsSimple := by
      intro piece among
      refine (bare piece among).resolve_left fun unfillable => ?_
      obtain ⟨user, formed, -⟩ := exists_wellFormed 0
      obtain ⟨message, rendered, -⟩ := fits user formed
      obtain ⟨fault, failed⟩ :=
        @renderBy_of_unfillable attributes template piece among unfillable user
      rw [rendered] at failed
      cases failed
    exact ⟨simple, whole_mem_of_fits fits simple⟩
  · rintro ⟨simple, mentioned⟩
    exact fits_of_simple simple mentioned

/-! ## Plain templates -/

/-- The braces of a text only stand around the value's name. -/
inductive Plain : List Char → Prop where
  | nil : Plain []
  | letter {c : Char} {rest : List Char} (opens : c ≠ '\x7b') (closes : c ≠ '\x7d')
      (plain : Plain rest) : Plain (c :: rest)
  | value {rest : List Char} (plain : Plain rest) :
      Plain ('\x7b' :: (valueName.toList ++ '\x7d' :: rest))

theorem pieces_letter {c : Char} (opens : c ≠ '\x7b') (closes : c ≠ '\x7d') (rest : List Char) :
    pieces (c :: rest) = .literal c :: pieces rest := by
  simp [pieces, piecesFrom, opens, closes]

theorem pieces_value (rest : List Char) :
    pieces ('\x7b' :: (valueName.toList ++ '\x7d' :: rest)) = .field .whole :: pieces rest := by
  have letters : valueName.toList = ['u', 's', 'e', 'r', '_', 'i', 'd'] := by decide +kernel
  rw [letters]
  rfl

namespace Plain

variable {template : List Char}

theorem simple (plain : Plain template) : ∀ piece ∈ pieces template, piece.IsSimple := by
  induction plain with
  | nil =>
      intro piece among
      cases among
  | letter opens closes plain ih =>
      rw [pieces_letter opens closes, List.forall_mem_cons]
      exact ⟨trivial, ih⟩
  | value plain ih =>
      rw [pieces_value, List.forall_mem_cons]
      exact ⟨rfl, ih⟩

/-- A plain template that mentions the value has its field. -/
theorem whole_mem (plain : Plain template)
    (mentioned : Text.occursIn ('\x7b' :: (valueName.toList ++ ['\x7d'])) template = true) :
    .field .whole ∈ pieces template := by
  induction plain with
  | nil => cases mentioned
  | letter opens closes plain ih =>
      rw [pieces_letter opens closes]
      refine List.mem_cons_of_mem _ (ih ?_)
      rw [Text.occursIn, Bool.or_eq_true] at mentioned
      refine mentioned.resolve_left fun begins => ?_
      simp [List.isPrefixOf, opens.symm] at begins
  | value plain ih =>
      rw [pieces_value]
      exact List.mem_cons_self

theorem fits {template : String} (plain : Plain template.toList)
    (mentioned : mentionsValue template = true) : Fits attributes template :=
  fits_of_simple plain.simple (plain.whole_mem mentioned)

end Plain

end Template

end Gatekeeper
