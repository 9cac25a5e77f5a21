import Gatekeeper.Config

/-!
# Filling in a template

A template is filled in piece by piece.  Malformed text and a field of another name are
filled in for nobody, literal text and a field of just the value for everybody, and so
the standard template is filled in with every identifier.  Selectors, conversions and
formats may go either way, but without a selected attribute it makes no difference which
attributes there are.
-/

namespace Gatekeeper

namespace Template

variable {attributes : Attributes}

/-! ## Pieces -/

def Field.whole : Field := ⟨valueName.toList, none, []⟩

def Field.head (f : Field) : List Char := f.name.takeWhile (!isSelector ·)

namespace Piece

/-- Nobody's value fills the piece. -/
def IsUnfillable : Piece → Prop
  | literal _ => False
  | field f => f.head ≠ valueName.toList
  | malformed _ => True

def IsSimple : Piece → Prop
  | literal _ => True
  | field f => f = .whole
  | malformed _ => False

def filled (value : List Char) : Piece → List Char
  | literal c => [c]
  | field _ => value
  | malformed _ => []

end Piece

/-! ## Fields -/

/-- The text of a field of a template whose formats may be templates `levels` deep. -/
def fillField (attributes : Attributes) (levels : Nat) (value : List Char) (f : Field) :
    Except Fault (List Char) :=
  match lookup value f.head with
  | .error fault => .error fault
  | .ok found =>
    match select attributes found (f.name.dropWhile (!isSelector ·)) with
    | .error fault => .error fault
    | .ok selected =>
      match convert selected f.conversion with
      | .error fault => .error fault
      | .ok converted =>
        match if f.format.contains '\x7b' then renderWithin attributes levels value f.format
          else .ok f.format with
        | .error fault => .error fault
        | .ok format => layOutValue format converted

theorem renderWithin_succ (levels : Nat) (value template : List Char) :
    renderWithin attributes (levels + 1) value template =
      joinPieces (fillField attributes levels value) (pieces template) := rfl

theorem lookup_valueName (value : List Char) :
    lookup value valueName.toList = .ok (.text value) := by
  have letters : valueName.toList = 'u' :: "ser_id".toList := by decide +kernel
  have letter : Text.digitValue? 'u' = none := by decide +kernel
  have name : wholeNumber valueName.toList = .ok none := by
    rw [wholeNumber, leadingNumber, letters, leadingNumberFrom, letter]
  rw [lookup, name]
  rfl

theorem lookup_of_ne (value : List Char) {name : List Char} (other : name ≠ valueName.toList) :
    ∃ fault, lookup value name = .error fault := by
  rw [lookup]
  cases wholeNumber name with
  | error fault => exact ⟨fault, rfl⟩
  | ok number =>
      cases number with
      | some index => exact ⟨.noPositional index, rfl⟩
      | none =>
          by_cases empty : name.isEmpty = true
          · exact ⟨.noPositional 0, by simp [empty, bind, Except.bind]⟩
          · exact ⟨.unknownName (String.ofList name),
              by simp [empty, other, bind, Except.bind]⟩

theorem fillField_of_head_ne (levels : Nat) (value : List Char) {f : Field}
    (other : f.head ≠ valueName.toList) :
    ∃ fault, fillField attributes levels value f = .error fault := by
  obtain ⟨fault, missing⟩ := lookup_of_ne value other
  exact ⟨fault, by rw [fillField, missing]⟩

theorem fillField_whole (attributes : Attributes) (levels : Nat) (value : List Char) :
    fillField attributes levels value .whole = .ok value := by
  have name : Field.whole.head = valueName.toList := by decide +kernel
  have selectors : Field.whole.name.dropWhile (!isSelector ·) = [] := by decide +kernel
  rw [fillField, name, lookup_valueName, selectors]
  rfl

/-! ## Joined pieces -/

def Piece.text (fill : Field → Except Fault (List Char)) : Piece → Except Fault (List Char)
  | literal c => .ok [c]
  | field f => fill f
  | malformed m => .error (.malformed m)

theorem Piece.text_of_unfillable (levels : Nat) (value : List Char) {piece : Piece}
    (unfillable : piece.IsUnfillable) :
    ∃ fault, piece.text (fillField attributes levels value) = .error fault := by
  cases piece with
  | literal c => exact absurd unfillable id
  | field f => exact fillField_of_head_ne levels value unfillable
  | malformed m => exact ⟨.malformed m, rfl⟩

theorem Piece.text_of_simple (levels : Nat) (value : List Char) {piece : Piece}
    (simple : piece.IsSimple) :
    piece.text (fillField attributes levels value) = .ok (piece.filled value) := by
  cases piece with
  | literal c => rfl
  | field f =>
      obtain rfl : f = .whole := simple
      exact fillField_whole attributes levels value
  | malformed m => exact absurd simple id

variable {fill : Field → Except Fault (List Char)}

theorem joinPieces_cons_of_ok {piece : Piece} {text : List Char}
    (given : piece.text fill = .ok text) (rest : List Piece) :
    joinPieces fill (piece :: rest) = (joinPieces fill rest).map (text ++ ·) := by
  cases piece with
  | literal c =>
      cases given
      rfl
  | field f =>
      have filled : fill f = .ok text := given
      rw [joinPieces, filled]
  | malformed m => cases given

theorem joinPieces_cons_of_error {piece : Piece} {fault : Fault}
    (given : piece.text fill = .error fault) (rest : List Piece) :
    joinPieces fill (piece :: rest) = .error fault := by
  cases piece with
  | literal c => cases given
  | field f =>
      have failed : fill f = .error fault := given
      rw [joinPieces, failed]
  | malformed m =>
      cases given
      rfl

/-- One piece without a text is enough for none. -/
theorem joinPieces_of_mem_error {parts : List Piece} {piece : Piece} (among : piece ∈ parts)
    (failed : ∃ fault, piece.text fill = .error fault) :
    ∃ fault, joinPieces fill parts = .error fault := by
  induction parts with
  | nil => cases among
  | cons first rest ih =>
      cases given : first.text fill with
      | error fault => exact ⟨fault, joinPieces_cons_of_error given rest⟩
      | ok text =>
          rcases List.mem_cons.mp among with rfl | later
          · obtain ⟨fault, failed⟩ := failed
            rw [failed] at given
            cases given
          · obtain ⟨fault, unjoined⟩ := ih later
            exact ⟨fault, by rw [joinPieces_cons_of_ok given, unjoined]; rfl⟩

theorem joinPieces_of_forall {parts : List Piece} {textOf : Piece → List Char}
    (given : ∀ piece ∈ parts, piece.text fill = .ok (textOf piece)) :
    joinPieces fill parts = .ok (parts.flatMap textOf) := by
  induction parts with
  | nil => rfl
  | cons first rest ih =>
      rw [joinPieces_cons_of_ok (given first List.mem_cons_self),
        ih fun piece among => given piece (List.mem_cons_of_mem first among), List.flatMap_cons]
      rfl

theorem joinPieces_congr {other : Field → Except Fault (List Char)} {parts : List Piece}
    (same : ∀ f, .field f ∈ parts → fill f = other f) :
    joinPieces fill parts = joinPieces other parts := by
  induction parts with
  | nil => rfl
  | cons first rest ih =>
      have joined := ih fun f among => same f (List.mem_cons_of_mem first among)
      cases first with
      | literal c => rw [joinPieces, joinPieces, joined]
      | field f => rw [joinPieces, joinPieces, same f List.mem_cons_self, joined]
      | malformed m => rfl

/-! ## Templates -/

section Render

variable {template user message : String}

theorem renderBy_eq_ok_iff :
    renderBy attributes template user = .ok message ↔
      joinPieces (fillField attributes 1 user.toList) (pieces template.toList) =
        .ok message.toList := by
  rw [renderBy, renderWithin_succ]
  cases joinPieces (fillField attributes 1 user.toList) (pieces template.toList) with
  | error fault => simp [Except.map]
  | ok text =>
      show Except.ok (String.ofList text) = Except.ok message ↔ _
      rw [Except.ok.injEq, Except.ok.injEq]
      constructor
      · rintro rfl
        exact String.toList_ofList.symm
      · rintro rfl
        exact String.ofList_toList

theorem renderBy_of_unfillable {piece : Piece} (among : piece ∈ pieces template.toList)
    (unfillable : piece.IsUnfillable) (user : String) :
    ∃ fault, renderBy attributes template user = .error fault := by
  obtain ⟨fault, unjoined⟩ := joinPieces_of_mem_error among
    (@Piece.text_of_unfillable attributes 1 user.toList piece unfillable)
  exact ⟨fault, by rw [renderBy, renderWithin_succ, unjoined]; rfl⟩

theorem renderBy_of_simple (simple : ∀ piece ∈ pieces template.toList, piece.IsSimple)
    (user : String) :
    renderBy attributes template user =
      .ok (String.ofList ((pieces template.toList).flatMap (Piece.filled user.toList))) := by
  rw [renderBy, renderWithin_succ, joinPieces_of_forall fun piece among =>
    Piece.text_of_simple 1 user.toList (simple piece among)]
  rfl

end Render

/-! ## Attributes -/

def Piece.selects (within : List Char → Bool) : Piece → Bool
  | field f => f.name.contains '.' || within f.format
  | _ => false

/-- Whether a template whose formats may be templates, `levels` deep in all, selects attributes. -/
def selectsWithin : (levels : Nat) → (template : List Char) → Bool
  | 0, _ => false
  | levels + 1, template => (pieces template).any (Piece.selects (selectsWithin levels))

/-- Some field has a point in its name, or in its format there is one that has. -/
def SelectsAttribute (template : String) : Prop := selectsWithin 2 template.toList = true

instance (template : String) : Decidable (SelectsAttribute template) :=
  inferInstanceAs (Decidable (_ = true))

section Congr

variable (first second : Attributes)

/-- Only a point leads to an attribute: without one the selectors are indices. -/
theorem selectFrom_eq {selectors : List Char} (pointless : '.' ∉ selectors) :
    (∀ value, selectFrom first .between value selectors =
      selectFrom second .between value selectors) ∧
    ∀ read value, selectFrom first (.index read) value selectors =
      selectFrom second (.index read) value selectors := by
  induction selectors with
  | nil => exact ⟨fun _ => rfl, fun _ _ => rfl⟩
  | cons c rest ih =>
      rw [List.mem_cons, not_or] at pointless
      obtain ⟨between, index⟩ := ih pointless.2
      constructor
      · intro value
        by_cases opens : c = '['
        · subst opens
          exact index [] value
        · rw [selectFrom.eq_4 _ _ _ _ opens (Ne.symm pointless.1),
            selectFrom.eq_4 _ _ _ _ opens (Ne.symm pointless.1)]
      · intro read value
        rw [selectFrom, selectFrom]
        by_cases closes : c = ']'
        · rw [if_pos closes, if_pos closes]
          cases pick value read.reverse with
          | error fault => rfl
          | ok picked => exact between picked
        · rw [if_neg closes, if_neg closes]
          exact index (c :: read) value

theorem fillField_eq {levels : Nat} {value : List Char} {f : Field} (pointless : '.' ∉ f.name)
    (same : renderWithin first levels value f.format = renderWithin second levels value f.format) :
    fillField first levels value f = fillField second levels value f := by
  have selected (found : Value) :
      select first found (f.name.dropWhile (!isSelector ·)) =
        select second found (f.name.dropWhile (!isSelector ·)) :=
    (selectFrom_eq first second fun among =>
      pointless ((List.dropWhile_suffix _).subset among)).1 found
  simp only [fillField, selected, same]

theorem renderWithin_eq {levels : Nat} {template : List Char}
    (unselected : selectsWithin levels template = false) (value : List Char) :
    renderWithin first levels value template = renderWithin second levels value template := by
  induction levels generalizing template with
  | zero => rfl
  | succ levels ih =>
      rw [renderWithin_succ, renderWithin_succ]
      refine joinPieces_congr fun f among => ?_
      have plain := List.any_eq_false.mp unselected _ among
      rw [Piece.selects, Bool.or_eq_true, not_or, List.contains_iff_mem] at plain
      exact fillField_eq first second plain.1 (ih (Bool.eq_false_iff.mpr plain.2))

/-- Without a selected attribute it makes no difference which attributes there are. -/
theorem renderBy_eq {template : String} (unselected : ¬SelectsAttribute template) (user : String) :
    renderBy first template user = renderBy second template user := by
  rw [renderBy, renderBy, renderWithin_eq first second (Bool.eq_false_iff.mpr unselected)]

end Congr

/-! ## The standard template -/

theorem flatMap_filled_literals (value text : List Char) :
    (text.map .literal).flatMap (Piece.filled value) = text := by
  rw [List.flatMap_map]
  exact List.flatMap_singleton' text

theorem render_standard (user : String) :
    render Config.standard.secretTemplate user =
      .ok (String.ofList ("Secrets for user ".toList ++ user.toList)) := by
  have parts : pieces Config.standard.secretTemplate.toList =
      "Secrets for user ".toList.map .literal ++ [.field .whole] := by
    decide +kernel
  have simple : ∀ piece ∈ pieces Config.standard.secretTemplate.toList, piece.IsSimple := by
    intro piece among
    rw [parts, List.mem_append, List.mem_map, List.mem_singleton] at among
    rcases among with ⟨c, -, rfl⟩ | rfl
    · trivial
    · rfl
  rw [render, renderBy_of_simple simple, parts, List.flatMap_append, flatMap_filled_literals,
    List.flatMap_singleton, Piece.filled]

end Template

end Gatekeeper
