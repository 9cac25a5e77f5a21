import Gatekeeper.Template.Layout
import Gatekeeper.Template.Piece
import Gatekeeper.Template.Value
import Gatekeeper.Text.Quoted
import Gatekeeper.Text.Split

/-!
# Filling in a template

A template is filled in with one named text, `user_id`.  A field may select
something from the text, quote it, and lay it out by a format, in which fields are
filled in first.  Which attributes a field may select is an argument; a store fills its
templates in with those that are known.
-/

namespace Gatekeeper

namespace Template

def valueName : String := "user_id"

inductive Fault where
  | malformed (m : Malformation)
  | layout (f : LayoutFault)
  | tooDeep
  | noPositional (index : Nat)
  | unknownName (name : String)
  | emptyAttribute
  | afterBracket
  | unclosedBracket
  | noAttribute (owner : Value) (name : String)
  | outOfRange (owner : Kind)
  | notAnIndex (owner : Kind)
  | noItems (owner : Value)
  | unknownConversion (c : Char)
  | noFormat (owner : Kind)
deriving DecidableEq, Repr

namespace Fault

def message : Fault → String
  | malformed m => m.message
  | layout f => f.message
  | tooDeep => "Max string recursion exceeded"
  | noPositional index =>
      "Replacement index " ++ toString index ++ " out of range for positional args tuple"
  | unknownName name => Text.quote name
  | emptyAttribute => "Empty attribute in format string"
  | afterBracket => "Only '.' or '[' may follow ']' in format field specifier"
  | unclosedBracket => "Missing ']' in format string"
  | noAttribute (.kind k) name =>
      "type object '" ++ k.name ++ "' has no attribute '" ++ name ++ "'"
  | noAttribute owner name =>
      "'" ++ owner.kindOf.name ++ "' object has no attribute '" ++ name ++ "'"
  | outOfRange .text => "string index out of range"
  | outOfRange owner => owner.name ++ " index out of range"
  | notAnIndex .text => "string indices must be integers, not 'str'"
  | notAnIndex owner => owner.name ++ " indices must be integers or slices, not str"
  | noItems (.kind k) => "type '" ++ k.name ++ "' is not subscriptable"
  | noItems owner => "'" ++ owner.kindOf.name ++ "' object is not subscriptable"
  | unknownConversion c => "Unknown conversion specifier " ++ showCode c 0x7e
  | noFormat owner => "unsupported format string passed to " ++ owner.name ++ ".__format__"

end Fault

/-- The number that a whole text spells, if it does. -/
def wholeNumber (cs : List Char) : Except Fault (Option Nat) :=
  match leadingNumber cs with
  | .ok (n, []) => .ok n
  | .ok (_, _ :: _) => .ok none
  | .error f => .error (.layout f)

def isSelector (c : Char) : Bool := c = '.' || c = '['

/-- The value of the name in front of any selectors. -/
def lookup (value name : List Char) : Except Fault Value := do
  match ← wholeNumber name with
  | some index => .error (.noPositional index)
  | none =>
      if name.isEmpty then .error (.noPositional 0)
      else if name = valueName.toList then .ok (.text value)
      else .error (.unknownName (String.ofList name))

def reach (attributes : Attributes) (value : Value) (name : List Char) : Except Fault Value :=
  if name.isEmpty then
    .error .emptyAttribute
  else
    match attributes value (String.ofList name) with
    | some found => .ok found
    | none => .error (.noAttribute value (String.ofList name))

def pick (value : Value) (index : List Char) : Except Fault Value := do
  let n ← wholeNumber index
  if index.isEmpty then
    .error .emptyAttribute
  else
    match value, n with
    | .kind _, _ | .nothing, _ => .error (.noItems value)
    | value, none => .error (.notAnIndex value.kindOf)
    | value, some n =>
        match value.item? n with
        | some picked => .ok picked
        | none => .error (.outOfRange value.kindOf)

/-- Where the reader of selectors stands; what is read of a selector is kept reversed. -/
inductive Selecting where
  | between
  | attribute (read : List Char)
  | index (read : List Char)
deriving DecidableEq, Repr

/-- Apply the selectors after a name, one after the other. -/
def selectFrom (attributes : Attributes) :
    Selecting → (value : Value) → List Char → Except Fault Value
  | .between, value, [] => .ok value
  | .between, value, '[' :: rest => selectFrom attributes (.index []) value rest
  | .between, value, '.' :: rest => selectFrom attributes (.attribute []) value rest
  | .between, _, _ :: _ => .error .afterBracket
  | .attribute read, value, [] => reach attributes value read.reverse
  | .attribute read, value, c :: rest =>
      if isSelector c then
        match reach attributes value read.reverse with
        | .ok found =>
            selectFrom attributes (if c = '[' then .index [] else .attribute []) found rest
        | .error fault => .error fault
      else
        selectFrom attributes (.attribute (c :: read)) value rest
  | .index _, _, [] => .error .unclosedBracket
  | .index read, value, c :: rest =>
      if c = ']' then
        match pick value read.reverse with
        | .ok picked => selectFrom attributes .between picked rest
        | .error fault => .error fault
      else
        selectFrom attributes (.index (c :: read)) value rest

def select (attributes : Attributes) : Value → List Char → Except Fault Value :=
  selectFrom attributes .between

/-- Quote a value or leave it as it is; the character zero leaves it too. -/
def convert (value : Value) : Option Char → Except Fault Value
  | none => .ok value
  | some '\x00' => .ok value
  | some 's' => .ok (.text value.shown)
  | some 'r' => .ok (.text (quoted Text.isPrintable))
  | some 'a' => .ok (.text (quoted Text.isAsciiPrintable))
  | some c => .error (.unknownConversion c)
where
  /-- A text between quotes; all else is shown without. -/
  quoted (isShown : Char → Bool) : List Char :=
    match value with
    | .text cs => Text.quoteChars isShown cs
    | value => value.shown

/-- A value laid out by a format, which has to be empty unless the value is a text. -/
def layOutValue (format : List Char) : Value → Except Fault (List Char)
  | .text cs => (layOut format cs).mapError .layout
  | value => if format.isEmpty then .ok value.shown else .error (.noFormat value.kindOf)

/-- The text of a list of pieces, up to the first fault. -/
def joinPieces (fill : Field → Except Fault (List Char)) : List Piece → Except Fault (List Char)
  | [] => .ok []
  | .literal c :: rest => (joinPieces fill rest).map (c :: ·)
  | .malformed m :: _ => .error (.malformed m)
  | .field f :: rest =>
      match fill f with
      | .error fault => .error fault
      | .ok text => (joinPieces fill rest).map (text ++ ·)

/-- Fill in a template whose formats may hold templates themselves, `levels` deep in all. -/
def renderWithin (attributes : Attributes) :
    (levels : Nat) → (value template : List Char) → Except Fault (List Char)
  | 0, _, _ => .error .tooDeep
  | levels + 1, value, template =>
      joinPieces (fun f =>
        match lookup value (f.name.takeWhile (!isSelector ·)) with
        | .error fault => .error fault
        | .ok found =>
          match select attributes found (f.name.dropWhile (!isSelector ·)) with
          | .error fault => .error fault
          | .ok selected =>
            match convert selected f.conversion with
            | .error fault => .error fault
            | .ok converted =>
              match
                  if f.format.contains '\x7b' then renderWithin attributes levels value f.format
                  else .ok f.format with
              | .error fault => .error fault
              | .ok format => layOutValue format converted)
        (pieces template)

/-- Fill in a template with a user's identifier; formats are filled in one level deep. -/
def renderBy (attributes : Attributes) (template userId : String) : Except Fault String :=
  (renderWithin attributes 2 userId.toList template.toList).map String.ofList

/-- Fill in a template with the attributes that are known. -/
def render : (template userId : String) → Except Fault String := renderBy Value.attribute?

/-- Whether a template has a field of just the value's name. -/
def mentionsValue (template : String) : Bool :=
  Text.occursIn ('\x7b' :: (valueName.toList ++ ['\x7d'])) template.toList

end Template

end Gatekeeper
