/-!
# Values of a field

A field of a template starts from a text.  Its selectors may pick characters out of
the text, or go on to the kind of the text and to what is known of kinds: their
names, what they are for and which kinds they are built on.  Texts and kinds have more
attributes than these, and other values come of them, so the attributes are an argument
of whatever looks them up.
-/

namespace Gatekeeper

namespace Template

inductive Kind where
  | text
  | object
  | kind
  | tuple
  | nothing
deriving DecidableEq, Repr

namespace Kind

def name : Kind → String
  | text => "str"
  | object => "object"
  | kind => "type"
  | tuple => "tuple"
  | nothing => "NoneType"

def documentation : Kind → List String
  | text => [
      "str(object='') -> str",
      "str(bytes_or_buffer[, encoding[, errors]]) -> str",
      "",
      "Create a new string object from the given object. If encoding or",
      "errors is specified, then the object must expose a data buffer",
      "that will be decoded using the given encoding and error handler.",
      "Otherwise, returns the result of object.__str__() (if defined)",
      "or repr(object).",
      "encoding defaults to sys.getdefaultencoding().",
      "errors defaults to 'strict'."]
  | object => [
      "The base class of the class hierarchy.",
      "",
      "When called, it accepts no arguments and returns a new featureless",
      "instance that has no instance attributes and cannot be given any.",
      ""]
  | kind => [
      "type(object) -> the object's type",
      "type(name, bases, dict, **kwds) -> a new type"]
  | tuple => [
      "Built-in immutable sequence.",
      "",
      "If no argument is given, the constructor returns an empty tuple.",
      "If iterable is specified the tuple is initialized from iterable's items.",
      "",
      "If the argument is a tuple, the return value is the same object."]
  | nothing => []

def base? : Kind → Option Kind
  | object => none
  | _ => some object

/-- A kind and what it is built on, nearest first. -/
def lineage (k : Kind) : List Kind := k :: k.base?.toList

end Kind

inductive Value where
  | text (cs : List Char)
  | kind (k : Kind)
  | kinds (ks : List Kind)
  | nothing
deriving DecidableEq, Repr

namespace Value

def kindOf : Value → Kind
  | text _ => .text
  | kind _ => .kind
  | kinds _ => .tuple
  | nothing => .nothing

def documentation (k : Kind) : Value :=
  if k.documentation = [] then nothing else text ("\n".intercalate k.documentation).toList

/-- The attributes of a kind that are known here. -/
def ofKind? (k : Kind) (name : String) : Option Value :=
  match name with
  | "__name__" | "__qualname__" => some (text k.name.toList)
  | "__module__" => some (text "builtins".toList)
  | "__base__" => some (k.base?.elim nothing kind)
  | "__bases__" => some (kinds k.base?.toList)
  | "__mro__" => some (kinds k.lineage)
  | "__doc__" => some (documentation k)
  | _ => none

/-- The attributes of a value that are known here. -/
def attribute? (v : Value) (name : String) : Option Value :=
  if name = "__class__" then some (kind v.kindOf)
  else
    match v with
    | kind k => ofKind? k name
    | v => if name = "__doc__" then some (documentation v.kindOf) else none

def item? : Value → Nat → Option Value
  | text cs, n => cs[n]?.map fun c => text [c]
  | kinds ks, n => ks[n]?.map kind
  | _, _ => none

def describeKind (k : Kind) : String := "<class '" ++ k.name ++ "'>"

def shown : Value → List Char
  | text cs => cs
  | kind k => (describeKind k).toList
  | kinds [k] => ("(" ++ describeKind k ++ ",)").toList
  | kinds ks => ("(" ++ ", ".intercalate (ks.map describeKind) ++ ")").toList
  | nothing => "None".toList

end Value

/-- Which attributes values have. -/
abbrev Attributes := Value → String → Option Value

end Template

end Gatekeeper
