/-
What goes wrong when something is used for what it cannot do: asked for
an attribute that it lacks, looked into without having items, called, or
given an attribute that it does not take. What is misused goes by the
name of its kind.

Three attributes belong to everything that has attributes: its own kind,
the table of its attributes, and what watches it. They are not given
freely (`Misuse.ofAttribute?`).
-/

namespace ApiMount

/-- A use that something has no way to serve. -/
inductive Misuse where
  /-- Something of this kind has no such attribute. -/
  | lacking (kind name : String)
  /-- Something of this kind has no items. -/
  | noItems (kind : String)
  /-- The items of a text go by number. -/
  | textIndex
  /-- The items of a list go by number. -/
  | listIndex
  /-- Something of this kind has no items that can be taken away. -/
  | noDeletion (kind : String)
  /-- Something of this kind cannot be gone through. -/
  | notIterable (kind : String)
  /-- Nothing can be looked for in something of this kind. -/
  | notContainer (kind : String)
  /-- Nothing can be put into something of this kind under a name. -/
  | noAssignment (kind : String)
  /-- Something of this kind is no set of names. -/
  | notSet (kind : String)
  /-- Something of this kind cannot be called. -/
  | notCallable (kind : String)
  /-- Something of this kind cannot be looked up. -/
  | notHashable (kind : String)
  /-- Something of this kind cannot be the kind of anything. -/
  | notKind (kind : String)
  /-- Something of this kind cannot be the table of attributes. -/
  | notTable (kind : String)
  /-- The attribute is worked out from others. -/
  | readOnly (owner name : String)
  /-- The attribute cannot be written. -/
  | notWritable (owner name : String)
  deriving DecidableEq, Repr

namespace Misuse

/-- The words for a misuse. -/
def message : Misuse → String
  | .lacking kind name =>
    "'" ++ kind ++ "' object has no attribute '" ++ name ++ "'"
  | .noItems kind => "'" ++ kind ++ "' object is not subscriptable"
  | .textIndex => "string indices must be integers, not 'str'"
  | .listIndex => "list indices must be integers or slices, not str"
  | .noDeletion kind =>
    "'" ++ kind ++ "' object does not support item deletion"
  | .notIterable kind => "'" ++ kind ++ "' object is not iterable"
  | .notContainer kind =>
    "argument of type '" ++ kind ++ "' is not iterable"
  | .noAssignment kind =>
    "'" ++ kind ++ "' object does not support item assignment"
  | .notSet "NoneType" => "'None' is not an instance of 'set'"
  | .notSet kind => "'" ++ kind ++ "' object is not an instance of 'set'"
  | .notCallable kind => "'" ++ kind ++ "' object is not callable"
  | .notHashable kind => "unhashable type: '" ++ kind ++ "'"
  | .notKind kind =>
    "__class__ must be set to a class, not '" ++ kind ++ "' object"
  | .notTable kind =>
    "__dict__ must be set to a dictionary, not a '" ++ kind ++ "'"
  | .readOnly owner name =>
    "property '" ++ name ++ "' of '" ++ owner ++ "' object has no setter"
  | .notWritable owner name =>
    "attribute '" ++ name ++ "' of '" ++ owner
      ++ "' objects is not writable"

/-- Whether the misuse is about an attribute. -/
def aboutAttribute : Misuse → Bool
  | .lacking _ _ | .readOnly _ _ | .notWritable _ _ => true
  | _ => false

/-- The name of the table of attributes. -/
def tableName : String := "__dict__"

/-- What keeps an owner's attribute from being given something of a kind,
if anything does. -/
def ofAttribute? (owner name kind : String) (isTable : Bool) :
    Option Misuse :=
  if name = "__class__" then some (.notKind kind)
  else if name = "__weakref__" then some (.notWritable owner name)
  else if name = tableName && !isTable then some (.notTable kind)
  else none

end Misuse

end ApiMount
