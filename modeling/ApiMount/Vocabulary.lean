/-
The closed vocabularies of the service, and the search for a word in
one. A word names its member in capitals; anything else, a value that is
no text included, is refused with its literal.
-/
import ApiMount.Document.Basic
import ApiMount.Fault

namespace ApiMount

/-- The closed vocabularies. -/
inductive Vocabulary where
  | location
  | entryKind
  | severity
  | category
  deriving DecidableEq, Repr

namespace Vocabulary

/-- The title of a vocabulary. -/
def title : Vocabulary → String
  | .location => "ParameterLocation"
  | .entryKind => "EntryKind"
  | .severity => "ErrorSeverity"
  | .category => "ErrorCategory"

/-- The words of a vocabulary, in order. -/
def words : Vocabulary → List String
  | .location => Location.every.map Location.word
  | .entryKind => EntryKind.every.map EntryKind.word
  | .severity => Severity.every.map Severity.word
  | .category => Category.every.map Category.word

/-- Why a value is no word of a vocabulary. -/
def refusal (v : Vocabulary) (value : Json) : String :=
  String.ofList value.tidy.literal ++ " is not a valid " ++ v.title

/-- The word that a value is, or why it is none. -/
def find (v : Vocabulary) (value : Json) : Except String String :=
  match value with
  | .str word =>
    if v.words.contains word then .ok word else .error (v.refusal value)
  | other => .error (v.refusal other)

/-- The name of the member with the given word. -/
def memberName (word : String) : String :=
  String.ofList (word.toList.map Char.toUpper)

end Vocabulary

/-- The severity that a value names, or why it names none. -/
def Severity.ofJson (value : Json) : Except String Severity :=
  match Severity.every.find? fun s => value == .str s.word with
  | some s => .ok s
  | none => .error (Vocabulary.severity.refusal value)

/-- The category that a value names, or why it names none. -/
def Category.ofJson (value : Json) : Except String Category :=
  match Category.every.find? fun c => value == .str c.word with
  | some c => .ok c
  | none => .error (Vocabulary.category.refusal value)

end ApiMount
