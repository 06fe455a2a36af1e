/-
The target of a request: a path and a query, parted by the first question
mark. Both are kept as they were written: no escape is resolved and no
segment is taken out, so a path is compared character by character. Where
a target is written out again, every byte that may not stand in an
address is escaped.
-/
import ApiMount.Text.Blank
import ApiMount.Text.Basic
import ApiMount.Text.Utf8

namespace ApiMount.Http

open Text

/-- Where a request goes. An empty query is the same as none. -/
structure Target where
  path : List Char
  query : List Char
  deriving DecidableEq, Repr

namespace Target

/-- Reads a target. -/
def ofText (text : String) : Target :=
  let (path, query?) := cutAt '?' text.toList
  { path, query := query?.getD [] }

/-- The characters that stand for themselves in an address, besides
letters and digits. -/
def plainMarks : List Char := "_.-~:/%#?=@[]!$&'()*+,;".toList

/-- A byte as it is written in an address. -/
def escapedByte (b : UInt8) : List Char :=
  let c := Char.ofNat b.toNat
  if c.isAlphanum || plainMarks.contains c then [c]
  else '%' :: (hex 2 b.toNat).map Char.toUpper

/-- The text of a target. -/
def text (t : Target) : String :=
  let query := if t.query.isEmpty then [] else '?' :: t.query
  String.ofList ((Utf8.encode (t.path ++ query)).flatMap escapedByte)

end Target

end ApiMount.Http
