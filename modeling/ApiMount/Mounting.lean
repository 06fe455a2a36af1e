/-
Mounting as it is done: entry by entry, into a table of its own. Each
turn puts one entry under its new key and logs that it has; the table
that is gone through is left alone.

A table keeps only what was put last under a key, so an entry would be
lost if two keys became one.
-/
import ApiMount.Render

namespace ApiMount

/-- A table on the way under a path: the table that is gone through, what
has been put under new keys so far, and what was logged of it. -/
structure Mounting (α : Type _) where
  source : Table α
  moved : Table α
  log : List Log.Record

namespace Mounting

variable {α : Type _}

/-- What is logged of an entry that is put under a new key. -/
def record (old new : String) : Log.Record :=
  { level := .debug
    logger := Render.mountLogger
    message := "Rewrote path " ++ old ++ " -> " ++ new
    attributes := []
    exception := none }

/-- Nothing has been put anywhere yet. -/
def start (t : Table α) : Mounting α := ⟨t, [], []⟩

/-- Puts one entry under its new key. -/
def turn (base : String) (m : Mounting α) (member : String × α) :
    Mounting α :=
  let key := base ++ member.1
  { m with
    moved := m.moved.put key member.2
    log := m.log ++ [record member.1 key] }

/-- Puts every entry of a table under its new key. -/
def run (base : String) (t : Table α) : Mounting α :=
  t.foldl (turn base) (start t)

end Mounting

end ApiMount
