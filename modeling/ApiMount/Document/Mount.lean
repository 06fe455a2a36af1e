/-
Mounting: every route of a table moves under one path. The path is put
in front of each key as it stands, so distinct keys stay distinct
(`nodup_keys_mount`), nothing is lost, and mounting twice is mounting
once under both paths (`mount_mount`). The entries are carried over as
they are, slots included.
-/
import ApiMount.Document.Basic

namespace ApiMount

namespace Table

variable {α : Type _}

/-- The table with a path in front of every key. -/
def mount (base : String) (t : Table α) : Table α :=
  t.map fun pair => (base ++ pair.1, pair.2)

@[simp] theorem keys_mount (base : String) (t : Table α) :
    keys (mount base t) = (keys t).map (base ++ ·) := by
  simp [keys, mount]

/-- Keys that differ still differ under one path. -/
theorem nodup_keys_mount {base : String} {t : Table α}
    (h : (keys t).Nodup) : (keys (mount base t)).Nodup := by
  rw [keys_mount]
  refine List.pairwise_map.2 (List.Pairwise.imp ?_ h)
  intro a b hne hab
  exact hne ((String.append_right_inj base).1 hab)

/-- Two mounts in turn are one under both paths. -/
theorem mount_mount (a b : String) (t : Table α) :
    mount a (mount b t) = mount (a ++ b) t := by
  simp [mount, String.append_assoc]

/-- Mounting under the empty path changes nothing. -/
theorem mount_empty (t : Table α) : mount "" t = t := by
  simp [mount]

end Table

namespace Document

/-- Mounts every route of a document. The table is the document's own
afterwards. -/
def mount (base : String) (d : Document) : Document :=
  { d with paths := some (d.routes.mount base) }

end Document

/-- What is said of each key that is moved. -/
def mountMessages (base : String) (keys : List String) : List String :=
  keys.map fun key => "Rewrote path " ++ key ++ " -> " ++ base ++ key

end ApiMount
