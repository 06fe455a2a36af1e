/-
What a draft becomes is one line of JSON that says what the draft holds
(`line_faithful`). Whatever the texts in it are, no control character
stands on the line, so that nothing in a record can end its line or begin
another. Read as JSON, the line gives an object (`Draft.Tells`): the time,
the level, the logger and the message, then those of the shown attributes
that are there and not null, then the exception if one is attached, each
with the very value that the draft has for it.

A draft has a line exactly if there is room for everything that it shows
(`Draft.HasRoom`): no integer is too long, and no more arrays and objects
lie inside each other than can be written where the line is. A reader
with as much room reads the line.

A message may hold halves of surrogate pairs, since a number among its
arguments may stand for one. The line then holds them too, and is read
with any characters in their places.
-/
import ApiMount.Log.Draft
import ApiMount.Proofs.Json.Overrun
import ApiMount.Proofs.Result
import ApiMount.Proofs.Table

namespace ApiMount.Log

open Text Json

-- ======================================================= specification

/-- The attributes that a line may show, in its order. -/
def lineAttributes : List String :=
  ["route_key", "path_prefix", "error_code", "category", "severity",
    "path", "parameter_name"]

/-- Whether the draft has an attribute with the value, and the value is
not null. -/
def Draft.Shows (d : Draft) (name : String) (v : Json) : Prop :=
  d.attributes.get? name = some v ∧ v ≠ .null

/-- Whether an exception is attached: one that was raised, or a value in
its place that counts as something. -/
def Draft.HasException (d : Draft) : Prop :=
  d.raised.isSome ∨ ∃ v, d.claimed = some v ∧ v.isNothing = false

/-- What the object on a draft's line has to be. -/
structure Draft.Tells (d : Draft) (time message : String)
    (exception : Option String) (object : Table Json) : Prop where
  keys : ∃ shown last, object.keys
      = ["timestamp", "level", "logger", "message"] ++ shown ++ last
    ∧ shown.Sublist lineAttributes
    ∧ (∀ name ∈ lineAttributes, name ∈ shown ↔ ∃ v, d.Shows name v)
    ∧ (d.HasException ∧ last = ["exception"]
      ∨ ¬ d.HasException ∧ last = [])
  nodup : object.keys.Nodup
  timestamp : object.get? "timestamp" = some (.str time)
  level : object.get? "level" = d.level
  logger : object.get? "logger" = d.logger
  message : object.get? "message" = some (.str message)
  attributes : ∀ name ∈ lineAttributes, ∀ v,
    object.get? name = some v ↔ d.Shows name v
  exception : object.get? "exception" = exception.map .str

/-- What has to hold of the line of a draft: that no control character
stands on it, and that it is read as an object that tells what the draft
holds, by whoever has room for so many levels. -/
structure Draft.IsToldBy (d : Draft) (time : String) (text : LooseText)
    (exception : Option String) (room : Nat) (line : LooseText) :
    Prop where
  clear : ∀ x ∈ line, 0x20 ≤ x.code
  tells : ∀ halves, AreUnescaped halves → ∃ object,
    d.Tells time (filled halves text) exception object
      ∧ (Json.obj object).IsText (line.map (LooseChar.filled halves))
      ∧ ∀ levels, room ≤ levels →
        Inline.readWithin levels (line.map (LooseChar.filled halves))
          = .ok (.ofJson (.obj object))

/-- Whether there is room for everything that the line of a draft shows.
The line itself is an object, and what it shows lies inside. -/
structure Draft.HasRoom (d : Draft) (room : Nat) : Prop where
  line : 0 < room
  level : ∀ v ∈ d.level, v.Within (room - 1)
  logger : ∀ v ∈ d.logger, v.Within (room - 1)
  attributes : ∀ name ∈ lineAttributes, ∀ v, d.Shows name v →
    v.Within (room - 1)

/-- Whether all numbers that the line of a draft may show are whole. -/
structure Draft.IsWhole (d : Draft) : Prop where
  level : ∀ v ∈ d.level, v.Throughout Json.IsWhole
  logger : ∀ v ∈ d.logger, v.Throughout Json.IsWhole
  attributes : ∀ name ∈ lineAttributes, ∀ v ∈ d.attributes.get? name,
    v.Throughout Json.IsWhole

-- ============================================================== members

section

variable {attributes : Table Json} {names : List String} {name : String}
  {v : Json}

theorem shownMember_of_ne_null (h : attributes.get? name = some v)
    (hv : v ≠ .null) : shownMember attributes name = some (name, v) := by
  unfold shownMember
  rw [h]
  cases v with
  | null => exact absurd rfl hv
  | _ => rfl

/-- What is shown is an attribute that is set, under its own name. -/
theorem eq_of_shownMember {member : String × Json}
    (h : shownMember attributes name = some member) :
    member.1 = name ∧ attributes.get? name = some member.2
      ∧ member.2 ≠ .null := by
  unfold shownMember at h
  split at h
  · cases h
  · cases h
  · next v hv hget =>
      cases h
      exact ⟨rfl, hget, hv⟩

/-- The members that are shown keep the order of the names. -/
theorem keys_shown_sublist :
    (Table.keys (names.filterMap (shownMember attributes))).Sublist
      names := by
  induction names with
  | nil => exact List.Sublist.slnil
  | cons name names ih =>
      rw [List.filterMap_cons]
      cases hmember : shownMember attributes name with
      | none => exact ih.cons name
      | some member =>
          dsimp only
          rw [Table.keys_cons, (eq_of_shownMember hmember).1]
          exact ih.cons_cons name

/-- Of the named attributes those that are set are shown. -/
theorem mem_shown_iff :
    (name, v) ∈ names.filterMap (shownMember attributes)
      ↔ name ∈ names ∧ attributes.get? name = some v ∧ v ≠ .null := by
  rw [List.mem_filterMap]
  constructor
  · intro h
    obtain ⟨other, hmem, hmember⟩ := h
    obtain ⟨hname, hget, hv⟩ := eq_of_shownMember hmember
    dsimp only at hname hget hv
    subst hname
    exact ⟨hmem, hget, hv⟩
  · intro h
    obtain ⟨hmem, hget, hv⟩ := h
    exact ⟨name, hmem, shownMember_of_ne_null hget hv⟩

end

/-- The members that every line has. -/
def commonMembers (time : String) (level logger : Json)
    (message : String) : Table Json :=
  [("timestamp", .str time), ("level", level), ("logger", logger),
    ("message", .str message)]

/-- The members for what is shown of the attributes. -/
def shownMembers (attributes : Table Json) : Table Json :=
  shownAttributes.filterMap (shownMember attributes)

/-- The member for an exception. -/
def exceptionMembers (exception : Option String) : Table Json :=
  exception.toList.map fun text => ("exception", .str text)

/-- The object on a line. -/
def lineObject (time : String) (level logger : Json) (message : String)
    (attributes : Table Json) (exception : Option String) : Table Json :=
  commonMembers time level logger message ++ shownMembers attributes
    ++ exceptionMembers exception

section

variable {time message : String} {level logger : Json}
  {attributes : Table Json} {exception : Option String}

theorem nodup_shownMembers :
    (Table.keys (shownMembers attributes)).Nodup :=
  keys_shown_sublist.nodup (by decide)

/-- No key of a line is repeated: no attribute that is shown takes a name
of the line's own. -/
theorem nodup_lineObject :
    (Table.keys
      (lineObject time level logger message attributes
        exception)).Nodup := by
  have all : (["timestamp", "level", "logger", "message"]
      ++ shownAttributes ++ ["exception"]).Nodup := by
    decide
  have last : (Table.keys (exceptionMembers exception)).Sublist
      ["exception"] := by
    cases exception with
    | none => exact List.nil_sublist _
    | some text => exact List.Sublist.refl _
  unfold lineObject
  rw [Table.keys_append, Table.keys_append]
  exact (((List.Sublist.refl _).append keys_shown_sublist).append
    last).nodup all

/-- What is found behind the members that every line has. -/
theorem get?_lineObject {name : String}
    (hname : name ∉ ["timestamp", "level", "logger", "message"]) :
    Table.get?
        (lineObject time level logger message attributes exception) name
      = (Table.get? (shownMembers attributes) name).or
        (Table.get? (exceptionMembers exception) name) := by
  have hcommon :
      Table.get? (commonMembers time level logger message) name = none :=
    Table.get?_eq_none_iff.2 hname
  unfold lineObject
  rw [Table.get?_append, Table.get?_append, hcommon, Option.none_or]

/-- An attribute stands in the line exactly when it is set. -/
theorem get?_lineObject_attribute {name : String}
    (hname : name ∈ shownAttributes) (v : Json) :
    Table.get?
        (lineObject time level logger message attributes exception) name
          = some v
      ↔ attributes.get? name = some v ∧ v ≠ .null := by
  have others : ∀ name ∈ shownAttributes, name ∉ ["timestamp", "level",
      "logger", "message"] ∧ name ≠ "exception" := by
    decide
  obtain ⟨hcommon, hexception⟩ := others name hname
  have hlast : Table.get? (exceptionMembers exception) name = none := by
    cases exception with
    | none => rfl
    | some text =>
        exact Table.get?_eq_none_iff.2 (List.not_mem_cons_of_ne_of_not_mem
          hexception List.not_mem_nil)
  rw [get?_lineObject hcommon, hlast, Option.or_none,
    Table.get?_eq_some_iff nodup_shownMembers]
  exact mem_shown_iff.trans (and_iff_right hname)

/-- The exception stands in the line when there is one. -/
theorem get?_lineObject_exception :
    Table.get?
        (lineObject time level logger message attributes exception)
        "exception"
      = exception.map .str := by
  have hshown : Table.get? (shownMembers attributes) "exception"
      = none := by
    apply Table.get?_eq_none_iff.2
    intro h
    exact absurd (keys_shown_sublist.subset h) (by decide)
  rw [get?_lineObject (by decide), hshown, Option.none_or]
  cases exception <;> rfl

/-- What holds of all texts holds of all that the object shows, if it
holds of the level, the logger and the shown attributes. -/
theorem forall_mem_lineObject_iff {p : Json → Prop}
    (texts : ∀ s, p (.str s)) :
    (∀ member ∈ lineObject time level logger message attributes exception,
        p member.2)
      ↔ p level ∧ p logger ∧ ∀ name ∈ shownAttributes, ∀ v,
        attributes.get? name = some v ∧ v ≠ .null → p v := by
  -- the line's own members are texts but for level and logger
  have hexception : ∀ member ∈ exceptionMembers exception,
      p member.2 := by
    intro member hmember
    obtain ⟨text, -, hmember⟩ := List.mem_map.1 hmember
    subst hmember
    exact texts text
  have hcommon : (∀ member ∈ commonMembers time level logger message,
      p member.2) ↔ p level ∧ p logger := by
    simp [commonMembers, texts]
  have hshown : (∀ member ∈ shownMembers attributes, p member.2)
      ↔ ∀ name ∈ shownAttributes, ∀ v,
        attributes.get? name = some v ∧ v ≠ .null → p v := by
    constructor
    · intro h name hname v hv
      exact h (name, v) (mem_shown_iff.2 ⟨hname, hv⟩)
    · intro h member hmember
      obtain ⟨hname, hv⟩ := mem_shown_iff.1 hmember
      exact h member.1 hname member.2 hv
  unfold lineObject
  rw [List.forall_mem_append, List.forall_mem_append, hcommon, hshown,
    and_iff_left hexception, and_assoc]

end

-- =============================================================== drafts

namespace Draft

variable {d : Draft} {level logger : Json} {text : LooseText}
  {exception : Option String}

/-- An exception is shown if and only if one is attached. -/
theorem isSome_exception_iff (h : d.exception = .ok exception) :
    exception.isSome = true ↔ d.HasException := by
  unfold Draft.exception at h
  unfold HasException
  cases hraised : d.raised with
  | some text =>
      rw [hraised] at h
      cases h
      simp
  | none =>
      rw [hraised] at h
      cases hclaimed : d.claimed with
      | none =>
          rw [hclaimed] at h
          cases h
      | some v =>
          rw [hclaimed] at h
          -- a claim that counts as nothing is none
          cases hv : v.isNothing with
          | true =>
              simp only [part, bind, Except.bind, hv, if_true] at h
              cases h
              simp [hv]
          | false =>
              simp only [part, bind, Except.bind, hv] at h
              cases hshown : claimedException v with
              | ok shown =>
                  rw [hshown] at h
                  cases h
                  simp [hv]
              | error f =>
                  rw [hshown] at h
                  cases h

/-- The object on a draft's line, with the halves in its message. -/
def looseObject (time : String) (level logger : Json) (text : LooseText)
    (d : Draft) (exception : Option String) : Loose :=
  .obj ((loosen "timestamp", .str (loosen time))
    :: (loosen "level", .ofJson level)
    :: (loosen "logger", .ofJson logger)
    :: (loosen "message", .str text)
    :: Loose.ofMembers (shownMembers d.attributes
      ++ exceptionMembers exception))

theorem filled_looseObject (halves : Fin 0x800 → Char) (time : String) :
    (looseObject time level logger text d exception).filled halves
      = .obj (lineObject time level logger (filled halves text)
        d.attributes exception) := by
  unfold looseObject
  simp only [Loose.filled, Loose.filledMembers, filled_loosen,
    Loose.filled_ofJson, Loose.filledMembers_ofMembers]
  rfl

/-- The message is put into the object as it is, with its halves. -/
theorem object_eq {room : Nat} (hlevel : d.level = some level)
    (hlogger : d.logger = some logger) (htext : d.text room = .ok text)
    (hexception : d.exception = .ok exception) (time : String) :
    d.object room time
      = .ok (looseObject time level logger text d exception) := by
  have hne : loosen "timestamp" ≠ loosen "message"
      ∧ loosen "level" ≠ loosen "message"
      ∧ loosen "logger" ≠ loosen "message" := by
    decide
  unfold object
  rw [hlevel, hlogger, htext, hexception]
  simp only [part, bind, Except.bind, lineMembers, List.cons_append,
    List.nil_append, Loose.ofMembers, Loose.put, hne.1, hne.2.1, hne.2.2,
    if_false, if_true]
  rfl

/-- The line is the object, in spaced form and as far as there is
room. -/
theorem line_eq {room : Room} (hlevel : d.level = some level)
    (hlogger : d.logger = some logger)
    (htext : d.text room.spelled = .ok text)
    (hexception : d.exception = .ok exception) (time : String) :
    d.line room time
      = ((looseObject time level logger text d exception).writeWithin
        spacedForm room.written).mapError .overrun := by
  unfold line
  rw [object_eq hlevel hlogger htext hexception]
  rfl

/-- The object is within the room that the draft needs. -/
theorem within_lineObject_iff (hlevel : d.level = some level)
    (hlogger : d.logger = some logger) (time message : String)
    (room : Nat) :
    (Json.obj (lineObject time level logger message d.attributes
        exception)).Within room
      ↔ d.HasRoom room := by
  -- the line itself takes one level of the room
  cases room with
  | zero =>
      exact iff_of_false not_within_obj fun h => Nat.lt_irrefl 0 h.line
  | succ room =>
      have texts (s : String) : (Json.str s).Within room :=
        within_of_isShort _ room rfl trivial
      rw [within_obj_iff, forall_mem_lineObject_iff texts]
      constructor
      · intro h
        obtain ⟨hl, hn, hshown⟩ := h
        refine ⟨Nat.succ_pos room, ?_, ?_, hshown⟩
        · intro v hv
          cases hlevel.symm.trans hv
          exact hl
        · intro v hv
          cases hlogger.symm.trans hv
          exact hn
      · intro h
        exact ⟨h.level level hlevel, h.logger logger hlogger, h.attributes⟩

/-- The object says what the draft holds. -/
theorem tells_lineObject (hlevel : d.level = some level)
    (hlogger : d.logger = some logger)
    (hexception : d.exception = .ok exception) (time message : String) :
    d.Tells time message exception
      (lineObject time level logger message d.attributes exception) := by
  have hattached := isSome_exception_iff hexception
  -- the exception comes last, where there is one
  have hlast : d.HasException
        ∧ Table.keys (exceptionMembers exception) = ["exception"]
      ∨ ¬ d.HasException
        ∧ Table.keys (exceptionMembers exception) = [] := by
    rw [← hattached]
    cases exception with
    | none => exact .inr ⟨Bool.false_ne_true, rfl⟩
    | some shown => exact .inl ⟨rfl, rfl⟩
  refine
    { keys := ⟨Table.keys (shownMembers d.attributes), _, ?_,
        keys_shown_sublist, ?_, hlast⟩
      nodup := nodup_lineObject
      timestamp := rfl
      level := hlevel.symm
      logger := hlogger.symm
      message := rfl
      attributes := fun name hname v => get?_lineObject_attribute hname v
      exception := get?_lineObject_exception }
  · unfold lineObject
    rw [Table.keys_append, Table.keys_append]
    rfl
  · intro name hname
    rw [Table.mem_keys_iff]
    constructor
    · intro h
      obtain ⟨v, hv⟩ := h
      exact ⟨v, (mem_shown_iff.1 hv).2⟩
    · intro h
      obtain ⟨v, hv⟩ := h
      exact ⟨v, mem_shown_iff.2 ⟨hname, hv⟩⟩

/-- What the object shows is whole where the draft is. -/
theorem throughout_looseObject (hlevel : d.level = some level)
    (hlogger : d.logger = some logger) (hwhole : d.IsWhole)
    (time : String) (text : LooseText) (exception : Option String)
    (halves : Fin 0x800 → Char) :
    ((looseObject time level logger text d exception).filled
      halves).Throughout Json.IsWhole := by
  have texts (s : String) : (Json.str s).Throughout Json.IsWhole :=
    trivial
  rw [filled_looseObject, throughout_obj_iff,
    forall_mem_lineObject_iff texts]
  refine ⟨trivial, hwhole.level level hlevel,
    hwhole.logger logger hlogger, ?_⟩
  intro name hname v hv
  exact hwhole.attributes name hname v hv.1

-- ============================================================== reading

/-- What is written of the object tells what the draft holds. -/
theorem isToldBy_write {room : Nat} (hlevel : d.level = some level)
    (hlogger : d.logger = some logger)
    (hexception : d.exception = .ok exception) (hwhole : d.IsWhole)
    (hroom : d.HasRoom room) (time : String) :
    d.IsToldBy time text exception room
      ((looseObject time level logger text d exception).write
        spacedForm) := by
  have hnumbers := throughout_looseObject hlevel hlogger hwhole time text
    exception
  refine ⟨Loose.code_of_mem_write isClear_spacedForm (hnumbers _), ?_⟩
  intro halves hhalves
  -- filling the halves of the line is writing the filled object
  have hshown : (Json.obj (lineObject time level logger
      (filled halves text) d.attributes exception)).SpelledAs
        (((looseObject time level logger text d exception).write
          spacedForm).map (LooseChar.filled halves)) := by
    rw [Loose.map_write hhalves, ← filled_looseObject]
    exact spelledAs_write isPlain_spacedForm _ (hnumbers halves)
  refine ⟨_, tells_lineObject hlevel hlogger hexception time _,
    amid_self hshown, ?_⟩
  intro levels hlevels
  have hwithin : (Json.obj (lineObject time level logger
      (filled halves text) d.attributes exception)).Within room :=
    (within_lineObject_iff hlevel hlogger time _ room).2 hroom
  exact Inline.readWithin_of_isText (amid_self hshown)
    (hwithin.mono hlevels)

end Draft

/-- Every line of a draft says what the draft holds. There is one exactly
if there is room for what it shows, and where there is none, something in
the draft cannot be written. -/
theorem line_faithful {d : Draft} {level logger : Json}
    {text : LooseText} {exception : Option String} {room : Room}
    (hlevel : d.level = some level) (hlogger : d.logger = some logger)
    (htext : d.text room.spelled = .ok text)
    (hexception : d.exception = .ok exception) (hwhole : d.IsWhole)
    (time : String) :
    (∀ line, d.line room time = .ok line →
        d.IsToldBy time text exception room.written line)
      ∧ ((∃ line, d.line room time = .ok line) ↔ d.HasRoom room.written)
      ∧ ∀ f, d.line room time = .error f → ∃ o, f = .overrun o := by
  have hline := Draft.line_eq hlevel hlogger htext hexception time
  have hwithin : ((Draft.looseObject time level logger text d
      exception).filled LooseChar.replaced).Within room.written
        ↔ d.HasRoom room.written := by
    rw [Draft.filled_looseObject]
    exact Draft.within_lineObject_iff hlevel hlogger time _ _
  -- with room the object is written out; without it the writing is given
  -- up, and that is the only failure there is
  by_cases hroom : d.HasRoom room.written
  · rw [Loose.writeWithin_eq_ok spacedForm (hwithin.2 hroom)] at hline
    refine ⟨?_, iff_of_true ⟨_, hline⟩ hroom, ?_⟩
    · intro line hok
      cases hline.symm.trans hok
      exact Draft.isToldBy_write hlevel hlogger hexception hwhole hroom
        time
    · intro f herror
      cases hline.symm.trans herror
  · obtain ⟨o, hoverrun⟩ := Loose.exists_writeWithin_eq_error spacedForm
      (mt hwithin.1 hroom)
    rw [hoverrun] at hline
    refine ⟨?_, iff_of_false ?_ hroom, ?_⟩
    · intro line hok
      cases hline.symm.trans hok
    · intro hok
      obtain ⟨line, hok⟩ := hok
      cases hline.symm.trans hok
    · intro f herror
      cases hline.symm.trans herror
      exact ⟨o, rfl⟩

/-- A draft with line breaks and quotes at every place, with attributes
that are nothing but not null, and with half of a pair in its message. -/
def hostile : Draft :=
  { level := some (.str "ERROR")
    logger := some (.str "app\n\"\\")
    message := some (.str "two\nlines, %r, %c")
    arguments := some (some (.ofList [.str "a\"\n", .int 0xD800]))
    attributes := [("path", .str ""), ("severity", .int 0),
      ("category", .bool false), ("error_code", .null),
      ("route_key", .obj [("\n", .arr [.str "\x7f\x00\"", .null])]),
      ("password", .str "secret")]
    raised := some "ValueError: \x1b\r\n\x7b\"level\": 1\x7d"
    claimed := some .null
    writer := none }

/-- The hostile draft has a line, and that says what the draft holds. -/
theorem line_faithful_hostile :
    hostile.HasRoom Room.usual.written
      ∧ ∃ line, hostile.line .usual "2024-05-01T00:00:00+00:00" = .ok line
        ∧ (∀ x ∈ line, 0x20 ≤ x.code)
        ∧ ∃ object, hostile.Tells "2024-05-01T00:00:00+00:00"
            "two\nlines, 'a\"\\n', \uFFFD"
            (some "ValueError: \x1b\r\n\x7b\"level\": 1\x7d") object
          ∧ (Json.obj object).IsText
            (line.map (LooseChar.filled LooseChar.replaced)) := by
  have htext : hostile.text Room.usual.spelled = .ok
      (loosen "two\nlines, 'a\"\\n', " ++ [.half 0]) := by
    rfl
  have hwhole : hostile.IsWhole := by
    constructor
    · intro v hv
      cases hv
      exact trivial
    · intro v hv
      cases hv
      exact trivial
    · decide
  have hshown : ∀ name ∈ lineAttributes,
      ∀ v ∈ hostile.attributes.get? name,
        v.nesting ≤ 989 ∧ v.Throughout IsShort := by
    decide
  have hroom : hostile.HasRoom Room.usual.written := by
    refine ⟨by decide, ?_, ?_, ?_⟩
    · intro v hv
      cases hv
      exact within_of_isShort _ _ rfl trivial
    · intro v hv
      cases hv
      exact within_of_isShort _ _ rfl trivial
    · intro name hname v hv
      obtain ⟨hnesting, hshort⟩ := hshown name hname v hv.1
      exact ⟨hnesting, hshort⟩
  obtain ⟨htold, hwritten, -⟩ :=
    line_faithful (by rfl) (by rfl) htext (by rfl) hwhole
      "2024-05-01T00:00:00+00:00"
  obtain ⟨line, hline⟩ := hwritten.2 hroom
  obtain ⟨hclear, hread⟩ := htold line hline
  obtain ⟨object, htells, hshown, -⟩ := hread _ areUnescaped_replaced
  exact ⟨hroom, line, hline, hclear, object, htells, hshown⟩

end ApiMount.Log
