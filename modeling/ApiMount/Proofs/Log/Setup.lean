/-
Setting up logging with any texts. A text that names a level sets it, in
whatever case it is spelled, and every other text stands for `INFO`
(`Level.Means`), but for two texts that are reserved for something that
is no level (`IsReserved`). A call with one of these fails after it has
added its handler, so it leaves logging half set up
(`setUp_of_isReserved`).

So a run of calls goes through exactly if none of them names a reserved
text (`completes_iff`, `exists_setUpAll_iff`), and the same decides
whether the service starts (`Lifecycle.exists_run_iff`).
-/
import ApiMount.Lifecycle

namespace ApiMount

namespace Log

variable {text form : String} {level : Level} {r : RootLogger}

-- =============================================================== levels

/-- The level that a text should stand for: the one with its name, the
text in capitals; where it names none, `INFO`. -/
inductive Level.Means (text : String) : Level → Prop where
  | named {level : Level}
      (entry : (Text.upper text, level) ∈ Level.named) :
      Means text level
  | other (unnamed : ∀ pair ∈ Level.named, Text.upper text ≠ pair.1) :
      Means text .info

/-- A text that is reserved for something other than a level. -/
def IsReserved (text : String) : Prop :=
  Text.upper text = "BASIC_FORMAT" ∨ Text.upper text = "_STYLES"

/-- A word is reserved when its upper case is one of the names listed. -/
theorem isReserved_iff :
    IsReserved text ↔ ∃ reserved : Reserved,
      Text.upper text = reserved.name := by
  constructor
  · intro h
    rcases h with h | h
    · exact ⟨.defaultPattern, h⟩
    · exact ⟨.patternStyles, h⟩
  · intro h
    obtain ⟨reserved, h⟩ := h
    cases reserved with
    | defaultPattern => exact Or.inl h
    | patternStyles => exact Or.inr h

/-- The level that is looked up by name is the one meant. -/
theorem means_getD_ofName? (text : String) :
    Level.Means text ((Level.ofName? (Text.upper text)).getD .info) := by
  unfold Level.ofName?
  cases h : Level.named.lookup (Text.upper text) with
  | some level =>
      obtain ⟨before, after, hsplit, -⟩ := List.lookup_eq_some_iff.1 h
      apply Level.Means.named
      rw [hsplit]
      simp
  | none =>
      apply Level.Means.other
      intro pair hpair hname
      have hne := List.lookup_eq_none_iff.1 h pair hpair
      simp [hname] at hne

/-- A word that is not reserved gives the level it means. -/
theorem levelOf_of_not_isReserved (h : ¬ IsReserved text) :
    ∃ level, levelOf text = .ok level ∧ Level.Means text level := by
  refine ⟨_, ?_, means_getD_ofName? text⟩
  have hnone : Reserved.every.find?
      (fun r => r.name == Text.upper text) = none := by
    apply List.find?_eq_none.2
    intro reserved hmem hname
    apply h
    exact isReserved_iff.2 ⟨reserved, (beq_iff_eq.1 hname).symm⟩
  unfold levelOf
  simp only [hnone]

/-- A reserved word gives no level, but what stands under its name. -/
theorem levelOf_of_isReserved (h : IsReserved text) :
    ∃ reserved : Reserved, Text.upper text = reserved.name
      ∧ levelOf text = .error reserved := by
  obtain ⟨reserved, h⟩ := isReserved_iff.1 h
  refine ⟨reserved, h, ?_⟩
  unfold levelOf
  rw [h]
  cases reserved <;> rfl

-- ================================================================ setup

namespace RootLogger

/-- What a setup should do: it is not refused, it adds one handler behind
the others, which writes JSON lines if the form is `json` and plain lines
otherwise, and the level is the one that the text stands for. -/
structure SetsUp (r : RootLogger) (text form : String)
    (after : RootLogger × Option Reserved) : Prop where
  accepted : after.2 = none
  handlers : after.1.handlers
    = r.handlers ++ [if form = "json" then .json else .plain]
  level : Level.Means text after.1.level

/-- Every setup of a run does what it should, from the root logger that
it meets. -/
inductive Completes : RootLogger → List (String × String) → Prop where
  | nil {r : RootLogger} : Completes r []
  | cons {r : RootLogger} {text form : String}
      {calls : List (String × String)}
      (first : r.SetsUp text form (r.setUp text form))
      (rest : Completes (r.setUp text form).1 calls) :
      Completes r ((text, form) :: calls)

/-- A word that is not reserved sets the logger up. -/
theorem setUp_of_not_isReserved (h : ¬ IsReserved text) (form : String)
    (r : RootLogger) : r.SetsUp text form (r.setUp text form) := by
  obtain ⟨level, hlevel, hmeans⟩ := levelOf_of_not_isReserved h
  unfold setUp
  simp only [hlevel]
  exact ⟨rfl, rfl, hmeans⟩

/-- A reserved text is refused when the handler is there already, and the
level stays what it was. -/
theorem setUp_of_isReserved (h : IsReserved text) (form : String)
    (r : RootLogger) :
    ∃ reserved : Reserved, Text.upper text = reserved.name
      ∧ r.setUp text form
        = (⟨r.level, r.handlers ++ [LineForm.ofName form]⟩,
          some reserved) := by
  obtain ⟨reserved, hname, hlevel⟩ := levelOf_of_isReserved h
  refine ⟨reserved, hname, ?_⟩
  unfold setUp
  simp only [hlevel]

/-- The logger is set up exactly by the words that are not reserved. -/
theorem setsUp_iff :
    r.SetsUp text form (r.setUp text form) ↔ ¬ IsReserved text := by
  constructor
  · intro h hreserved
    obtain ⟨reserved, -, hsetup⟩ := setUp_of_isReserved hreserved form r
    have haccepted := h.accepted
    rw [hsetup] at haccepted
    cases haccepted
  · intro h
    exact setUp_of_not_isReserved h form r

/-- A run of setups goes as it should exactly if no text in it is
reserved. -/
theorem completes_iff {calls : List (String × String)} :
    r.Completes calls ↔ ∀ call ∈ calls, ¬ IsReserved call.1 := by
  induction calls generalizing r with
  | nil => exact iff_of_true .nil (List.forall_mem_nil _)
  | cons call calls ih =>
      obtain ⟨text, form⟩ := call
      rw [List.forall_mem_cons]
      constructor
      · intro h
        cases h with
        | cons first rest => exact ⟨setsUp_iff.1 first, ih.1 rest⟩
      · intro h
        exact .cons (setsUp_iff.2 h.1) (ih.2 h.2)

/-- The same decides whether the run ends, and then every call has added
its handler. -/
theorem exists_setUpAll_iff {calls : List (String × String)} :
    (∃ after, r.setUpAll calls = .ok after)
      ↔ ∀ call ∈ calls, ¬ IsReserved call.1 := by
  -- each call leaves a logger that the next one finds
  induction calls generalizing r with
  | nil => exact iff_of_true ⟨r, rfl⟩ (List.forall_mem_nil _)
  | cons call calls ih =>
      obtain ⟨text, form⟩ := call
      rw [List.forall_mem_cons]
      by_cases hreserved : IsReserved text
      · obtain ⟨reserved, -, hsetup⟩ :=
          setUp_of_isReserved hreserved form r
        have herror : r.setUpAll ((text, form) :: calls)
            = .error reserved := by
          rw [setUpAll, hsetup]
        rw [herror]
        apply iff_of_false
        · intro h
          obtain ⟨after, h⟩ := h
          cases h
        · intro h
          exact h.1 hreserved
      · have hsets : r.SetsUp text form (r.setUp text form) :=
          setsUp_iff.2 hreserved
        have hnext : r.setUpAll ((text, form) :: calls)
            = (r.setUp text form).1.setUpAll calls := by
          rw [setUpAll]
          cases hsetup : r.setUp text form with
          | mk after refused =>
              have hnone := hsets.accepted
              rw [hsetup] at hnone
              cases hnone
              rfl
        rw [hnext, ih]
        exact (and_iff_right hreserved).symm

end RootLogger

end Log

-- ============================================================== service

namespace Lifecycle

open Log

/-- The service starts exactly if its log level is no reserved text. -/
theorem exists_run_iff (store : TemplateStore) (s : Settings)
    (r : RootLogger) :
    (∃ after, run store s r = .ok after) ↔ ¬ IsReserved s.logLevel := by
  unfold run
  constructor
  · intro h hreserved
    obtain ⟨after, h⟩ := h
    obtain ⟨reserved, -, hsetup⟩ :=
      RootLogger.setUp_of_isReserved hreserved s.logFormat r
    rw [hsetup] at h
    cases h
  · intro h
    have haccepted :=
      (RootLogger.setUp_of_not_isReserved h s.logFormat r).accepted
    cases hsetup : r.setUp s.logLevel s.logFormat with
    | mk after refused =>
        rw [hsetup] at haccepted
        cases haccepted
        exact ⟨_, rfl⟩

end Lifecycle

namespace Log

/-- Texts are safe to set up logging with, in runs of any length, but for
the reserved ones: a run goes as it should exactly if it has none of
them, and exactly then it ends at all. A call with a reserved text is
refused, with its handler added and the level left alone, and as a log
level such a text keeps the service from starting. -/
theorem setUp_safe_iff (r : RootLogger) :
    (∀ calls : List (String × String),
        (r.Completes calls ↔ ∀ call ∈ calls, ¬ IsReserved call.1)
        ∧ ((∃ after, r.setUpAll calls = .ok after)
          ↔ ∀ call ∈ calls, ¬ IsReserved call.1))
      ∧ (∀ text form, IsReserved text → ∃ reserved,
          r.setUp text form
            = (⟨r.level, r.handlers ++ [LineForm.ofName form]⟩,
              some reserved))
      ∧ ∀ store s, (∃ after, Lifecycle.run store s r = .ok after)
          ↔ ¬ IsReserved s.logLevel := by
  refine ⟨fun calls => ⟨RootLogger.completes_iff,
    RootLogger.exists_setUpAll_iff⟩, ?_, fun store s =>
      Lifecycle.exists_run_iff store s r⟩
  intro text form hreserved
  obtain ⟨reserved, -, hsetup⟩ :=
    RootLogger.setUp_of_isReserved hreserved form r
  exact ⟨reserved, hsetup⟩

/-- The name of the usual pattern, in small letters, is no level and is
refused. -/
theorem not_completes_pattern :
    ¬ RootLogger.bare.Completes [("basic_format", "json")] := by
  intro h
  cases h with
  | cons first rest =>
      have haccepted := first.accepted
      revert haccepted
      decide

end Log

end ApiMount
