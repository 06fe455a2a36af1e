/-
What a session has done does not show where it starts over
(`run_isolated`). Rendering works on a document of its own, so it answers
at any point of a session what it answers at once, and the session goes on
as if it had not been asked. Loading gives the working document up, so
the steps after it are answered as in a session of their own.

All that a session keeps of its past is the working document
(`runFrom_append`). So the first is said of that document: rendering
neither looks at it nor changes it. And the second: after loading it is
the one that a new session starts with, whatever it was before.
-/
import ApiMount.Proofs.Session.Failure

namespace ApiMount.Session

variable {store : TemplateStore} {fresh : Document}
  {w : WorkingDocument}

-- ================================================================ steps

/-- Rendering answers what it answers to any other working document, and
leaves its own as it is. -/
theorem step_render (store : TemplateStore) (w w' : WorkingDocument)
    (base : String) (names : List Json) :
    step store w (.render base names)
      = ((step store w' (.render base names)).1, w) := by
  unfold step
  dsimp only
  cases Render.render .standard store base names <;> rfl

-- ================================================================= runs

/-- The document after a session in two parts. -/
theorem after_append (store : TemplateStore) (w : WorkingDocument)
    (first rest : List Step) :
    (runFrom store w (first ++ rest)).2
      = (runFrom store (runFrom store w first).2 rest).2 := by
  induction first generalizing w with
  | nil => rfl
  | cons s first ih => exact ih (step store w s).2

/-- A rendering anywhere in a session adds its answer, and nothing
else. -/
theorem runFrom_render (store : TemplateStore) (w w' : WorkingDocument)
    (before rest : List Step) (base : String) (names : List Json) :
    (runFrom store w (before ++ .render base names :: rest)).1
      = (runFrom store w before).1
        ++ (runFrom store w' [.render base names]).1
        ++ (runFrom store (runFrom store w before).2 rest).1 := by
  generalize hmid : (runFrom store w before).2 = mid
  have hthen : (runFrom store mid (.render base names :: rest)).1
      = (runFrom store w' [.render base names]).1
        ++ (runFrom store mid rest).1 := by
    show (step store mid (.render base names)).1
      :: (runFrom store (step store mid (.render base names)).2 rest).1
        = _
    rw [step_render store mid w']
    rfl
  rw [runFrom_append, hmid, hthen, List.append_assoc]

/-- After loading, a session goes on as a new one. -/
theorem runFrom_load (hload : store.load = .ok fresh)
    (w : WorkingDocument) (before rest : List Step) :
    (runFrom store w (before ++ .load :: rest)).1
      = (runFrom store w (before ++ [.load])).1
        ++ (runFrom store (.whole fresh) rest).1 := by
  rw [List.append_cons, runFrom_append, after_append]
  show _ ++ (runFrom store (step store _ .load).2 rest).1 = _
  rw [after_load hload]

/-- Whatever a session does before and after. A rendering in between
answers what it answers as the only step of a session, and leaves all
other answers, and any working document, as they are without it. And after
loading, the answers are those of a session that has only the steps from
there on. -/
theorem run_isolated (store : TemplateStore) (before rest : List Step) :
    (∀ base names,
      run store (before ++ .render base names :: rest) = (do
        let alone ← run store [.render base names]
        let answers ← run store (before ++ rest)
        return answers.take before.length ++ alone
          ++ answers.drop before.length)
      ∧ ∀ w, (runFrom store w (before ++ [.render base names])).2
        = (runFrom store w before).2)
    ∧ run store (before ++ .load :: rest) = do
        let first ← run store (before ++ [.load])
        let later ← run store rest
        return first ++ later := by
  refine ⟨fun base names => ⟨?_, fun w => ?_⟩, ?_⟩
  · cases hload : store.load with
    | error f =>
        unfold run
        rw [hload]
        rfl
    | ok fresh =>
        -- what a rendering answers depends on the store alone, so it can
        -- be taken out of any run and be put back
        have hlength := length_runFrom store (.whole fresh) before
        simp only [run_eq_ok hload]
        show _ = Except.ok (_ ++ _ ++ _)
        rw [runFrom_render store _ (.whole fresh),
          runFrom_append store _ before rest,
          List.take_left' hlength, List.drop_left' hlength]
  · rw [after_append]
    show (step store _ (.render base names)).2 = _
    rw [step_render store _ w]
  · cases hload : store.load with
    | error f =>
        unfold run
        rw [hload]
        rfl
    | ok fresh =>
        simp only [run_eq_ok hload]
        exact congrArg Except.ok (runFrom_load hload _ before rest)

end ApiMount.Session
