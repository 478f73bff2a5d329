import ApiStubs.Backend.Session
import ApiStubs.Data.Dialogue

/-!
# What a session depends on

All that a session carries from one step to the next are the templates of the last loading that went
well.  `Serves` says so of one state; it holds at the start, every step keeps it, and so every run
does.  What a session answers is then what a fresh session of the same backend answers after that
one loading.
-/

namespace ApiStubs.Session

/-- The answers of a fresh session of a backend. -/
def answers (backend : Backend) (steps : List Step) : List Answer := ((start backend).run steps).2

/-- The store of the last loading that went well in a history of steps and answers, or else the one
given. -/
def latest : Option Asset.Store → List (Step × Answer) → Option Asset.Store
  | found, [] => found
  | _, (.load store, .ready) :: rest => latest (some store) rest
  | found, _ :: rest => latest found rest

/-- The session of a backend that has loaded its templates from a store, or from none. -/
def Serves (backend : Backend) (session : Session) : Option Asset.Store → Prop
  | none => session = start backend
  | some store => (start backend).load store = .ok session

/-! ## One step -/

/-- Loading does not look at what was loaded before. -/
theorem load_eq_of_backend {s t : Session} (h : s.backend = t.backend) (store : Asset.Store) :
    s.load store = t.load store := by
  cases s with
  | mk backend engine =>
      cases t with
      | mk backend' engine' =>
          have hbackend : backend = backend' := h
          subst hbackend
          rfl

theorem backend_of_load {s next : Session} {store : Asset.Store} (h : s.load store = .ok next) :
    next.backend = s.backend := by
  unfold load at h
  split at h
  · cases h
  · cases h
    rfl

theorem Serves.backend_eq {backend : Backend} {s : Session} {found : Option Asset.Store}
    (h : Serves backend s found) : s.backend = backend := by
  cases found with
  | none => rw [show s = start backend from h]; rfl
  | some store => exact backend_of_load (show (start backend).load store = .ok s from h)

theorem step_load_ok {s next : Session} {store : Asset.Store} (h : s.load store = .ok next) :
    s.step (.load store) = (next, .ready) := by
  simp only [Session.step, h]

theorem step_load_error {s : Session} {store : Asset.Store} {e : Failure}
    (h : s.load store = .error e) : s.step (.load store) = (s, .failed e) := by
  simp only [Session.step, h]

/-- A request for files changes nothing, and its answer is never that of a loading. -/
theorem step_generate (s : Session) (request : Request) :
    (s.step (.generate request)).1 = s ∧ (s.step (.generate request)).2 ≠ .ready := by
  cases h : s.generate request <;> simp [Session.step, h]

/-- A step that generates, or a loading that fails, leaves the session as it was. -/
theorem step_eq_self {s : Session} {step : Step} (h : (s.step step).2 ≠ .ready) :
    (s.step step).1 = s := by
  cases step with
  | load store =>
      cases hload : s.load store with
      | error e => rw [step_load_error hload]
      | ok next => exact absurd (by rw [step_load_ok hload]) h
  | generate request => exact (step_generate s request).1

theorem latest_of_ne_ready {found : Option Asset.Store} {step : Step} {answer : Answer}
    (h : answer ≠ .ready) : latest found [(step, answer)] = found := by
  cases step <;> cases answer <;> first | rfl | exact absurd rfl h

/-- One step keeps `Serves`: only a loading that goes well puts another store in place. -/
theorem Serves.step {backend : Backend} {s : Session} {found : Option Asset.Store}
    (h : Serves backend s found) (step : Step) :
    Serves backend (s.step step).1 (latest found [(step, (s.step step).2)]) := by
  by_cases hready : (s.step step).2 = .ready
  · cases step with
    | load store =>
        have hload : (start backend).load store = s.load store :=
          load_eq_of_backend (t := s) h.backend_eq.symm store
        cases hs : s.load store with
        | error e => simp [step_load_error hs] at hready
        | ok next =>
            rw [step_load_ok hs]
            exact hload.trans hs
    | generate request => exact absurd hready (step_generate s request).2
  · rw [step_eq_self hready, latest_of_ne_ready hready]
    exact h

/-! ## Whole runs -/

/-- The last store is found by going through the history entry by entry. -/
theorem latest_eq_foldl (found : Option Asset.Store) (history : List (Step × Answer)) :
    latest found history = history.foldl (fun found entry => latest found [entry]) found := by
  induction history generalizing found with
  | nil => rfl
  | cons entry rest ih =>
      obtain ⟨step, answer⟩ := entry
      cases step <;> cases answer <;> exact ih _

/-- After any steps, a session has the templates of the last store that its own history shows to
have loaded. -/
theorem serves_run (backend : Backend) (steps : List Step) :
    Serves backend ((start backend).run steps).1
      (latest none (steps.zip (answers backend steps))) := by
  rw [latest_eq_foldl]
  exact dialogue_keeps (fun {_ _ step} (_ : True) h => h.step step) (fun _ _ => trivial) rfl

/-- Without templates there is nothing to generate from, whatever is asked for. -/
theorem step_generate_start (backend : Backend) (request : Request) :
    ((start backend).step (.generate request)).2 = .failed (.notReady backend.name) := rfl

/-- The answers of a fresh session that is loaded once and then asked for files. -/
theorem answers_load_generate {backend : Backend} {store : Asset.Store} {s : Session}
    (h : (start backend).load store = .ok s) (request : Request) :
    answers backend [.load store, .generate request] =
      [.ready, (s.step (.generate request)).2] := by
  simp [answers, run, step_load_ok h]

/-- A request for files is answered as by a fresh session that was loaded once, from the store of
the last loading before it that went well; before any such loading the session says that it is not
ready.  Every other step, a loading that fails or a request for files, can be left out of a run
without any other answer changing. -/
theorem answers_as_after_last_load (backend : Backend) (before after : List Step) :
    (∀ request : Request,
      match latest none (before.zip (answers backend before)) with
      | none =>
        (answers backend (before ++ .generate request :: after))[before.length]? =
          some (.failed (.notReady backend.name))
      | some store =>
        ∃ answer, answers backend [.load store, .generate request] = [.ready, answer] ∧
          (answers backend (before ++ .generate request :: after))[before.length]? = some answer) ∧
    (∀ step : Step,
      (answers backend (before ++ step :: after))[before.length]? ≠ some .ready →
        answers backend (before ++ after) =
          (answers backend (before ++ step :: after)).eraseIdx before.length) := by
  have hserves : Serves backend ((start backend).run before).1
      (latest none (before.zip (answers backend before))) := serves_run backend before
  constructor
  · intro request
    have hanswer : (answers backend (before ++ .generate request :: after))[before.length]? =
        some (((start backend).run before).1.step (.generate request)).2 := dialogue_getElem? ..
    cases hfound : latest none (before.zip (answers backend before)) with
    | none =>
        rw [hfound] at hserves
        rw [hanswer, show ((start backend).run before).1 = start backend from hserves]
        exact congrArg some (step_generate_start backend request)
    | some store =>
        rw [hfound] at hserves
        exact ⟨_, answers_load_generate hserves request, hanswer⟩
  · intro step hnot
    refine (dialogue_eraseIdx (step_eq_self fun hready => hnot ?_) after).symm
    exact (dialogue_getElem? _ before after step).trans (congrArg some hready)

/-- A folder without files cannot be loaded from, and a request for files after that attempt is
answered as before it, although it has two services; the attempt can be left out.  It makes no
difference either to what a folder with a template, loaded before it, gives. -/
theorem answers_after_failed_load :
    let attempt : Step := .load (.folder (.ofAnswers []))
    let crowded : Request :=
      { Request.empty with services := [⟨"A", [], SortedMap.empty⟩, ⟨"B", [], SortedMap.empty⟩] }
    let loading : Step := .load (.folder (.ofAnswers [("php/client.php.j2", .ok [120])]))
    ((answers .php ([attempt] ++ [.generate crowded]))[1]? = some (.failed (.notReady "php")) ∧
      (answers .php ([] ++ attempt :: [.generate crowded]))[0]? ≠ some .ready ∧
      answers .php ([] ++ [.generate crowded]) =
        (answers .php ([] ++ attempt :: [.generate crowded])).eraseIdx 0) ∧
    ∃ answer, answers .php [loading, .generate Request.empty] = [.ready, answer] ∧
      (answers .php ([loading, attempt] ++ [.generate Request.empty]))[2]? = some answer ∧
      answer = .files ⟨SortedMap.empty.insert "data.php" "x"⟩ := by
  intro attempt crowded loading
  have hnot : (answers .php ([] ++ attempt :: [.generate crowded]))[0]? ≠ some .ready := by decide
  refine ⟨⟨(answers_as_after_last_load .php [attempt] []).1 crowded, hnot,
    (answers_as_after_last_load .php [] [.generate crowded]).2 attempt hnot⟩, ?_⟩
  have hloaded : answers .php [loading, attempt] =
      [.ready, .failed (.assetNotFound "php/client.php.j2")] := by decide +kernel
  have hfiles : answers .php [loading, .generate Request.empty] =
      [.ready, .files ⟨SortedMap.empty.insert "data.php" "x"⟩] := by decide +kernel
  have hlast := (answers_as_after_last_load .php [loading, attempt] []).1 Request.empty
  rw [hloaded] at hlast
  obtain ⟨answer, hanswer, hafter⟩ := hlast
  cases hfiles.symm.trans hanswer
  exact ⟨_, hanswer, hafter, rfl⟩

end ApiStubs.Session
