import ApiStubs.Proofs.Template.Independence
import ApiStubs.Proofs.Template.Recognition
import ApiStubs.Template.Engines

/-!
# What engines depend on

Of all that engines have been asked, a template that one of them renders shows the last source that
this engine compiled under the name, and nothing else.  That is so over every template library that
keeps to a few laws, for sources that stand alone: they include, import and extend no other template
and do not ask with `debug` which there are.  Such a library is `Lawful`; the one of this
development is, for sources that do not name `debug` and contexts of plain values.

The argument follows one engine and one name.  `Engine.Serves` says that the engine hands out what
an environment does that holds one source only.  It holds of a new engine, compiling under the name
puts another source in place, and nothing else that engines are asked changes it.
-/

namespace ApiStubs.Template

/-! ## Laws of a library -/

namespace Library

/-- The environments for a language: the one it is opened with, and all that sources are added
to. -/
inductive Reached (library : Library) (language : Language) : library.Environment → Prop where
  | opened : Reached library language (library.opened language)
  | add {environment : library.Environment} (h : Reached library language environment)
      (name source : String) : Reached library language (library.add environment name source).2

/-- The environment for a language to which one source was added, or none. -/
def alone (library : Library) (language : Language) (name : String) :
    Option String → library.Environment
  | none => library.opened language
  | some source => (library.add (library.opened language) name source).2

/-- What engines rely on in a library, some sources of which stand alone. -/
structure Lawful (library : Library) (Standalone : String → Prop) : Prop where
  /-- a source that is refused leaves the environment as it was -/
  add_refused : ∀ {environment name source cause},
    (library.add environment name source).1 = .error cause →
    (library.add environment name source).2 = environment
  /-- whether a source is refused, and why, does not depend on the templates that are there -/
  add_eq : ∀ {language environment}, library.Reached language environment → ∀ name source,
    (library.add environment name source).1 = (library.add (library.opened language) name source).1
  /-- before a source is added there is no template -/
  find_opened : ∀ language name, ∃ cause, library.find (library.opened language) name = .error cause
  /-- a source that is added takes the place of what was under its name -/
  find_added : ∀ {language environment name source}, library.Reached language environment →
    (library.add environment name source).1 = .ok () →
    library.find (library.add environment name source).2 name =
      library.find (library.alone language name (some source)) name
  /-- what is under other names stays -/
  find_other : ∀ {environment name other}, other ≠ name → ∀ source,
    library.find (library.add environment name source).2 other = library.find environment other
  /-- the template of a source that stands alone renders as it does where there is no other -/
  render_alone : ∀ {language environment name source template}, Standalone source →
    library.Reached language environment → library.find environment name = .ok template →
    library.find (library.alone language name (some source)) name = .ok template → ∀ context,
    library.render environment template context =
      library.render (library.alone language name (some source)) template context

end Library

/-- The library with fewer contexts. -/
abbrev Library.over (library : Library) (Admitted : library.Context → Prop) : Library :=
  { library with
    Context := { context : library.Context // Admitted context }
    render := fun environment template context =>
      library.render environment template context.val }

/-- Names whose values neither are the function `debug` nor lead to it. -/
abbrev Names.Plain (names : Names) : Prop := Value.entriesSilent false names = true

/-- The library of this development over contexts of plain values. -/
abbrev plainJinja : Library := jinja.over Names.Plain

/-- A source whose template does not name `debug`. -/
def AsksNothing (source : String) : Prop :=
  ∀ stmts, parse source.toList = .ok stmts → Function.debug.name ∉ readsOfStmts stmts

namespace Environment

variable {environment : Environment} {name other source : String} {stmts : List Stmt}

theorem add_of_parse (h : parse source.toList = .ok stmts) :
    environment.add name source =
      (.ok (), { environment with templates := environment.templates.insert name stmts }) := by
  simp only [add, h]

theorem add_of_refused {cause : SyntaxFault} (h : parse source.toList = .error cause) :
    environment.add name source = (.error cause, environment) := by
  simp only [add, h]

theorem find_insert_self (language : Language) (templates : SortedMap (List Stmt)) (name : String)
    (stmts : List Stmt) :
    find ⟨language, templates.insert name stmts⟩ name = .ok ⟨name, stmts⟩ := by
  simp [find, SortedMap.get?_insert]

theorem find_insert_of_ne (hne : other ≠ name) (stmts : List Stmt) :
    find { environment with templates := environment.templates.insert name stmts } other =
      find environment other := by
  simp [find, SortedMap.get?_insert, hne.symm]

theorem language_add (environment : Environment) (name source : String) :
    (environment.add name source).2.language = environment.language := by
  cases hparse : parse source.toList with
  | error cause => rw [add_of_refused hparse]
  | ok stmts => rw [add_of_parse hparse]

theorem language_of_reached {language : Language} {environment : plainJinja.Environment}
    (h : plainJinja.Reached language environment) :
    Environment.language environment = language := by
  induction h with
  | opened => rfl
  | add _ name source ih => exact (language_add _ name source).trans ih

end Environment

/-- The library of this development is lawful: over contexts of plain values, a source that does not
name `debug` stands alone. -/
theorem lawful_plainJinja : plainJinja.Lawful AsksNothing where
  add_refused {environment name source cause} h := by
    cases hparse : parse source.toList with
    | error fault => exact congrArg Prod.snd (Environment.add_of_refused hparse)
    | ok stmts =>
      rw [show plainJinja.add environment name source = _ from Environment.add_of_parse hparse] at h
      cases h
  add_eq {language environment} _ name source := by
    cases hparse : parse source.toList with
    | error fault => simp only [Environment.add_of_refused hparse]
    | ok stmts => simp only [Environment.add_of_parse hparse]
  find_opened language name := ⟨.unknownTemplate name, rfl⟩
  find_added {language environment name source} _ h := by
    cases hparse : parse source.toList with
    | error fault => simp [Environment.add_of_refused hparse] at h
    | ok stmts =>
      simp only [Library.alone, Environment.add_of_parse hparse, Environment.find_insert_self]
  find_other {environment name other} hne source := by
    cases hparse : parse source.toList with
    | error fault => simp only [Environment.add_of_refused hparse]
    | ok stmts => simp only [Environment.add_of_parse hparse, Environment.find_insert_of_ne hne]
  render_alone {language environment name source template} halone hreached _ hfind context := by
    cases hparse : parse source.toList with
    | error fault =>
      simp only [Library.alone, Environment.add_of_refused hparse] at hfind
      cases hfind
    | ok stmts =>
      simp only [Library.alone, Environment.add_of_parse hparse, Environment.find_insert_self]
        at hfind
      cases hfind
      simp only [Library.alone, Environment.add_of_parse hparse, Environment.render,
        Environment.language_of_reached hreached]
      exact render_held_irrelevant (halone stmts hparse) context.property ..

variable {library : Library} {Standalone : String → Prop}

/-! ## One engine -/

namespace Engine

variable {language : Language} {engine twin : Engine library} {name other source : String}
  {found : Option String}

theorem compile_fst (engine : Engine library) (name source : String) :
    (engine.compile name source).1 =
      outcome name (library.add engine.environment name source).1 := rfl

theorem outcome_eq_ok {result : Except SyntaxFault Unit} {handle : Handle}
    (h : outcome name result = .ok handle) : result = .ok () ∧ handle = ⟨name⟩ := by
  cases result with
  | error cause => cases h
  | ok done => exact ⟨rfl, (Except.ok.inj h).symm⟩

/-- A source that is refused leaves the engine as it was. -/
theorem compile_refused (lawful : library.Lawful Standalone) {cause : Failure}
    (h : (engine.compile name source).1 = .error cause) :
    (engine.compile name source).2 = engine := by
  cases hadd : (library.add engine.environment name source).1 with
  | error fault =>
    have hsame := lawful.add_refused hadd
    cases engine
    exact congrArg _ hsame
  | ok done =>
    rw [compile_fst, hadd] at h
    cases h

/-- Engines of one language refuse the same sources for the same causes. -/
theorem compile_fst_eq (lawful : library.Lawful Standalone)
    (h : library.Reached language engine.environment)
    (h' : library.Reached language twin.environment) (name source : String) :
    (engine.compile name source).1 = (twin.compile name source).1 := by
  rw [compile_fst, compile_fst, lawful.add_eq h, lawful.add_eq h']

/-- An engine of a language hands out under a name what an environment does that was given one
source, which stands alone, or none. -/
structure Serves (Standalone : String → Prop) (language : Language) (engine : Engine library)
    (name : String) (found : Option String) : Prop where
  reached : library.Reached language engine.environment
  accepted : ∀ source ∈ found, (library.add (library.opened language) name source).1 = .ok ()
  standalone : ∀ source ∈ found, Standalone source
  template :
    library.find engine.environment name = library.find (library.alone language name found) name

theorem serves_empty (Standalone : String → Prop) (language : Language) (name : String) :
    (empty language : Engine library).Serves Standalone language name none :=
  ⟨.opened, nofun, nofun, rfl⟩

/-- Compiling under the name puts another source in place. -/
theorem Serves.compile (lawful : library.Lawful Standalone)
    (h : engine.Serves Standalone language name found) (hsource : Standalone source)
    (hok : (library.add engine.environment name source).1 = .ok ()) :
    (engine.compile name source).2.Serves Standalone language name (some source) where
  reached := h.reached.add name source
  accepted := by
    rintro _ ⟨⟩
    exact (lawful.add_eq h.reached name source).symm.trans hok
  standalone := by
    rintro _ ⟨⟩
    exact hsource
  template := lawful.find_added h.reached hok

/-- Compiling under another name changes nothing, whether it goes well or not. -/
theorem Serves.compile_other (lawful : library.Lawful Standalone)
    (h : engine.Serves Standalone language other found) (hne : other ≠ name) (source : String) :
    (engine.compile name source).2.Serves Standalone language other found where
  reached := h.reached.add name source
  accepted := h.accepted
  standalone := h.standalone
  template := (lawful.find_other hne source).trans h.template

/-- A template renders as in an engine that was given its source only. -/
theorem Serves.render_eq (lawful : library.Lawful Standalone)
    (h : engine.Serves Standalone language name found) (context : library.Context) :
    engine.render ⟨name⟩ context =
      (⟨language, library.alone language name found⟩ : Engine library).render ⟨name⟩ context := by
  unfold Engine.render
  dsimp only
  cases hfind : library.find (library.alone language name found) name with
  | error cause => rw [h.template, hfind]
  | ok template =>
    cases found with
    | none =>
      obtain ⟨cause, hcause⟩ := lawful.find_opened language name
      cases hcause.symm.trans hfind
    | some source =>
      rw [h.template, hfind]
      dsimp only
      rw [lawful.render_alone (h.standalone source rfl) h.reached (h.template.trans hfind) hfind]

/-- An engine that was given no source has nothing to render, and says so. -/
theorem render_empty (lawful : library.Lawful Standalone) (language : Language) (name : String)
    (context : library.Context) :
    ∃ cause, (empty language : Engine library).render ⟨name⟩ context =
      .error (.renderFailed name cause) := by
  obtain ⟨cause, hcause⟩ := lawful.find_opened language name
  refine ⟨cause, ?_⟩
  unfold Engine.render empty
  dsimp only
  rw [hcause]

end Engine

/-! ## One step -/

namespace Engines

variable {ι : Type} [DecidableEq ι] {languages : ι → Language} {engines others : Engines library ι}
  {index : ι} {name : String} {found : Option String}

theorem replace_eq_self (engines : Engines library ι) (index : ι) :
    engines.replace index (engines index) = engines := by
  funext other
  unfold replace
  split
  · rename_i hother
    rw [hother]
  · rfl

theorem step_compile (engines : Engines library ι) (index : ι) (name source : String) :
    engines.step (.compile index name source) =
      (engines.replace index ((engines index).compile name source).2,
        .ofCompilation ((engines index).compile name source).1) := rfl

theorem step_compile_self (engines : Engines library ι) (index : ι) (name source : String) :
    (engines.step (.compile index name source)).1 index = ((engines index).compile name source).2 :=
  if_pos rfl

theorem step_compile_of_ne {other : ι} (hne : other ≠ index) (name source : String) :
    (engines.step (.compile index name source)).1 other = engines other := if_neg hne

theorem step_render (engines : Engines library ι) (index : ι) (handle : Handle)
    (context : library.Context) :
    engines.step (.render index handle context) =
      (engines, .ofRendering ((engines index).render handle context)) := rfl

/-- A step leaves everything as it was, unless it is a compilation that goes well. -/
theorem step_cases (lawful : library.Lawful Standalone) (engines : Engines library ι)
    (step : Step library ι) :
    (engines.step step).1 = engines ∧ (∀ handle, (engines.step step).2 ≠ .compiled handle) ∨
    ∃ index name source, step = .compile index name source ∧
      (library.add (engines index).environment name source).1 = .ok () ∧
      (engines.step step).2 = .compiled ⟨name⟩ := by
  cases step with
  | compile index name source =>
    rw [step_compile]
    cases hresult : ((engines index).compile name source).1 with
    | error cause =>
      rw [Engine.compile_refused lawful hresult, replace_eq_self]
      exact .inl ⟨rfl, fun _ => nofun⟩
    | ok handle =>
      obtain ⟨hadd, rfl⟩ := Engine.outcome_eq_ok hresult
      exact .inr ⟨index, name, source, rfl, hadd, rfl⟩
  | render index handle context =>
    refine .inl ⟨rfl, fun other => ?_⟩
    rw [step_render]
    cases (engines index).render handle context <;> exact nofun

/-- Whether the source that a step compiles, if it does, is among some sources. -/
def Step.Within (Standalone : String → Prop) : Step library ι → Prop
  | .compile _ _ source => Standalone source
  | .render _ _ _ => True

/-- The source that a step has put under a name of an engine. -/
def compiledSource? (index : ι) (name : String) : Step library ι × Answer → Option String
  | (.compile i n source, .compiled _) => if i = index ∧ n = name then some source else none
  | _ => none

theorem compiledSource?_compiled (i : ι) (n source : String) (handle : Handle) :
    compiledSource? index name ((.compile i n source : Step library ι), .compiled handle) =
      if i = index ∧ n = name then some source else none := rfl

theorem compiledSource?_eq_none {step : Step library ι} {answer : Answer}
    (h : ∀ handle, answer ≠ .compiled handle) :
    compiledSource? index name (step, answer) = none := by
  cases answer with
  | compiled handle => exact absurd rfl (h handle)
  | text content => cases step <;> rfl
  | failed cause => cases step <;> rfl

theorem reached_step {step : Step library ι} {i : ι}
    (h : library.Reached (languages i) (engines i).environment) :
    library.Reached (languages i) ((engines.step step).1 i).environment := by
  cases step with
  | compile index name source =>
    by_cases hi : i = index
    · subst hi
      rw [step_compile_self]
      exact h.add name source
    · rw [step_compile_of_ne hi]
      exact h
  | render index handle context => exact h

/-- A compilation changes nothing for another name of its engine, nor for another engine. -/
theorem serves_compile_other (lawful : library.Lawful Standalone) {i : ι} {n : String}
    (h : (engines index).Serves Standalone (languages index) name found)
    (hother : ¬ (i = index ∧ n = name)) (source : String) :
    ((engines.step (.compile i n source)).1 index).Serves Standalone (languages index)
      name found := by
  by_cases hi : index = i
  · subst hi
    rw [step_compile_self]
    exact h.compile_other lawful (fun hn => hother ⟨rfl, hn.symm⟩) source
  · rw [step_compile_of_ne hi]
    exact h

/-- After a step an engine serves a name by what the step compiled under it, or else as before. -/
theorem serves_step (lawful : library.Lawful Standalone) {step : Step library ι}
    (hstep : step.Within Standalone)
    (h : (engines index).Serves Standalone (languages index) name found) :
    ((engines.step step).1 index).Serves Standalone (languages index) name
      ((compiledSource? index name (step, (engines.step step).2)).or found) := by
  rcases step_cases lawful engines step with ⟨hsame, hanswer⟩ | ⟨i, n, source, rfl, hadd, hanswer⟩
  · rw [hsame, compiledSource?_eq_none hanswer]
    exact h
  · rw [hanswer]
    by_cases hsame : i = index ∧ n = name
    · rw [compiledSource?_compiled, if_pos hsame]
      obtain ⟨rfl, rfl⟩ := hsame
      rw [step_compile_self]
      exact h.compile lawful hstep hadd
    · rw [compiledSource?_compiled, if_neg hsame]
      exact serves_compile_other lawful h hsame source

/-! ## Two families of engines -/

/-- Engines of the same languages that serve all names alike, but for one name of one of them. -/
structure AlikeBut (Standalone : String → Prop) (languages : ι → Language) (index : ι)
    (name : String) (engines others : Engines library ι) : Prop where
  reached : ∀ i, library.Reached (languages i) (engines i).environment
  reached_others : ∀ i, library.Reached (languages i) (others i).environment
  serves : ∀ i n, ¬ (i = index ∧ n = name) → ∃ found,
    (engines i).Serves Standalone (languages i) n found ∧
    (others i).Serves Standalone (languages i) n found

/-- Both families give the same answer to a compilation: it depends on the language and the
source. -/
theorem AlikeBut.compile_eq (lawful : library.Lawful Standalone)
    (h : AlikeBut Standalone languages index name engines others) (i : ι) (n source : String) :
    (engines.step (.compile i n source)).2 = (others.step (.compile i n source)).2 :=
  congrArg Answer.ofCompilation
    (Engine.compile_fst_eq lawful (h.reached i) (h.reached_others i) n source)

/-- A step keeps engines alike but for a name. -/
theorem AlikeBut.step (lawful : library.Lawful Standalone) {step : Step library ι}
    (hstep : step.Within Standalone) (h : AlikeBut Standalone languages index name engines others) :
    AlikeBut Standalone languages index name (engines.step step).1 (others.step step).1 := by
  refine ⟨fun i => reached_step (h.reached i), fun i => reached_step (h.reached_others i), ?_⟩
  intro i n hother
  obtain ⟨found, hengines, hothers⟩ := h.serves i n hother
  cases step with
  | compile j m source =>
    refine ⟨_, serves_step lawful hstep hengines, ?_⟩
    rw [h.compile_eq lawful j m source]
    exact serves_step lawful hstep hothers
  | render j handle context => exact ⟨found, hengines, hothers⟩

/-- Engines that are alike but for a name give the same answer to every step that does not render
it. -/
theorem AlikeBut.answer_eq (lawful : library.Lawful Standalone) {step : Step library ι}
    (h : AlikeBut Standalone languages index name engines others)
    (hother : ∀ context, step ≠ .render index ⟨name⟩ context) :
    (engines.step step).2 = (others.step step).2 := by
  cases step with
  | compile i n source => exact h.compile_eq lawful i n source
  | render i handle context =>
    have hne : ¬ (i = index ∧ handle.name = name) := by
      rintro ⟨rfl, rfl⟩
      exact hother context rfl
    obtain ⟨found, hengines, hothers⟩ := h.serves i handle.name hne
    rw [step_render, step_render]
    exact congrArg Answer.ofRendering
      ((hengines.render_eq lawful context).trans (hothers.render_eq lawful context).symm)

/-! ## Whole runs -/

/-- The answers of engines that start without templates. -/
def answers (languages : ι → Language) (steps : List (Step library ι)) : List Answer :=
  ((start languages).run steps).2

/-- The source of the last compilation under a name of an engine that went well, in a history of
steps and answers. -/
def lastSource (index : ι) (name : String) (history : List (Step library ι × Answer)) :
    Option String :=
  history.foldl (fun found entry => (compiledSource? index name entry).or found) none

/-- After any steps, every engine serves every name by the last source compiled under it. -/
theorem serves_run (lawful : library.Lawful Standalone) (languages : ι → Language) (index : ι)
    (name : String) {steps : List (Step library ι)}
    (hsteps : ∀ step ∈ steps, step.Within Standalone) :
    (((start languages).run steps).1 index).Serves Standalone (languages index) name
      (lastSource index name (steps.zip (answers languages steps))) :=
  dialogue_keeps
    (P := fun (engines : Engines library ι) found => (engines index).Serves Standalone
      (languages index) name found)
    (fun hstep h => serves_step lawful hstep h) hsteps (Engine.serves_empty ..)

/-- A compilation after any steps leaves engines alike but for its name. -/
theorem alikeBut_compile (lawful : library.Lawful Standalone) (languages : ι → Language)
    {steps : List (Step library ι)} (hsteps : ∀ step ∈ steps, step.Within Standalone) (index : ι)
    (name source : String) :
    AlikeBut Standalone languages index name
      (((start languages).run steps).1.step (.compile index name source)).1
      ((start languages).run steps).1 := by
  have hserves (i : ι) (n : String) := serves_run lawful languages i n hsteps
  refine ⟨fun i => reached_step (hserves i name).reached, fun i => (hserves i name).reached, ?_⟩
  intro i n hother
  refine ⟨_, serves_compile_other lawful (hserves i n) ?_ source, hserves i n⟩
  exact fun h => hother ⟨h.1.symm, h.2.symm⟩

/-- The answers of a fresh engine that compiles one source and then renders it. -/
theorem answers_compile_render {language : Language} {source : String}
    (h : (library.add (library.opened language) name source).1 = .ok ())
    (context : library.Context) :
    answers (fun _ : Unit => language) [.compile () name source, .render () ⟨name⟩ context] =
      [.compiled ⟨name⟩, .ofRendering
        ((⟨language, library.alone language name (some source)⟩ : Engine library).render ⟨name⟩
          context)] := by
  have hstart : ((start fun _ : Unit => language) ()).compile name source =
      (.ok ⟨name⟩, ⟨language, library.alone language name (some source)⟩) :=
    congrArg (·, _) (congrArg (Engine.outcome name) h)
  simp only [answers, run, dialogue_cons, dialogue_nil, step_render, step_compile_self]
  rw [step_compile, hstart]
  rfl

/-- Over a lawful library, with sources that stand alone: a template is rendered as by a fresh
engine of the same language that compiled one source, namely the last one that this engine compiled
under the name; an engine that compiled none under it fails and names it, whatever other engines
hold.  Rendering and compilations that fail can be left out of a run without any other answer
changing.  A compilation that goes well changes only what the same engine renders under the same
name. -/
theorem answers_as_fresh_engine (lawful : library.Lawful Standalone) (languages : ι → Language)
    (before after : List (Step library ι))
    (hsteps : ∀ step ∈ before ++ after, step.Within Standalone) :
    (∀ index name context,
      match lastSource index name (before.zip (answers languages before)) with
      | none =>
        ∃ cause,
          (answers languages (before ++ .render index ⟨name⟩ context :: after))[before.length]? =
          some (.failed (.renderFailed name cause))
      | some source =>
        ∃ answer, answers (fun _ : Unit => languages index)
            [.compile () name source, .render () ⟨name⟩ context] = [.compiled ⟨name⟩, answer] ∧
          (answers languages (before ++ .render index ⟨name⟩ context :: after))[before.length]? =
            some answer) ∧
    (∀ step,
      ((∃ index handle context, step = .render index handle context) ∨
        ∃ cause, (answers languages (before ++ step :: after))[before.length]? =
          some (.failed cause)) →
      answers languages (before ++ after) =
        (answers languages (before ++ step :: after)).eraseIdx before.length) ∧
    (∀ index name source i, (∀ context, after[i]? ≠ some (.render index ⟨name⟩ context)) →
      (answers languages (before ++ .compile index name source :: after))[before.length + 1 + i]? =
        (answers languages (before ++ after))[before.length + i]?) := by
  obtain ⟨hbefore, hafter⟩ := List.forall_mem_append.1 hsteps
  refine ⟨fun index name context => ?_, fun step hquiet => ?_, fun index name source i hother => ?_⟩
  · have hanswer :
        (answers languages (before ++ .render index ⟨name⟩ context :: after))[before.length]? =
        some (.ofRendering ((((start languages).run before).1 index).render ⟨name⟩ context)) :=
      dialogue_getElem? ..
    have hserves := serves_run lawful languages index name hbefore
    rw [hserves.render_eq lawful] at hanswer
    cases hlast : lastSource index name (before.zip (answers languages before)) with
    | none =>
      obtain ⟨cause, hcause⟩ := Engine.render_empty lawful (languages index) name context
      rw [hlast] at hanswer
      exact ⟨cause, hanswer.trans (congrArg (some ∘ Answer.ofRendering) hcause)⟩
    | some source =>
      rw [hlast] at hanswer hserves
      exact ⟨_, answers_compile_render (hserves.accepted source rfl) context, hanswer⟩
  · refine (dialogue_eraseIdx ?_ after).symm
    rcases step_cases lawful ((start languages).run before).1 step with
      ⟨hsame, -⟩ | ⟨index, name, source, rfl, -, hcompiled⟩
    · exact hsame
    · -- such a step neither renders nor fails
      rcases hquiet with ⟨_, _, _, hrender⟩ | ⟨cause, hfailed⟩
      · cases hrender
      · have hanswer := (dialogue_getElem? ..).symm.trans hfailed
        rw [run] at hcompiled
        rw [hcompiled] at hanswer
        cases hanswer
  · have hwith (k : Nat) (hk : k = before.length + 1 + i) :
        (answers languages (before ++ .compile index name source :: after))[k]? =
          ((((start languages).run before).1.step (.compile index name source)).1.run
            after).2[i]? := by
      rw [hk, Nat.add_assoc, Nat.add_comm 1 i]
      exact dialogue_getElem?_append ..
    have hwithout : (answers languages (before ++ after))[before.length + i]? =
        (((start languages).run before).1.run after).2[i]? := dialogue_getElem?_append ..
    rw [hwith _ rfl, hwithout]
    refine dialogue_agree (fun hstep h => h.step lawful hstep)
      (fun h hagreed => h.answer_eq lawful hagreed) hafter
      (alikeBut_compile lawful languages hbefore index name source) fun step hstep => ?_
    exact fun context hrender => hother context (hrender ▸ hstep)

/-- Two engines share a handle: the Go engine goes on to print what it compiled before an attempt
that failed, the TypeScript engine has nothing to print, and neither the attempt nor what the
TypeScript engine compiles under the same name makes a difference to the Go engine. -/
theorem answers_after_failed_compilation :
    let languages : Bool → Language := fun server => if server then .go else .typescript
    let first : Step plainJinja Bool :=
      .compile true "page" "\x7b\x7b 'bytes' | target_type \x7d\x7d"
    let attempt : Step plainJinja Bool := .compile true "page" "\x7b\x7b"
    let foreign : Step plainJinja Bool := .compile false "page" "text"
    let printing (server : Bool) : Step plainJinja Bool := .render server ⟨"page"⟩ ⟨[], rfl⟩
    (∀ step ∈ [first, attempt] ++ [printing true], step.Within AsksNothing) ∧
      (answers languages ([first, attempt] ++ printing true :: []))[2]? = some (.text "[]byte") ∧
      (∃ cause, (answers languages ([first, attempt] ++ printing false :: []))[2]? =
        some (.failed (.renderFailed "page" cause))) ∧
      answers languages ([first] ++ [printing true]) =
        (answers languages ([first] ++ attempt :: [printing true])).eraseIdx 1 ∧
      (answers languages ([first] ++ foreign :: [printing true]))[2]? =
        (answers languages ([first] ++ [printing true]))[1]? := by
  intro languages first attempt foreign printing
  have hfirst : AsksNothing "\x7b\x7b 'bytes' | target_type \x7d\x7d" := by
    intro stmts hparse
    have htree : parse "\x7b\x7b 'bytes' | target_type \x7d\x7d".toList =
        .ok [.print (.filter (.literal (.text "bytes")) "target_type" [])] :=
      parse_of_yields (by decide +kernel)
    cases htree.symm.trans hparse
    decide
  have hattempt : AsksNothing "\x7b\x7b" := by
    intro stmts hparse
    cases hparse
  have hsteps : ∀ step ∈ [first, attempt] ++ [printing true], step.Within AsksNothing := by
    simp [first, attempt, printing, Step.Within, hfirst, hattempt]
  have hpair : ∀ step ∈ [first, attempt] ++ [], step.Within AsksNothing := by
    simp [first, attempt, Step.Within, hfirst, hattempt]
  have hshort : ∀ step ∈ [first] ++ [printing true], step.Within AsksNothing := by
    simp [first, printing, Step.Within, hfirst]
  obtain ⟨hrender, -, -⟩ :=
    answers_as_fresh_engine lawful_plainJinja languages [first, attempt] [] hpair
  obtain ⟨-, hquiet, hother⟩ :=
    answers_as_fresh_engine lawful_plainJinja languages [first] [printing true] hshort
  have hgo : lastSource true "page" ([first, attempt].zip (answers languages [first, attempt])) =
      some "\x7b\x7b 'bytes' | target_type \x7d\x7d" := by decide +kernel
  have htypescript : lastSource false "page"
      ([first, attempt].zip (answers languages [first, attempt])) =
      none := by decide +kernel
  have hprinted := hrender true "page" ⟨[], rfl⟩
  rw [hgo] at hprinted
  have hmissing := hrender false "page" ⟨[], rfl⟩
  rw [htypescript] at hmissing
  obtain ⟨answer, hfresh, hanswer⟩ := hprinted
  have htext : answers (fun _ : Unit => languages true)
      [(.compile () "page" "\x7b\x7b 'bytes' | target_type \x7d\x7d" : Step plainJinja Unit),
        .render () ⟨"page"⟩ ⟨[], rfl⟩] = [.compiled ⟨"page"⟩, .text "[]byte"] := by decide +kernel
  cases htext.symm.trans hfresh
  have hfails : (answers languages ([first] ++ attempt :: [printing true]))[1]? =
      some (.failed (.templateRefused "page" (.unexpectedEnd "end of tag"))) := by decide +kernel
  refine ⟨hsteps, hanswer, hmissing, hquiet attempt (.inr ⟨_, hfails⟩),
    hother false "page" "text" 0 fun context => ?_⟩
  simp [printing]

/-- A template that asks with `debug` what is held does not stand alone, over plain values either:
what it prints changes when a second template is compiled. -/
theorem debug_sees_other_template :
    let page : Step plainJinja Unit :=
      .compile () "page" "\x7b\x7b 'ZEBRA' | to_lower in debug() \x7d\x7d"
    let printing : Step plainJinja Unit := .render () ⟨"page"⟩ ⟨[], rfl⟩
    answers (fun _ => .typescript) [page, .compile () "zebra" "", printing] =
        [.compiled ⟨"page"⟩, .compiled ⟨"zebra"⟩, .text "True"] ∧
      answers (fun _ => .typescript) [page, printing] = [.compiled ⟨"page"⟩, .text "False"] := by
  decide +kernel

end Engines

end ApiStubs.Template
