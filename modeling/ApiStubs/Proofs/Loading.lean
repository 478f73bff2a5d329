import ApiStubs.Proofs.Generation

/-!
# What a run takes from a store

A backend loads all of its templates before it renders anything.  So a run fails over a template
exactly when one of the templates of its backend is missing, is no text or does not compile, with
the failure of the first of them; and nothing else that a store holds has any influence on a run.
-/

namespace ApiStubs

open Template

/-- Whether the failure is that of a template which cannot be had: it is missing, no text, or
refused. -/
def Failure.isLoading : Failure → Bool
  | .assetNotFound _ | .assetUnusable _ _ | .templateRefused _ _ => true
  | _ => false

/-- What is wrong with the template under a key, if it cannot be fetched or does not compile. -/
def Asset.Store.defect? (store : Asset.Store) (key : String) : Option Failure :=
  match store.get key with
  | .error fault => some fault.toFailure
  | .ok source =>
    match parse source.toList with
    | .error cause => some (.templateRefused key cause)
    | .ok _ => none

/-! ## Loading -/

section Loading

variable {store : Asset.Store} {key : String} {failure : Failure}

theorem isLoading_of_defect? (h : store.defect? key = some failure) : failure.isLoading = true := by
  unfold Asset.Store.defect? at h
  cases hget : store.get key with
  | error fault =>
      rw [hget] at h
      cases h
      cases fault <;> rfl
  | ok source =>
      cases hparse : parse source.toList <;> simp only [hget, hparse] at h <;> cases h
      rfl

/-- A template with a defect ends the loading. -/
theorem loadTemplates_cons_of_defect (h : store.defect? key = some failure) (engine : Engine jinja)
    (rest : List String) : loadTemplates store engine (key :: rest) = .error failure := by
  unfold Asset.Store.defect? at h
  cases hget : store.get key with
  | error fault =>
      rw [hget] at h
      cases h
      simp [loadTemplates, hget]
  | ok source =>
      cases hparse : parse source.toList <;> simp only [hget, hparse] at h <;> cases h
      simp [loadTemplates, hget, Engine.compile_of_refused hparse]

/-- A template without one is compiled, and the loading goes on. -/
theorem loadTemplates_cons_of_sound (h : store.defect? key = none) (engine : Engine jinja)
    (rest : List String) :
    ∃ next, loadTemplates store engine (key :: rest) = loadTemplates store next rest := by
  unfold Asset.Store.defect? at h
  cases hget : store.get key with
  | error fault => simp [hget] at h
  | ok source =>
      cases hparse : parse source.toList with
      | error cause => simp [hget, hparse] at h
      | ok stmts =>
          exact ⟨engine.hold key stmts, by simp [loadTemplates, hget,
            Engine.compile_of_parse hparse]⟩

/-- Templates without defects are all loaded. -/
theorem exists_loadTemplates {keys : List String} (h : ∀ key ∈ keys, store.defect? key = none)
    (engine : Engine jinja) : ∃ loaded, loadTemplates store engine keys = .ok loaded := by
  induction keys generalizing engine with
  | nil => exact ⟨engine, rfl⟩
  | cons key rest ih =>
      obtain ⟨hkey, hrest⟩ := List.forall_mem_cons.1 h
      obtain ⟨next, hnext⟩ := loadTemplates_cons_of_sound hkey engine rest
      obtain ⟨loaded, hloaded⟩ := ih hrest next
      exact ⟨loaded, hnext.trans hloaded⟩

/-- The first defect is the failure of the loading. -/
theorem loadTemplates_of_first_defect {before after : List String}
    (hbefore : ∀ key ∈ before, store.defect? key = none) (hkey : store.defect? key = some failure)
    (engine : Engine jinja) :
    loadTemplates store engine (before ++ key :: after) = .error failure := by
  induction before generalizing engine with
  | nil => exact loadTemplates_cons_of_defect hkey engine after
  | cons sound before ih =>
      obtain ⟨hsound, hrest⟩ := List.forall_mem_cons.1 hbefore
      obtain ⟨next, hnext⟩ := loadTemplates_cons_of_sound hsound engine (before ++ key :: after)
      exact hnext.trans (ih hrest next)

/-- Only the texts under the keys matter. -/
theorem loadTemplates_congr {other : Asset.Store} {keys : List String}
    (h : ∀ key ∈ keys, other.get key = store.get key) (engine : Engine jinja) :
    loadTemplates other engine keys = loadTemplates store engine keys := by
  induction keys generalizing engine with
  | nil => rfl
  | cons key rest ih =>
      obtain ⟨hkey, hrest⟩ := List.forall_mem_cons.1 h
      cases hget : store.get key with
      | error fault => simp [loadTemplates, hkey, hget]
      | ok source =>
          rcases hcompile : engine.compile key source with ⟨_ | _, next⟩ <;>
            simp [loadTemplates, hkey, hget, hcompile, ih hrest]

end Loading

/-! ## Rendering -/

theorem exists_of_render_error {library : Library} {engine : Engine library} {handle : Handle}
    {context : library.Context} {failure : Failure}
    (h : engine.render handle context = .error failure) :
    ∃ cause, failure = .renderFailed handle.name cause := by
  unfold Engine.render at h
  cases hfind : library.find engine.environment handle.name with
  | error cause =>
      simp only [hfind, Except.error.injEq] at h
      exact ⟨cause, h.symm⟩
  | ok template =>
      cases hrender : library.render engine.environment template context <;>
        simp only [hfind, hrender] at h <;> cases h
      exact ⟨_, rfl⟩

theorem eq_of_insert_error {files : OutputFiles} {name content : String} {failure : Failure}
    (h : files.insert name content = .error failure) : failure = .duplicateOutput name := by
  unfold OutputFiles.insert at h
  split at h <;> cases h
  rfl

/-- Sheets fail over a template that does not render, or over a name that was given out before. -/
theorem exists_of_renderSheets_error {engine : Engine jinja} {files : OutputFiles}
    {sheets : List Sheet} {failure : Failure}
    (h : renderSheets engine files sheets = .error failure) :
    (∃ name cause, failure = .renderFailed name cause) ∨ ∃ name,
      failure = .duplicateOutput name := by
  induction sheets generalizing files with
  | nil => cases h
  | cons sheet rest ih =>
      cases hrender : engine.render ⟨sheet.template⟩ sheet.context with
      | error e =>
          simp only [renderSheets, hrender, Except.error.injEq] at h
          exact .inl ⟨_, h ▸ exists_of_render_error hrender⟩
      | ok text =>
          cases hinsert : files.insert sheet.file text with
          | error e =>
              simp only [renderSheets, hrender, hinsert, Except.error.injEq] at h
              exact .inr ⟨_, h ▸ eq_of_insert_error hinsert⟩
          | ok next =>
              simp only [renderSheets, hrender, hinsert] at h
              exact ih h

/-- Once the templates are loaded, no failure is about loading them. -/
theorem isLoading_of_renderSheets {engine : Engine jinja} {files : OutputFiles}
    {sheets : List Sheet} {failure : Failure}
    (h : renderSheets engine files sheets = .error failure) :
    failure.isLoading = false := by
  rcases exists_of_renderSheets_error h with ⟨_, _, rfl⟩ | ⟨_, rfl⟩ <;> rfl

/-! ## Runs -/

section Runs

variable {name : String} {backend : Backend} {request : Request} {store : Asset.Store}

/-- With at most one service, a run of a standard backend loads the templates and renders the
plan. -/
theorem generate_of_standard (hname : (name, backend) ∈ standardBackends)
    (hfew : request.services.length ≤ 1) :
    (Generator.standard store).generate name request =
      match loadTemplates store (Engine.empty backend.language) backend.templates with
      | .error failure => .error failure
      | .ok engine =>
        renderSheets engine OutputFiles.empty (backend.plan request request.services.head?) := by
  have hservice : request.service = .ok request.services.head? := by
    unfold Request.service
    match hservices : request.services with
    | [] => rfl
    | [_] => rfl
    | _ :: _ :: _ => simp [hservices] at hfew
  cases hload : loadTemplates store (Engine.empty backend.language) backend.templates <;>
    simp [Generator.generate, Generator.standard, Nat.not_lt.2 hfew, find_standard hname,
      Session.load, Session.start, hload, Session.generate, hservice]

theorem templates_subset_keys (backend : Backend) : backend.templates ⊆ Asset.Builtin.keys := by
  cases backend <;> decide

/-- Stores that answer alike for all known keys give the same runs. -/
theorem generate_congr {other : Asset.Store}
    (h : ∀ key ∈ Asset.Builtin.keys, other.get key = store.get key) (name : String)
    (request : Request) :
    (Generator.standard other).generate name request =
      (Generator.standard store).generate name request := by
  unfold Generator.generate Generator.standard
  cases hfind : Registry.standard.find name with
  | error failure => rfl
  | ok backend =>
      have hkeys : ∀ key ∈ backend.templates, other.get key = store.get key := fun key hkey =>
        h key (templates_subset_keys backend hkey)
      have hload : (Session.start backend).load other = (Session.start backend).load store := by
        simp only [Session.load, Session.start, loadTemplates_congr hkeys]
      simp only [hload]

/-- A run of a standard backend on a description with at most one service fails over a template
exactly when some template of the backend cannot be fetched or does not compile, used or not.  The
failure is that of the first such template in the order of loading, and stores that answer alike for
the templates of the backend give the same files or the same failure. -/
theorem generate_fails_over_template_iff (hname : (name, backend) ∈ standardBackends)
    (hfew : request.services.length ≤ 1) (store : Asset.Store) :
    ((∃ failure : Failure, failure.isLoading = true ∧
        (Generator.standard store).generate name request = .error failure) ↔
      ∃ key ∈ backend.templates, (store.defect? key).isSome = true) ∧
    (∀ before key after failure, backend.templates = before ++ key :: after →
      (∀ sound ∈ before, store.defect? sound = none) → store.defect? key = some failure →
      (Generator.standard store).generate name request = .error failure) ∧
    (∀ other : Asset.Store, (∀ key ∈ backend.templates, other.get key = store.get key) →
      (Generator.standard other).generate name request =
        (Generator.standard store).generate name request) := by
  have hfirst : ∀ before key after failure, backend.templates = before ++ key :: after →
      (∀ sound ∈ before, store.defect? sound = none) → store.defect? key = some failure →
      (Generator.standard store).generate name request = .error failure := by
    intro before key after failure hsplit hbefore hkey
    rw [generate_of_standard hname hfew, hsplit, loadTemplates_of_first_defect hbefore hkey]
  refine ⟨⟨?_, ?_⟩, hfirst, fun other hagree => ?_⟩
  · rintro ⟨failure, hloading, hfails⟩
    -- without a defect the run comes to rendering, which fails for other reasons
    refine Decidable.not_not.1 fun hnone => ?_
    have hsound : ∀ key ∈ backend.templates, store.defect? key = none := by
      intro key hkey
      refine Option.not_isSome_iff_eq_none.1 fun hsome => hnone ⟨key, hkey, hsome⟩
    obtain ⟨engine, hengine⟩ := exists_loadTemplates hsound (Engine.empty backend.language)
    rw [generate_of_standard hname hfew, hengine] at hfails
    rw [isLoading_of_renderSheets hfails] at hloading
    cases hloading
  · rintro ⟨key, hkey, hdefect⟩
    obtain ⟨first, hfind⟩ := Option.isSome_iff_exists.1
      (List.find?_isSome (p := fun key => (store.defect? key).isSome) |>.2 ⟨key, hkey, hdefect⟩)
    obtain ⟨hbad, before, after, hsplit, hbefore⟩ := List.find?_eq_some_iff_append.1 hfind
    obtain ⟨failure, hfailure⟩ := Option.isSome_iff_exists.1 hbad
    refine ⟨failure, isLoading_of_defect? hfailure,
      hfirst before first after failure hsplit ?_ hfailure⟩
    intro sound hsound
    simpa using hbefore sound hsound
  · rw [generate_of_standard hname hfew, generate_of_standard hname hfew,
      loadTemplates_congr hagree]

end Runs

/-- A folder without the template for messages and a broken one for enumerations fails a Java run
that has neither, over the first of the two; what it has besides the templates of the backend does
not matter.  With a template for messages in it, the run fails over the broken one. -/
theorem generate_fails_over_unused_template :
    let service : String × Except Disk.Fault Bytes := ("spring/service.java.j2", .ok [])
    let struct : String × Except Disk.Fault Bytes := ("spring/struct.java.j2", .ok [])
    let enumeration : String × Except Disk.Fault Bytes := ("spring/enum.java.j2", .ok [123, 123])
    let folder : Asset.Store := .folder (.ofAnswers [service, enumeration])
    let larger : Asset.Store :=
      .folder (.ofAnswers [("php/client.php.j2", .ok [123]), service, enumeration])
    let whole : Asset.Store := .folder (.ofAnswers [service, struct, enumeration])
    ("spring", Backend.spring) ∈ standardBackends ∧ Request.empty.services.length ≤ 1 ∧
      (∃ failure : Failure, failure.isLoading = true ∧
        (Generator.standard folder).generate "spring" Request.empty = .error failure) ∧
      (Generator.standard folder).generate "spring" Request.empty =
        .error (.assetNotFound "spring/struct.java.j2") ∧
      (Generator.standard larger).generate "spring" Request.empty =
        (Generator.standard folder).generate "spring" Request.empty ∧
      (Generator.standard whole).generate "spring" Request.empty =
        .error (.templateRefused "spring/enum.java.j2" (.unexpectedEnd "end of tag")) := by
  intro service struct enumeration folder larger whole
  have hname : ("spring", Backend.spring) ∈ standardBackends := by decide
  have hfew : Request.empty.services.length ≤ 1 := by decide
  have hservice : folder.defect? "spring/service.java.j2" = none := by decide +kernel
  have hstruct : folder.defect? "spring/struct.java.j2" =
      some (.assetNotFound "spring/struct.java.j2") := by decide +kernel
  have hbroken : whole.defect? "spring/enum.java.j2" =
      some (.templateRefused "spring/enum.java.j2" (.unexpectedEnd "end of tag")) := by
    decide +kernel
  have hsound : ∀ key ∈ ["spring/service.java.j2", "spring/struct.java.j2"],
      whole.defect? key = none := by decide +kernel
  obtain ⟨hiff, hfirst, hsame⟩ := generate_fails_over_template_iff hname hfew folder
  obtain ⟨-, hsecond, -⟩ := generate_fails_over_template_iff hname hfew whole
  refine ⟨hname, hfew, hiff.2 ⟨"spring/struct.java.j2", by decide, by rw [hstruct]; rfl⟩,
    hfirst ["spring/service.java.j2"] "spring/struct.java.j2" ["spring/enum.java.j2"] _ rfl ?_
      hstruct,
    hsame larger ?_,
    hsecond ["spring/service.java.j2", "spring/struct.java.j2"] "spring/enum.java.j2" [] _ rfl
      hsound hbroken⟩
  · simpa using hservice
  · decide +kernel

end ApiStubs
