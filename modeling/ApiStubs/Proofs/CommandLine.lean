import ApiStubs.CommandLine.Run
import ApiStubs.Proofs.Disk.Contents
import ApiStubs.Proofs.Disk.Programs
import ApiStubs.Proofs.Loading

/-!
# How a run of the command line ends

What each stage of `generate` gives is told from the order, the disk and standard input alone,
without running anything: the description, the settings, the log level, the files.  `FailsAt` says
at which stage a run fails and why; a run fails at one stage only, since every stage needs what the
stages before it give.  The run itself takes the stages in this order, ends at the first that fails
with the status of its cause, and leaves the disk alone before the last.
-/

namespace ApiStubs

open Template

/-! ## Failures by where they come from -/

/-- Whether the failure can come from generating files.  It is then not about settings, and not that
of a backend that was never made ready. -/
def Failure.isGeneration : Failure → Bool
  | .notReady _ | .settings _ => false
  | _ => true

theorem isGeneration_of_loadTemplates {store : Asset.Store} {engine : Engine jinja}
    {keys : List String} {failure : Failure}
    (h : loadTemplates store engine keys = .error failure) :
    failure.isGeneration = true := by
  induction keys generalizing engine with
  | nil => cases h
  | cons key rest ih =>
      cases hdefect : store.defect? key with
      | some defect =>
          rw [loadTemplates_cons_of_defect hdefect] at h
          cases h
          have hloading := isLoading_of_defect? hdefect
          cases failure <;> first | rfl | cases hloading
      | none =>
          obtain ⟨next, hnext⟩ := loadTemplates_cons_of_sound hdefect engine rest
          exact ih (hnext ▸ h)

/-- A session that was loaded is ready. -/
theorem isGeneration_of_session {backend : Backend} {store : Asset.Store} {session : Session}
    {request : Request} {failure : Failure}
    (hload : (Session.start backend).load store = .ok session)
    (h : session.generate request = .error failure) : failure.isGeneration = true := by
  unfold Session.load at hload
  split at hload
  · cases hload
  · cases hload
    unfold Session.generate at h
    dsimp only at h
    split at h
    · rename_i e hservice
      cases h
      unfold Request.service at hservice
      split at hservice <;> cases hservice
      rfl
    · rcases exists_of_renderSheets_error h with ⟨_, _, rfl⟩ | ⟨_, rfl⟩ <;> rfl

theorem isGeneration_of_generate {store : Asset.Store} {name : String} {request : Request}
    {failure : Failure} (h : (Generator.standard store).generate name request = .error failure) :
    failure.isGeneration = true := by
  unfold Generator.generate at h
  split at h
  · cases h
    rfl
  · split at h
    · rename_i e hfind
      cases h
      unfold Registry.find at hfind
      split at hfind <;> cases hfind
      rfl
    · rename_i backend hfind
      split at h
      · rename_i e hload
        cases h
        unfold Session.load at hload
        split at hload <;> cases hload
        rename_i hloading
        exact isGeneration_of_loadTemplates hloading
      · rename_i session hload
        exact isGeneration_of_session hload h

namespace CommandLine

/-! ## What the stages give -/

section Stages

/-- Whether the description comes from standard input. -/
def Order.readsInput (order : Order) : Bool :=
  decide (Path.components order.source = Path.components standardInput)

/-- The machine once the description has been read: standard input is used up if it was read. -/
def Order.spent (order : Order) (machine : Machine) : Machine :=
  if order.readsInput then machine.drained else machine

/-- The octets of the description. -/
def Order.bytesOn (order : Order) (machine : Machine) : Except Disk.Fault Bytes :=
  if order.readsInput then machine.input else machine.disk.read order.source

/-- What a run says about octets that cannot be had. -/
def Order.unread (order : Order) (cause : Disk.Fault) : Fault :=
  if order.readsInput then .inputUnread cause else .requestUnread order.source cause

/-- The description, if it can be read and is one. -/
def Order.requestOn (order : Order) (machine : Machine) : Option Request :=
  match order.bytesOn machine with
  | .error _ => none
  | .ok bytes => (Request.decode bytes).toOption

/-- The settings before those of the description: those of the file, if there is one. -/
def Order.baseOn (order : Order) (disk : Disk) : Except Failure Settings :=
  match order.config with
  | none => .ok Settings.standard
  | some path => Settings.ofFile path (disk.read path)

/-- The settings: first those of the file, then those of the parameter, then the flags. -/
def Order.settingsOn (order : Order) (disk : Disk) (request : Request) : Except Failure Settings :=
  match order.baseOn disk with
  | .error failure => .error failure
  | .ok base =>
    match base.withParameter request.parameter with
    | .error failure => .error failure
    | .ok settings => .ok (settings.withFlags order.flags)

/-- Where the templates come from: they are built in, or the files below a directory. -/
def storeOn (disk : Disk) : Option String → Asset.Store
  | none => .builtin
  | some directory => .folder (.ofDisk disk directory)

/-- The files. -/
def filesOn (disk : Disk) (settings : Settings) (request : Request) : Except Failure OutputFiles :=
  (Generator.standard (storeOn disk settings.templateDir)).generate settings.backend request

end Stages

/-- The stages of a run. -/
inductive Stage where
  /-- reading the description -/
  | request
  /-- resolving the settings -/
  | settings
  /-- checking the log level -/
  | level
  | generation
  | writing
  deriving DecidableEq, Repr

/-- Why a stage fails: for a failure with a number, or for anything else. -/
inductive Cause where
  | numbered (failure : Failure)
  | other
  deriving DecidableEq, Repr

/-- The exit status for a cause. -/
def Cause.status : Cause → Nat
  | .numbered failure => 10 + failure.code
  | .other => 1

/-- All stages before writing go well and give files for a directory. -/
def Prepares (order : Order) (machine : Machine) (directory : String)
    (files : OutputFiles) : Prop :=
  ∃ request settings level, order.requestOn machine = some request ∧
    order.settingsOn machine.disk request = .ok settings ∧ settings.level = .ok level ∧
    filesOn machine.disk settings request = .ok files ∧ settings.outputDir = directory

/-- A run fails at a stage for a cause, after all earlier stages went well. -/
inductive FailsAt (order : Order) (machine : Machine) : Stage → Cause → Prop where
  | request : order.requestOn machine = none → FailsAt order machine .request .other
  | settings {request : Request} {failure : Failure} :
    order.requestOn machine = some request →
    order.settingsOn machine.disk request = .error failure →
    FailsAt order machine .settings (.numbered failure)
  | level {request : Request} {settings : Settings} {failure : Failure} :
    order.requestOn machine = some request →
    order.settingsOn machine.disk request = .ok settings →
    settings.level = .error failure →
    FailsAt order machine .level (.numbered failure)
  | generation {request : Request} {settings : Settings} {level : LogLevel} {failure : Failure} :
    order.requestOn machine = some request →
    order.settingsOn machine.disk request = .ok settings →
    settings.level = .ok level →
    filesOn machine.disk settings request = .error failure →
    FailsAt order machine .generation (.numbered failure)
  | writing {directory : String} {files : OutputFiles} {fault : Disk.PublishFault}
    {after : Machine} :
    Prepares order machine directory files →
    (Disk.publish directory files.toList : StateM Machine _).run (order.spent machine) =
      (.error fault, after) →
    FailsAt order machine .writing .other

/-- All stages go well. -/
def Succeeds (order : Order) (machine : Machine) : Prop :=
  ∃ directory files after, Prepares order machine directory files ∧
    (Disk.publish directory files.toList : StateM Machine (Except Disk.PublishFault Unit)).run
      (order.spent machine) = (.ok (), after)

section Unique

variable {order : Order} {machine : Machine} {stage other : Stage} {cause reason : Cause}

theorem Prepares.unique {directory place : String} {files found : OutputFiles}
    (h : Prepares order machine directory files) (hfound : Prepares order machine place found) :
    directory = place ∧ files = found := by
  obtain ⟨request, settings, level, hrequest, hsettings, -, hfiles, rfl⟩ := h
  obtain ⟨_, _, _, hrequest', hsettings', -, hfiles', rfl⟩ := hfound
  simp_all

/-- A run that comes to writing fails at no stage before. -/
theorem FailsAt.stage_eq_writing {directory : String} {files : OutputFiles}
    (h : FailsAt order machine stage cause) (hprepares : Prepares order machine directory files) :
    stage = .writing ∧ cause = .other ∧ ∃ fault after,
      (Disk.publish directory files.toList : StateM Machine (Except Disk.PublishFault Unit)).run
        (order.spent machine) = (.error fault, after) := by
  cases h with
  | writing hother hwriting =>
      obtain ⟨rfl, rfl⟩ := hprepares.unique hother
      exact ⟨rfl, rfl, _, _, hwriting⟩
  | _ =>
      obtain ⟨_, _, _, _, _, _, _, _⟩ := hprepares
      simp_all

/-- A run fails at one stage, for one cause. -/
theorem FailsAt.unique (h : FailsAt order machine stage cause)
    (hother : FailsAt order machine other reason) :
    stage = other ∧ cause = reason := by
  cases h with
  | writing hprepares _ =>
      obtain ⟨rfl, rfl, -⟩ := hother.stage_eq_writing hprepares
      exact ⟨rfl, rfl⟩
  | _ => cases hother <;> simp_all [Prepares]

theorem FailsAt.not_succeeds (h : FailsAt order machine stage cause) :
    ¬ Succeeds order machine := by
  rintro ⟨directory, files, after, hprepares, hwriting⟩
  obtain ⟨-, -, fault, failed, hfailed⟩ := h.stage_eq_writing hprepares
  rw [hwriting] at hfailed
  cases hfailed

end Unique

/-! ## What the stages do -/

section Runs

variable {order : Order} {machine : Machine} {request : Request}

@[simp]
theorem disk_spent (order : Order) (machine : Machine) :
    (order.spent machine).disk = machine.disk := by
  unfold Order.spent
  split <;> rfl

/-- Reading the description uses up standard input at most. -/
theorem run_readRequest (order : Order) (machine : Machine) :
    (readRequest order.source : StateM Machine (Except Fault Request)).run machine =
      (match order.bytesOn machine with
        | .error cause => .error (order.unread cause)
        | .ok bytes => readRequest.decoded order.source bytes, order.spent machine) := by
  unfold readRequest Order.bytesOn Order.unread Order.spent Order.readsInput
  by_cases hinput : Path.components order.source = Path.components standardInput
  · simp only [hinput, ↓reduceIte, decide_true]
    have hread : (Host.readInput : StateM Machine _).run machine =
        (machine.input, machine.drained) := rfl
    rw [Machine.run_bind, hread]
    cases machine.input <;> rfl
  · simp only [hinput, ↓reduceIte, decide_false, Bool.false_eq_true]
    have hread : (Host.read order.source : StateM Machine _).run machine =
      (machine.disk.read order.source, machine) := rfl
    rw [Machine.run_bind, hread]
    cases machine.disk.read order.source <;> rfl

theorem run_readRequest_of_none (h : order.requestOn machine = none) :
    ∃ fault : Fault, fault.status = Cause.other.status ∧
      (readRequest order.source : StateM Machine _).run machine =
        (.error fault, order.spent machine) := by
  unfold Order.requestOn at h
  rw [run_readRequest]
  cases hbytes : order.bytesOn machine with
  | error cause =>
      refine ⟨order.unread cause, ?_, rfl⟩
      unfold Order.unread
      split <;> rfl
  | ok bytes =>
      cases hdecode : Request.decode bytes with
      | error cause =>
          refine ⟨.requestRefused order.source cause, rfl, ?_⟩
          simp only [readRequest.decoded, hdecode]
      | ok request => simp [hbytes, hdecode, Except.toOption] at h

theorem run_readRequest_of_some (h : order.requestOn machine = some request) :
    (readRequest order.source : StateM Machine _).run machine =
      (.ok request, order.spent machine) := by
  unfold Order.requestOn at h
  rw [run_readRequest]
  cases hbytes : order.bytesOn machine with
  | error cause => simp [hbytes] at h
  | ok bytes =>
      cases hdecode : Request.decode bytes with
      | error cause => simp [hbytes, hdecode, Except.toOption] at h
      | ok found =>
          obtain rfl : found = request := by simpa [hbytes, hdecode, Except.toOption] using h
          simp only [readRequest.decoded, hdecode]

theorem run_loadOptional (order : Order) (machine : Machine) :
    (Settings.loadOptional order.config : StateM Machine _).run machine =
      (order.baseOn machine.disk, machine) := by
  unfold Order.baseOn
  cases order.config <;> rfl

/-- Resolving the settings changes nothing. -/
theorem run_resolve (order : Order) (request : Request) (machine : Machine) :
    (resolve order request : StateM Machine _).run machine =
      (match order.baseOn machine.disk with
        | .error e => .error (.settings e)
        | .ok base =>
          match base.withParameter request.parameter with
          | .error e => .error (.parameter e)
          | .ok settings => .ok (settings.withFlags order.flags), machine) := by
  unfold resolve
  rw [Machine.run_bind, run_loadOptional]
  cases order.baseOn machine.disk with
  | error e => rfl
  | ok base =>
      dsimp only
      cases base.withParameter request.parameter <;> rfl

theorem run_resolve_of_error {failure : Failure}
    (h : order.settingsOn machine.disk request = .error failure) :
    ∃ fault : Fault, fault.status = (Cause.numbered failure).status ∧
      (resolve order request : StateM Machine _).run machine = (.error fault, machine) := by
  unfold Order.settingsOn at h
  rw [run_resolve]
  cases hbase : order.baseOn machine.disk with
  | error e =>
      obtain rfl : e = failure := by simpa [hbase] using h
      exact ⟨.settings e, rfl, rfl⟩
  | ok base =>
      cases hparameter : base.withParameter request.parameter with
      | error e =>
          obtain rfl : e = failure := by simpa [hbase, hparameter] using h
          refine ⟨.parameter e, rfl, ?_⟩
          simp only [hparameter]
      | ok settings => simp [hbase, hparameter] at h

theorem run_resolve_of_ok {settings : Settings}
    (h : order.settingsOn machine.disk request = .ok settings) :
    (resolve order request : StateM Machine _).run machine = (.ok settings, machine) := by
  unfold Order.settingsOn at h
  rw [run_resolve]
  cases hbase : order.baseOn machine.disk with
  | error e => simp [hbase] at h
  | ok base =>
      cases hparameter : base.withParameter request.parameter with
      | error e => simp [hbase, hparameter] at h
      | ok found =>
          obtain rfl : found.withFlags order.flags = settings := by
            simpa [hbase, hparameter] using h
          simp only [hparameter]

theorem run_readFolder (directory : String) (keys : List String) (machine : Machine) :
    (readFolder directory keys : StateM Machine _).run machine =
      (keys.map fun key => (key, machine.disk.read (Path.join directory key)), machine) := by
  induction keys with
  | nil => rfl
  | cons key rest ih =>
      have hread : (Host.read (Path.join directory key) : StateM Machine _).run machine =
        (machine.disk.read (Path.join directory key), machine) := rfl
      unfold readFolder
      rw [Machine.run_bind, hread, Machine.run_bind, ih]
      rfl

/-- Answers for keys are what the directory answers for them. -/
theorem read_ofAnswers {keys : List String} {key : String} (hkey : key ∈ keys)
    (answer : String → Except Disk.Fault Bytes) :
    (Asset.Folder.ofAnswers (keys.map fun key => (key, answer key))).read key = answer key := by
  have hfind : (keys.map fun key => (key, answer key)).find? (fun entry => entry.1 == key) =
      some (key, answer key) := by
    induction keys with
    | nil => cases hkey
    | cons first rest ih =>
        by_cases hfirst : first = key
        · simp [hfirst]
        · have hrest : key ∈ rest := (List.mem_cons.1 hkey).resolve_left (Ne.symm hfirst)
          simpa [hfirst] using ih hrest
  simp only [Asset.Folder.ofAnswers, hfind]

/-- Reading templates up front gives the runs that the directory itself gives. -/
theorem run_storeOf (directory : Option String) (machine : Machine) :
    ∃ store, (storeOf directory : StateM Machine _).run machine = (store, machine) ∧
      ∀ name request, (Generator.standard store).generate name request =
        (Generator.standard (storeOn machine.disk directory)).generate name request := by
  cases directory with
  | none => exact ⟨.builtin, rfl, fun _ _ => rfl⟩
  | some directory =>
      unfold storeOf
      rw [Machine.run_bind, run_readFolder]
      refine ⟨_, rfl, generate_congr fun key hkey => ?_⟩
      have hread := read_ofAnswers hkey fun key => machine.disk.read (Path.join directory key)
      simp only [Asset.Store.get, normalize?_builtin key hkey, storeOn, Asset.Folder.text, hread,
        Asset.Folder.ofDisk]

/-- Everything before writing ends at the stage that fails, or with files, and leaves the disk
alone. -/
theorem run_prepare (order : Order) (machine : Machine) :
    (∃ stage cause, ∃ fault : Fault, FailsAt order machine stage cause ∧ stage ≠ .writing ∧
      fault.status = cause.status ∧
      (prepare order : StateM Machine _).run machine = (.error fault, order.spent machine)) ∨
    ∃ directory files, Prepares order machine directory files ∧
      (prepare order : StateM Machine _).run machine =
        (.ok (directory, files), order.spent machine) := by
  have hdisk := disk_spent order machine
  unfold prepare
  rw [Machine.run_bind]
  cases hrequest : order.requestOn machine with
  | none =>
      obtain ⟨fault, hstatus, hrun⟩ := run_readRequest_of_none hrequest
      rw [hrun]
      exact .inl ⟨_, _, fault, .request hrequest, by decide, hstatus, rfl⟩
  | some request =>
      rw [run_readRequest_of_some hrequest]
      dsimp only
      rw [Machine.run_bind]
      cases hsettings : order.settingsOn machine.disk request with
      | error failure =>
          obtain ⟨fault, hstatus, hrun⟩ := run_resolve_of_error (hdisk.symm ▸ hsettings)
          rw [hrun]
          exact .inl ⟨_, _, fault, .settings hrequest hsettings, by decide, hstatus, rfl⟩
      | ok settings =>
          rw [run_resolve_of_ok (hdisk.symm ▸ hsettings)]
          dsimp only
          cases hlevel : settings.level with
          | error failure =>
              exact .inl ⟨_, _, .settings failure, .level hrequest hsettings hlevel, by decide, rfl,
                rfl⟩
          | ok level =>
              dsimp only
              obtain ⟨store, hstore, hgenerate⟩ :=
                run_storeOf settings.templateDir (order.spent machine)
              rw [Machine.run_bind, hstore, hgenerate, hdisk]
              cases hfiles : filesOn machine.disk settings request with
              | error failure =>
                  refine .inl ⟨_, _, .generation settings.backend failure,
                    .generation hrequest hsettings hlevel hfiles, by decide, rfl, ?_⟩
                  unfold filesOn at hfiles
                  simp only [hfiles]
                  rfl
              | ok files =>
                  refine .inr ⟨_, files,
                    ⟨request, settings, level, hrequest, hsettings, hlevel, hfiles, rfl⟩, ?_⟩
                  unfold filesOn at hfiles
                  simp only [hfiles]
                  rfl

/-- A run that goes well leaves what writing its files leaves; any other fails at a stage and ends
with the status of its cause. -/
theorem run_execute (order : Order) (machine : Machine) :
    let result := (execute (.generate order) : StateM Machine Report).run machine
    (∃ directory files, Prepares order machine directory files ∧
      (Disk.publish directory files.toList : StateM Machine (Except Disk.PublishFault Unit)).run
        (order.spent machine) = (.ok (), result.2) ∧ result.1.status = 0) ∨
    ∃ stage cause, FailsAt order machine stage cause ∧ result.1.status = cause.status ∧
      (stage ≠ .writing → result.2.disk = machine.disk) := by
  unfold execute generate
  simp only [Machine.run_bind]
  rcases run_prepare order machine with
    ⟨stage, cause, fault, hfails, -, hstatus, hrun⟩ | ⟨directory, files, hprepares, hrun⟩
  · rw [hrun]
    exact .inr ⟨stage, cause, hfails, hstatus, fun _ => disk_spent order machine⟩
  · rw [hrun]
    simp only [Machine.run_bind]
    rcases hwriting : (Disk.publish directory files.toList :
      StateM Machine (Except Disk.PublishFault Unit)).run (order.spent machine)
        with ⟨outcome, after⟩
    cases outcome with
    | error fault => exact .inr ⟨_, _, .writing hprepares hwriting, rfl, fun h => absurd rfl h⟩
    | ok _ => exact .inl ⟨directory, files, hprepares, hwriting, rfl⟩

end Runs

/-! ## Statuses -/

theorem exists_of_ofFile_error {path : String} {content : Except Disk.Fault Bytes}
    {failure : Failure} (h : Settings.ofFile path content = .error failure) :
    ∃ cause, failure = .settings cause := by
  unfold Settings.ofFile at h
  split at h
  · cases h
    exact ⟨_, rfl⟩
  · split at h
    · cases h
      exact ⟨_, rfl⟩
    · unfold Settings.ofToml at h
      split at h
      · cases h
        exact ⟨_, rfl⟩
      · split at h <;> cases h
        exact ⟨_, rfl⟩

theorem exists_of_withParameter_error {base : Settings} {parameter : Option String}
    {failure : Failure} (h : base.withParameter parameter = .error failure) :
    ∃ cause, failure = .settings cause := by
  cases parameter with
  | none => cases h
  | some text =>
      unfold Settings.withParameter Settings.apply at h
      rcases hpairs : base.applyPairs (Settings.pairs text) with ⟨after, refused⟩
      cases refused <;> simp only [hpairs] at h <;> cases h
      exact ⟨_, rfl⟩

theorem exists_of_settingsOn_error {order : Order} {disk : Disk} {request : Request}
    {failure : Failure} (h : order.settingsOn disk request = .error failure) :
    ∃ cause, failure = .settings cause := by
  unfold Order.settingsOn at h
  split at h
  · rename_i e hbase
    cases h
    unfold Order.baseOn at hbase
    split at hbase
    · cases hbase
    · exact exists_of_ofFile_error hbase
  · split at h
    · rename_i e hparameter
      cases h
      exact exists_of_withParameter_error hparameter
    · cases h

theorem exists_of_level_error {settings : Settings} {failure : Failure}
    (h : settings.level = .error failure) : ∃ cause, failure = .settings cause := by
  unfold Settings.level LogLevel.ofText at h
  dsimp only at h
  split at h <;> cases h
  exact ⟨_, rfl⟩

/-- No run ends with the status of a backend that was never made ready, nor with that of success. -/
theorem FailsAt.status_ne {order : Order} {machine : Machine} {stage : Stage} {cause : Cause}
    (h : FailsAt order machine stage cause) : cause.status ≠ 0 ∧ cause.status ≠ 18 := by
  cases h with
  | request _ => decide
  | writing _ _ => decide
  | settings _ hsettings =>
      obtain ⟨_, rfl⟩ := exists_of_settingsOn_error hsettings
      simp [Cause.status, Failure.code]
  | level _ _ hlevel =>
      obtain ⟨_, rfl⟩ := exists_of_level_error hlevel
      simp [Cause.status, Failure.code]
  | @generation _ _ _ failure _ _ _ hfiles =>
      have hgeneration := isGeneration_of_generate hfiles
      cases failure <;> simp_all [Cause.status, Failure.code, Failure.isGeneration]

/-- A command line that asks for files ends well or fails at one of its stages.  Its status is 0
exactly when all stages go well.  Otherwise it is that of the first stage that fails: 10 and the
number of the failure where that has one, as for settings, the log level and generation, and else 1,
as for a description that cannot be read or is none and for files that cannot be written.  Unless it
fails in writing, a failed run leaves the disk as it was; and no run ends with the status of a
backend that was never made ready. -/
theorem run_generate_ends {arguments : List String} {order : Order}
    (h : readCommand arguments = some (.generate order)) (machine : Machine) :
    let result := (run arguments : StateM Machine Report).run machine
    (Succeeds order machine ∨ ∃ stage cause, FailsAt order machine stage cause) ∧
    (result.1.status = 0 ↔ Succeeds order machine) ∧
    (∀ stage cause, FailsAt order machine stage cause →
      result.1.status = cause.status ∧ (stage ≠ .writing → result.2.disk = machine.disk)) ∧
    result.1.status ≠ 18 := by
  intro result
  have hresult : result = (execute (.generate order) : StateM Machine Report).run machine := by
    simp only [result, run, h]
  rw [hresult]
  rcases run_execute order machine with
    ⟨directory, files, hprepares, hwriting, hzero⟩ | ⟨stage, cause, hfails, hstatus, hdisk⟩
  · have hsucceeds : Succeeds order machine := ⟨directory, files, _, hprepares, hwriting⟩
    refine ⟨.inl hsucceeds, by simp [hzero, hsucceeds],
      fun stage cause hfails => ?_, by simp [hzero]⟩
    exact absurd hsucceeds hfails.not_succeeds
  · obtain ⟨hne, hready⟩ := hfails.status_ne
    refine ⟨.inr ⟨stage, cause, hfails⟩, ?_, fun other reason hother => ?_, hstatus ▸ hready⟩
    · simp [hstatus, hne, hfails.not_succeeds]
    · obtain ⟨rfl, rfl⟩ := hfails.unique hother
      exact ⟨hstatus, hdisk⟩

/-- A description whose parameter is refused, for a backend and at a log level that are not there
either: the run ends with the status of the parameter, and nothing is written.  A description of
nothing for the Go backend: the run ends well.  Standard input that cannot be read: the run ends
with the status of no numbered failure. -/
theorem run_generate_ends_refused :
    let arguments := ["generate", "--lang", "none", "--log-level", "loud", "-o", "out"]
    let order : Order := ⟨⟨some "none", none, some "loud", some "out"⟩, none, none⟩
    let machine : Machine := ⟨Disk.blank ["work"], .ok (Utf8.encode "\x7b\"parameter\": \"x\"\x7d")⟩
    let plain := ["generate", "--lang", "echo", "-o", "out"]
    let server : Order := ⟨⟨some "echo", none, none, some "out"⟩, none, none⟩
    let nothing : Machine := ⟨Disk.blank ["work"], .ok (Utf8.encode "\x7b\x7d")⟩
    let closed : Machine := ⟨Disk.blank ["work"], .error .isDirectory⟩
    (readCommand arguments = some (.generate order) ∧
      FailsAt order machine .settings (.numbered (.settings (.notPair "x"))) ∧
      ((run arguments : StateM Machine Report).run machine).1.status = 19 ∧
      ((run arguments : StateM Machine Report).run machine).2.disk = machine.disk) ∧
    (readCommand plain = some (.generate server) ∧ Succeeds server nothing ∧
      ((run plain : StateM Machine Report).run nothing).1.status = 0) ∧
    (FailsAt server closed .request .other ∧
      ((run plain : StateM Machine Report).run closed).1.status = 1) := by
  intro arguments order machine plain server nothing closed
  have hcommand : readCommand arguments = some (.generate order) := by decide +kernel
  have hplain : readCommand plain = some (.generate server) := by decide +kernel
  refine ⟨⟨hcommand, ?_⟩, ⟨hplain, ?_⟩, ?_⟩
  · have hrequest : order.requestOn machine =
        some { Request.empty with parameter := some "x" } := by
      decide +kernel
    have hsettings : order.settingsOn machine.disk { Request.empty with parameter := some "x" } =
        .error (.settings (.notPair "x")) := by decide +kernel
    have hfails := FailsAt.settings hrequest hsettings
    have hcode : (Cause.numbered (.settings (.notPair "x"))).status = 19 := rfl
    obtain ⟨-, -, hends, -⟩ := run_generate_ends hcommand machine
    obtain ⟨hstatus, hdisk⟩ := hends _ _ hfails
    exact ⟨hfails, hstatus.trans hcode, hdisk (by decide)⟩
  · have hrequest : server.requestOn nothing = some Request.empty := by decide +kernel
    have hsettings : server.settingsOn nothing.disk Request.empty =
        .ok { Settings.standard with backend := "echo", outputDir := "out" } := by decide +kernel
    have hsucceeds : Succeeds server nothing := by
      obtain ⟨content, hpages⟩ : ∃ content, Backend.echo.pages Request.empty none =
        [("dataObjs.go", content)] := ⟨_, rfl⟩
      have hfiles : filesOn nothing.disk
          { Settings.standard with backend := "echo", outputDir := "out" } Request.empty =
            .ok ⟨SortedMap.empty.insert "dataObjs.go" content⟩ := by
        have hgenerate := generate_builtin_of_found (find_standard echo_mem_standardBackends)
          (show Request.empty.services = (none : Option Service).toList from rfl)
        rw [hpages] at hgenerate
        exact hgenerate
      have hspent : server.spent nothing = ⟨Disk.blank ["work"], .ok []⟩ :=
        if_pos (by decide +kernel)
      have hwriting : (Disk.publish "out" [("dataObjs.go", content)] :
          StateM Machine (Except Disk.PublishFault Unit)).run ⟨Disk.blank ["work"], .ok []⟩ =
          (.ok (), ⟨((Disk.blank ["work"]).put ["work", "out"] .directory).put
            ["work", "out", "dataObjs.go"] (.file (Utf8.encode content)), .ok []⟩) := rfl
      exact ⟨"out", _, _, ⟨_, _, .info, hrequest, hsettings, by decide +kernel, hfiles, rfl⟩,
        hspent.symm ▸ hwriting⟩
    obtain ⟨-, hzero, -, -⟩ := run_generate_ends hplain nothing
    exact ⟨hsucceeds, hzero.2 hsucceeds⟩
  · have hfails : FailsAt server closed .request .other := .request (by decide +kernel)
    obtain ⟨-, -, hends, -⟩ := run_generate_ends hplain closed
    exact ⟨hfails, (hends _ _ hfails).1⟩

/-- After a run that ends well, each path of its files holds the content of the last of them that
goes to the same place.  So where their names are plain, every file holds its own content. -/
theorem read_after_run {arguments : List String} {order : Order}
    (h : readCommand arguments = some (.generate order)) (machine : Machine) :
    let result := (run arguments : StateM Machine Report).run machine
    result.1.status = 0 → ∃ directory files, Prepares order machine directory files ∧
      (∀ before last rest, files.toList = before ++ last :: rest →
        Disk.destination machine.disk.home directory last ∉
          Disk.destinations machine.disk.home directory rest →
        ∀ file ∈ files.toList, Disk.destination machine.disk.home directory file =
          Disk.destination machine.disk.home directory last →
          result.2.disk.read (Path.join directory file.1) = .ok (Utf8.encode last.2)) ∧
      ((∀ file ∈ files.toList, Path.isPlain file.1 = true) → ∀ file ∈ files.toList,
        result.2.disk.read (Path.join directory file.1) = .ok (Utf8.encode file.2)) := by
  intro result hzero
  have hresult : result = (execute (.generate order) : StateM Machine Report).run machine := by
    simp only [result, run, h]
  rw [hresult] at hzero ⊢
  rcases run_execute order machine with
    ⟨directory, files, hprepares, hwriting, -⟩ | ⟨stage, cause, hfails, hstatus, -⟩
  · refine ⟨directory, files, hprepares, fun before last rest hfiles hlast file hfile hsame => ?_,
      Disk.forall_read_of_isPlain hwriting⟩
    rw [← disk_spent order machine] at hlast hsame
    rw [hfiles] at hwriting hfile
    exact Disk.read_of_same_destination hwriting hlast hfile hsame
  · exact absurd (hstatus.symm.trans hzero) hfails.status_ne.1

end CommandLine

end ApiStubs
