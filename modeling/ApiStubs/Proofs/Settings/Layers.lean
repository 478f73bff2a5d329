import ApiStubs.Proofs.CommandLine
import ApiStubs.Proofs.Settings.Parameter

/-!
# Where settings come from

A setting is what its flag says, or else the last pair for it in the parameter, or else the settings
file, or else the standard.  What each of these sources gives is told setting by setting, from the
source alone.  Only the file and the parameter can be refused, and the file comes first.
-/

namespace ApiStubs

namespace Settings

/-! ## Flags -/

/-- What flags give a setting. -/
def Flags.get (flags : Flags) : Key → Option String
  | .backend => flags.backend
  | .templateDir => flags.templateDir
  | .logLevel => flags.logLevel
  | .outputDir => flags.outputDir

theorem get_withFlags (settings : Settings) (flags : Flags) (key : Key) :
    (settings.withFlags flags).get key = (flags.get key).or (settings.get key) := by
  cases key <;> simp [withFlags, get, Flags.get]

/-! ## Files -/

/-- The name of a setting in a file. -/
def Key.entry : Key → String
  | .backend => "backend"
  | .templateDir => "template_dir"
  | .logLevel => "log_level"
  | .outputDir => "output_dir"

/-- What a table gives a setting: the text under its name, or nothing if the name is not there. -/
inductive TableGives (entries : Toml.Entries) (key : Key) : Option String → Prop where
  | absent : findEntry key.entry entries = none → TableGives entries key none
  | text {value : String} : findEntry key.entry entries = some (.value (.text value)) →
    TableGives entries key (some value)

theorem TableGives.unique {entries : Toml.Entries} {key : Key} {value other : Option String}
    (h : TableGives entries key value) (hother : TableGives entries key other) : value = other := by
  cases h <;> cases hother <;> simp_all

/-- A table gives a setting something, or holds under its name what is no text. -/
theorem textOf_cases (entries : Toml.Entries) (key : Key) :
    (∃ value, TableGives entries key value ∧ textOf entries key.entry = .ok value) ∨
    (∀ value, ¬ TableGives entries key value) ∧
      textOf entries key.entry = .error (.wrongKind key.entry) := by
  unfold textOf
  split
  · rename_i hitem
    exact .inl ⟨none, .absent hitem, rfl⟩
  · rename_i value hitem
    exact .inl ⟨some value, .text hitem, rfl⟩
  · rename_i item htext hitem
    refine .inr ⟨fun value hvalue => ?_, rfl⟩
    cases hvalue with
    | absent hnone => simp [hitem] at hnone
    | text hsome => exact htext _ (Option.some.inj (hitem.symm.trans hsome))

/-- The settings of a table are what it gives them, or else the standard. -/
theorem ofEntries_cases (entries : Toml.Entries) :
    (∃ settings, ofEntries entries = .ok settings ∧
      ∀ key, ∃ value, TableGives entries key value ∧
        settings.get key = value.or (standard.get key)) ∨
    ∃ key, (∀ value, ¬ TableGives entries key value) ∧
      ofEntries entries = .error (.wrongKind key.entry) := by
  unfold ofEntries
  obtain ⟨backend, hbackend, hread⟩ | ⟨hnone, hread⟩ := textOf_cases entries .backend <;>
    simp only [Key.entry] at hread <;> rw [hread]
  case inr => exact .inr ⟨.backend, hnone, rfl⟩
  obtain ⟨templateDir, htemplateDir, hread⟩ | ⟨hnone, hread⟩ :=
    textOf_cases entries .templateDir <;>
    simp only [Key.entry] at hread <;> rw [hread]
  case inr => exact .inr ⟨.templateDir, hnone, rfl⟩
  obtain ⟨logLevel, hlogLevel, hread⟩ | ⟨hnone, hread⟩ := textOf_cases entries .logLevel <;>
    simp only [Key.entry] at hread <;> rw [hread]
  case inr => exact .inr ⟨.logLevel, hnone, rfl⟩
  obtain ⟨outputDir, houtputDir, hread⟩ | ⟨hnone, hread⟩ := textOf_cases entries .outputDir <;>
    simp only [Key.entry] at hread <;> rw [hread]
  case inr => exact .inr ⟨.outputDir, hnone, rfl⟩
  refine .inl ⟨_, rfl, fun key => ?_⟩
  cases key with
  | backend => exact ⟨backend, hbackend, by simp [get]⟩
  | templateDir => exact ⟨templateDir, htemplateDir, by simp [get, standard]⟩
  | logLevel => exact ⟨logLevel, hlogLevel, by simp [get]⟩
  | outputDir => exact ⟨outputDir, houtputDir, by simp [get]⟩

/-- What the content of a file gives a setting. -/
def ContentGives (content : Except Disk.Fault Bytes) (key : Key) (value : Option String) : Prop :=
  ∃ bytes document entries, content = .ok bytes ∧ Utf8.decode? bytes = some document ∧
    Toml.entriesOfDocument document = .ok entries ∧ TableGives entries key value

/-- Why a file is refused: it cannot be read, or is no document, or has a setting that is no
text. -/
inductive FileRefused (path : String) (content : Except Disk.Fault Bytes) : Fault → Prop where
  | unread {cause : Disk.Fault} : content = .error cause →
    FileRefused path content (.unreadable path cause)
  | notText {bytes : Bytes} : content = .ok bytes → Utf8.decode? bytes = none →
    FileRefused path content (.unreadable path .notText)
  | noDocument {bytes : Bytes} {document : String} {cause : Toml.Fault} : content = .ok bytes →
    Utf8.decode? bytes = some document → Toml.entriesOfDocument document = .error cause →
    FileRefused path content (.toml cause)
  | wrongKind {bytes : Bytes} {document : String} {entries : Toml.Entries}
    {key : Key} : content = .ok bytes →
    Utf8.decode? bytes = some document → Toml.entriesOfDocument document = .ok entries →
    (∀ value, ¬ TableGives entries key value) →
      FileRefused path content (.toml (.wrongKind key.entry))

section Files

variable {path : String} {content : Except Disk.Fault Bytes} {key : Key}

theorem ContentGives.unique {value other : Option String} (h : ContentGives content key value)
    (hother : ContentGives content key other) : value = other := by
  obtain ⟨bytes, document, entries, rfl, hdocument, hentries, hvalue⟩ := h
  obtain ⟨_, _, _, ⟨⟩, hdocument', hentries', hvalue'⟩ := hother
  cases hdocument.symm.trans hdocument'
  cases hentries.symm.trans hentries'
  exact hvalue.unique hvalue'

/-- A file that is refused lacks a setting. -/
theorem FileRefused.exists_lacking {fault : Fault} (h : FileRefused path content fault) :
    ∃ key, ∀ value, ¬ ContentGives content key value := by
  cases h with
  | unread hcontent =>
    refine ⟨.backend, ?_⟩
    rintro value ⟨_, _, _, hbytes, -⟩
    simp [hcontent] at hbytes
  | notText hcontent hdecode =>
    refine ⟨.backend, ?_⟩
    rintro value ⟨_, _, _, hbytes, hdocument, -⟩
    simp_all
  | noDocument hcontent hdecode hparse =>
    refine ⟨.backend, ?_⟩
    rintro value ⟨_, _, _, hbytes, hdocument, hentries, -⟩
    simp_all
  | @wrongKind _ _ _ key hcontent hdecode hparse hlacks =>
    refine ⟨key, ?_⟩
    rintro value ⟨_, _, _, hbytes, hdocument, hentries, hvalue⟩
    simp_all

/-- The settings of a file are what it gives them, or else the standard, if it is not refused. -/
theorem ofFile_cases (path : String) (content : Except Disk.Fault Bytes) :
    (∃ settings, ofFile path content = .ok settings ∧
      ∀ key, ∃ value, ContentGives content key value ∧
        settings.get key = value.or (standard.get key)) ∨
    ∃ fault, FileRefused path content fault ∧ ofFile path content = .error (.settings fault) := by
  cases hcontent : content with
  | error cause => exact .inr ⟨_, .unread rfl, rfl⟩
  | ok bytes =>
    unfold ofFile
    cases hdecode : Utf8.decode? bytes with
    | none => exact .inr ⟨_, .notText rfl hdecode, by simp only [hdecode]⟩
    | some document =>
      simp only [hdecode]
      unfold ofToml
      cases hparse : Toml.entriesOfDocument document with
      | error cause => exact .inr ⟨_, .noDocument rfl hdecode hparse, rfl⟩
      | ok entries =>
        rcases ofEntries_cases entries with ⟨settings, hsettings, hvalues⟩ | ⟨key, hlacks, hkey⟩
        · refine .inl ⟨settings, by simp only [hsettings], fun key => ?_⟩
          obtain ⟨value, hvalue, hget⟩ := hvalues key
          exact ⟨value, ⟨bytes, document, entries, rfl, hdecode, hparse, hvalue⟩, hget⟩
        · exact .inr ⟨_, .wrongKind rfl hdecode hparse hlacks, by simp only [hkey]⟩

end Files

/-! ## Parameters -/

/-- The pairs of a parameter; a parameter that is not there has none. -/
def pairsOf (parameter : Option String) : List String := parameter.elim [] pairs

theorem withParameter_of_good {parameter : Option String}
    (h : ∀ pair ∈ pairsOf parameter, ¬ IsBad pair) (settings : Settings) :
    ∃ after, settings.withParameter parameter = .ok after ∧
      ∀ key, ∃ given, LastGiven (pairsOf parameter) key given ∧
        after.get key = given.or (settings.get key) := by
  cases parameter with
  | none => exact ⟨settings, rfl, fun key => ⟨none, lastGiven_nil key, rfl⟩⟩
  | some text =>
    obtain ⟨after, hafter, hvalues⟩ := apply_of_good h settings
    exact ⟨after, by rw [withParameter, hafter], hvalues⟩

theorem withParameter_of_bad {parameter : Option String} {good later : List String} {pair : String}
    {fault : Fault} (hpairs : pairsOf parameter = good ++ pair :: later)
    (hgood : ∀ pair ∈ good, ¬ IsBad pair) (hfault : Refuses pair fault) (settings : Settings) :
    settings.withParameter parameter = .error (.settings fault) := by
  cases parameter with
  | none => simp [pairsOf] at hpairs
  | some text =>
    obtain ⟨after, hafter, -⟩ := apply_of_bad hpairs hgood hfault settings
    rw [withParameter, hafter]

end Settings

namespace CommandLine

open Settings

/-! ## All sources -/

/-- What the settings file gives a setting; a file that is not there gives nothing. -/
def Order.FileGives (order : Order) (disk : Disk) (key : Key) (value : Option String) : Prop :=
  match order.config with
  | none => value = none
  | some path => ContentGives (disk.read path) key value

/-- Why the settings file is refused. -/
def Order.FileRefused (order : Order) (disk : Disk) (fault : Settings.Fault) : Prop :=
  ∃ path, order.config = some path ∧ Settings.FileRefused path (disk.read path) fault

/-- Two runs have the same sources for a setting. -/
structure SameSources (order other : Order) (request otherRequest : Request) (disk otherDisk : Disk)
    (key : Key) : Prop where
  flag : order.flags.get key = other.flags.get key
  given : ∀ value, LastGiven (pairsOf request.parameter) key value ↔
    LastGiven (pairsOf otherRequest.parameter) key value
  filed : ∀ value, order.FileGives disk key value ↔ other.FileGives otherDisk key value

section Layers

variable {order : Order} {disk : Disk} {key : Key}

theorem Order.FileGives.unique {value other : Option String} (h : order.FileGives disk key value)
    (hother : order.FileGives disk key other) : value = other := by
  unfold FileGives at h hother
  cases hconfig : order.config with
  | none =>
    rw [hconfig] at h hother
    exact h.trans hother.symm
  | some path =>
    rw [hconfig] at h hother
    exact ContentGives.unique h hother

theorem Order.FileRefused.exists_lacking {fault : Settings.Fault}
    (h : order.FileRefused disk fault) :
    ∃ key, ∀ value, ¬ order.FileGives disk key value := by
  obtain ⟨path, hconfig, hrefused⟩ := h
  unfold FileGives
  rw [hconfig]
  exact hrefused.exists_lacking

theorem baseOn_cases (order : Order) (disk : Disk) :
    (∃ base, order.baseOn disk = .ok base ∧
      ∀ key, ∃ value, order.FileGives disk key value ∧ base.get key = value.or (standard.get key)) ∨
    ∃ fault, order.FileRefused disk fault ∧ order.baseOn disk = .error (.settings fault) := by
  unfold Order.baseOn Order.FileGives Order.FileRefused
  cases order.config with
  | none => exact .inl ⟨standard, rfl, fun key => ⟨none, rfl, rfl⟩⟩
  | some path =>
    rcases ofFile_cases path (disk.read path) with hsettings | ⟨fault, hrefused, hfault⟩
    · exact .inl hsettings
    · exact .inr ⟨fault, ⟨path, rfl, hrefused⟩, hfault⟩

/-- The file is refused, or a pair of the parameter is, or each setting is settled by its
sources. -/
theorem run_resolve_cases (order : Order) (request : Request) (machine : Machine) :
    (∃ cause, order.FileRefused machine.disk cause ∧
      (resolve order request : StateM Machine _).run machine =
        (.error (.settings (.settings cause)), machine)) ∨
    ((∀ cause, ¬ order.FileRefused machine.disk cause) ∧
      ∃ good pair later cause, pairsOf request.parameter = good ++ pair :: later ∧
        (∀ pair ∈ good, ¬ IsBad pair) ∧ Refuses pair cause ∧
        (resolve order request : StateM Machine _).run machine =
          (.error (.parameter (.settings cause)), machine)) ∨
    (∀ cause, ¬ order.FileRefused machine.disk cause) ∧
      (∀ pair ∈ pairsOf request.parameter, ¬ IsBad pair) ∧
      ∃ settings, (resolve order request : StateM Machine _).run machine = (.ok settings, machine) ∧
        ∀ key, ∃ given filed, LastGiven (pairsOf request.parameter) key given ∧
          order.FileGives machine.disk key filed ∧
          settings.get key = (order.flags.get key).or (given.or (filed.or (standard.get key))) := by
  rw [run_resolve]
  rcases baseOn_cases order machine.disk with ⟨base, hbase, hfiled⟩ | ⟨cause, hrefused, hcause⟩
  · have hfile : ∀ cause, ¬ order.FileRefused machine.disk cause := by
      intro cause hrefused
      obtain ⟨key, hlacks⟩ := hrefused.exists_lacking
      obtain ⟨value, hvalue, -⟩ := hfiled key
      exact hlacks value hvalue
    refine .inr ?_
    simp only [hbase]
    obtain ⟨good, rest, hpairs, hgood, hrest⟩ := exists_first_bad (pairsOf request.parameter)
    rcases hrest with rfl | ⟨pair, later, rfl, cause, hcause⟩
    · rw [List.append_nil] at hpairs
      rw [← hpairs] at hgood
      obtain ⟨after, hafter, hgiven⟩ := withParameter_of_good hgood base
      refine .inr ⟨hfile, hgood, after.withFlags order.flags, by rw [hafter], fun key => ?_⟩
      obtain ⟨given, hlast, hget⟩ := hgiven key
      obtain ⟨filed, hvalue, hbaseGet⟩ := hfiled key
      exact ⟨given, filed, hlast, hvalue, by rw [get_withFlags, hget, hbaseGet]⟩
    · refine .inl ⟨hfile, good, pair, later, cause, hpairs, hgood, hcause, ?_⟩
      rw [withParameter_of_bad hpairs hgood hcause base]
  · exact .inl ⟨cause, hrefused, by simp only [hcause]⟩

/-- Flags do not count for what is refused before them. -/
theorem run_resolve_of_refused {request : Request} {machine : Machine} {fault : Fault}
    (flags : Flags)
    (h : (resolve order request : StateM Machine _).run machine = (.error fault, machine)) :
    (resolve { order with flags := flags } request : StateM Machine _).run machine =
      (.error fault, machine) := by
  rw [run_resolve] at h ⊢
  have hbase : Order.baseOn { order with flags := flags } machine.disk =
      order.baseOn machine.disk := rfl
  rw [hbase]
  cases hfile : order.baseOn machine.disk with
  | error cause => rwa [hfile] at h
  | ok base =>
    simp only [hfile] at h ⊢
    cases hparameter : base.withParameter request.parameter with
    | error cause => rwa [hparameter] at h
    | ok settings =>
      rw [hparameter] at h
      cases h

theorem get_of_run_resolve {request : Request} {machine : Machine} {settings : Settings}
    (h : (resolve order request : StateM Machine _).run machine = (.ok settings, machine))
    (key : Key) :
    ∃ given filed, LastGiven (pairsOf request.parameter) key given ∧
      order.FileGives machine.disk key filed ∧
      settings.get key = (order.flags.get key).or (given.or (filed.or (standard.get key))) := by
  rcases run_resolve_cases order request machine with
    ⟨_, -, hrun⟩ | ⟨-, _, _, _, _, -, -, -, hrun⟩ | ⟨-, -, found, hrun, hvalues⟩
  · cases h.symm.trans hrun
  · cases h.symm.trans hrun
  · cases h.symm.trans hrun
    exact hvalues key

/-- A setting does not depend on what is said about other settings. -/
theorem get_eq_of_sameSources {other : Order} {request otherRequest : Request}
    {machine otherMachine : Machine} {settings found : Settings}
    (h : (resolve order request : StateM Machine _).run machine = (.ok settings, machine))
    (hother : (resolve other otherRequest : StateM Machine _).run otherMachine =
      (.ok found, otherMachine))
    (hsame : SameSources order other request otherRequest machine.disk otherMachine.disk key) :
    settings.get key = found.get key := by
  obtain ⟨given, filed, hgiven, hfiled, hget⟩ := get_of_run_resolve h key
  obtain ⟨given', filed', hgiven', hfiled', hget'⟩ := get_of_run_resolve hother key
  have hlast : given = given' := ((hsame.given given).1 hgiven).unique hgiven'
  have hfile : filed = filed' := ((hsame.filed filed).1 hfiled).unique hfiled'
  rw [hget, hget', hsame.flag, hlast, hfile]

end Layers

/-- The settings of a run.  They are refused if the settings file is, whatever the parameter, or
else for the first bad pair of the parameter, and flags do not change that.  Otherwise each setting
is what its flag says, or else the last pair for it, or else the file, or else the standard, and
nothing that is said about other settings counts for it. -/
theorem resolve_by_layers (order : Order) (request : Request) (machine : Machine) :
    ∃ answer, (resolve order request : StateM Machine _).run machine = (answer, machine) ∧
      ((∃ fault, answer = .error fault) ↔
        (∃ cause, order.FileRefused machine.disk cause) ∨ ∃ pair ∈ pairsOf request.parameter,
          IsBad pair) ∧
      (∀ fault, answer = .error fault →
        (∃ cause, order.FileRefused machine.disk cause ∧ fault = .settings (.settings cause)) ∨
        (∀ cause, ¬ order.FileRefused machine.disk cause) ∧
          ∃ good pair later cause, pairsOf request.parameter = good ++ pair :: later ∧
            (∀ pair ∈ good, ¬ IsBad pair) ∧ Refuses pair cause ∧
              fault = .parameter (.settings cause)) ∧
      (∀ fault flags, answer = .error fault →
        (resolve { order with flags := flags } request : StateM Machine _).run machine =
          (answer, machine)) ∧
      ∀ settings, answer = .ok settings →
        (∀ key, ∃ given filed, LastGiven (pairsOf request.parameter) key given ∧
          order.FileGives machine.disk key filed ∧
          settings.get key = (order.flags.get key).or (given.or (filed.or (standard.get key)))) ∧
        ∀ other otherRequest otherMachine found key,
          (resolve other otherRequest : StateM Machine _).run otherMachine =
            (.ok found, otherMachine) →
          SameSources order other request otherRequest machine.disk otherMachine.disk key →
          settings.get key = found.get key := by
  rcases run_resolve_cases order request machine with
    ⟨cause, hrefused, hrun⟩ | ⟨hfile, good, pair, later, cause, hpairs, hgood, hcause, hrun⟩ |
    ⟨hfile, hgood, settings, hrun, hvalues⟩
  · refine ⟨_, hrun, ⟨fun _ => .inl ⟨cause, hrefused⟩, fun _ => ⟨_, rfl⟩⟩, ?_, ?_, ?_⟩
    · rintro _ ⟨⟩
      exact .inl ⟨cause, hrefused, rfl⟩
    · intro _ flags _
      exact run_resolve_of_refused flags hrun
    · rintro _ ⟨⟩
  · have hpair : pair ∈ pairsOf request.parameter := by
      rw [hpairs]
      exact List.mem_append_right _ List.mem_cons_self
    refine ⟨_, hrun, ⟨fun _ => .inr ⟨pair, hpair, cause, hcause⟩, fun _ => ⟨_, rfl⟩⟩, ?_, ?_, ?_⟩
    · rintro _ ⟨⟩
      exact .inr ⟨hfile, good, pair, later, cause, hpairs, hgood, hcause, rfl⟩
    · intro _ flags _
      exact run_resolve_of_refused flags hrun
    · rintro _ ⟨⟩
  · refine ⟨_, hrun, ⟨?_, ?_⟩, ?_, ?_, ?_⟩
    · rintro ⟨_, ⟨⟩⟩
    · rintro (⟨cause, hrefused⟩ | ⟨pair, hpair, hbad⟩)
      · exact absurd hrefused (hfile cause)
      · exact absurd hbad (hgood pair hpair)
    · rintro _ ⟨⟩
    · rintro _ _ ⟨⟩
    · rintro _ ⟨⟩
      refine ⟨hvalues, ?_⟩
      intro other otherRequest otherMachine found key hother hsame
      exact get_eq_of_sameSources hrun hother hsame

/-- With a file, a parameter and a flag; other flags for two of the settings do not change the
others. -/
theorem resolve_by_layers_mixed :
    let order : Order := ⟨⟨none, none, none, some "out"⟩, none, some "api.toml"⟩
    let request : Request :=
      { Request.empty with parameter := some "lang=go, log_level = warn,lang=php" }
    let file : Bytes := Utf8.encode "log_level = 'debug'\noutput_dir = 'gen'\ntemplate_dir = 't'\n"
    let machine : Machine := ⟨(Disk.blank ["work"]).place "api.toml" (.file file), .ok []⟩
    (resolve order request : StateM Machine _).run machine =
      (.ok ⟨"php", some "t", "warn", "out"⟩, machine) ∧
      ∀ logLevel outputDir found,
        (resolve { order with flags := ⟨none, none, logLevel, outputDir⟩ } request :
            StateM Machine _).run machine = (.ok found, machine) →
        found.backend = "php" ∧ found.templateDir = some "t" := by
  intro order request file machine
  have hsettings : order.settingsOn machine.disk request =
      .ok ⟨"php", some "t", "warn", "out"⟩ := by
    decide +kernel
  have hrun := run_resolve_of_ok hsettings
  obtain ⟨answer, hanswer, -, -, -, hok⟩ := resolve_by_layers order request machine
  cases hrun.symm.trans hanswer
  obtain ⟨-, hsame⟩ := hok _ rfl
  refine ⟨hrun, fun logLevel outputDir found hfound => ?_⟩
  have hbackend :=
    hsame _ request machine found .backend hfound ⟨rfl, fun _ => Iff.rfl, fun _ => Iff.rfl⟩
  have htemplateDir :=
    hsame _ request machine found .templateDir hfound ⟨rfl, fun _ => Iff.rfl, fun _ => Iff.rfl⟩
  exact ⟨(Option.some.inj hbackend).symm, htemplateDir.symm⟩

end CommandLine

end ApiStubs
