import ApiStubs.Proofs.Text.Blank
import ApiStubs.Proofs.Text.Pieces
import ApiStubs.Settings.Parameter
import Mathlib.Data.List.Forall2

/-!
# What a parameter means

A parameter is read pair by pair.  `Gives` says which setting a pair gives a value to, and `Refuses`
why a pair is bad, both from the text of the pair alone.  Each setting ends up with the value of the
last pair for it before the first bad one, and stays as it was if there is none.  So a comma between
two parameters is the same as applying one after the other.
-/

namespace ApiStubs.Settings

/-! ## Settings by key -/

/-- What the settings hold under a key. -/
def get (settings : Settings) : Key → Option String
  | .backend => some settings.backend
  | .templateDir => settings.templateDir
  | .logLevel => some settings.logLevel
  | .outputDir => some settings.outputDir

/-- A change of one setting leaves the others alone. -/
theorem get_set (settings : Settings) (key other : Key) (value : String) :
    (settings.set key value).get other = if key = other then some value else
      settings.get other := by
  cases key <;> cases other <;> rfl

/-- The names of a setting in a parameter. -/
def Key.names : Key → List String
  | .backend => ["lang", "backend"]
  | .templateDir => ["template_dir"]
  | .logLevel => ["log_level"]
  | .outputDir => ["output_dir"]

theorem Key.ofText?_eq_some_iff (text : String) (key : Key) :
    ofText? text = some key ↔ text ∈ key.names := by
  unfold ofText?
  cases key <;> grind [names]

theorem Key.ofText?_eq_none_iff (text : String) : ofText? text = none ↔ ∀ key :
    Key, text ∉ key.names := by
  rw [Option.eq_none_iff_forall_ne_some]
  exact forall_congr' fun key => not_congr (ofText?_eq_some_iff text key)

/-! ## Pairs -/

/-- A parameter has pairs with commas between them.  Blanks around a pair do not count, and what is
nothing but blanks is no pair. -/
def HasPairs (parameter : String) (pairs : List String) : Prop :=
  ∃ segments trimmed, parameter = Text.joinWith "," segments ∧
    (∀ segment ∈ segments, ',' ∉ segment.toList) ∧
    List.Forall₂ Text.Trims segments trimmed ∧ pairs = trimmed.filter fun pair => pair ≠ ""

theorem hasPairs_pairs (parameter : String) : HasPairs parameter (pairs parameter) := by
  refine ⟨Text.segments ',' parameter, _, (Text.joinWith_segments ',' parameter).symm, ?_, ?_, rfl⟩
  · intro segment hsegment
    obtain ⟨piece, hpiece, rfl⟩ := List.mem_map.1 hsegment
    rw [String.toList_ofList]
    exact Text.not_mem_of_mem_pieces hpiece
  · rw [List.forall₂_map_right_iff, List.forall₂_same]
    exact fun segment _ => Text.trims_trim segment

/-- A pair has a name before its first equals sign and a value behind it, neither with blanks
around. -/
def Splits (pair name value : String) : Prop :=
  ∃ before after, '=' ∉ before.toList ∧ pair = before ++ "=" ++ after ∧
    Text.Trims before name ∧ Text.Trims after value

/-- A pair gives a value to a setting, under one of its names. -/
def Gives (pair : String) (key : Key) (value : String) : Prop :=
  ∃ name ∈ key.names, Splits pair name value

/-- A pair is bad: it has no equals sign, or what stands before the first one is no name of a
setting. -/
inductive Refuses (pair : String) : Fault → Prop where
  | notPair : '=' ∉ pair.toList → Refuses pair (.notPair pair)
  | unknownKey {name value : String} : Splits pair name value → (∀ key : Key, name ∉ key.names) →
    Refuses pair (.unknownKey name)

/-- Whether there is something wrong with a pair. -/
def IsBad (pair : String) : Prop := ∃ fault, Refuses pair fault

theorem splits_iff (pair name value : String) :
    Splits pair name value ↔ ∃ before after, Text.splitOnce '=' pair.toList = some (before, after) ∧
      name = Text.trim (String.ofList before) ∧ value = Text.trim (String.ofList after) := by
  constructor
  · rintro ⟨before, after, hfirst, rfl, hname, hvalue⟩
    refine ⟨before.toList, after.toList, Text.splitOnce_eq_some_iff.2 ⟨hfirst, by simp⟩, ?_, ?_⟩
    · rw [String.ofList_toList]
      exact hname.eq_trim
    · rw [String.ofList_toList]
      exact hvalue.eq_trim
  · rintro ⟨before, after, hsplit, rfl, rfl⟩
    obtain ⟨hfirst, hpair⟩ := Text.splitOnce_eq_some_iff.1 hsplit
    refine ⟨String.ofList before, String.ofList after, by simpa using hfirst, ?_, Text.trims_trim _,
      Text.trims_trim _⟩
    exact String.toList_inj.1 (by simpa using hpair)

theorem not_splits_of_none {pair : String} (h : Text.splitOnce '=' pair.toList = none)
    (name value : String) :
    ¬ Splits pair name value := by
  rw [splits_iff, h]
  simp

theorem splits_iff_of_some {pair : String} {before after : List Char}
    (h : Text.splitOnce '=' pair.toList = some (before, after)) (name value : String) :
    Splits pair name value ↔
      name = Text.trim (String.ofList before) ∧ value = Text.trim (String.ofList after) := by
  rw [splits_iff, h]
  simp

/-- A pair is read as the setting and the value that it gives. -/
theorem readPair_eq_ok_iff (pair : String) (key : Key) (value : String) :
    readPair pair = .ok (key, value) ↔ Gives pair key value := by
  unfold readPair Gives
  cases hsplit : Text.splitOnce '=' pair.toList with
  | none => simp [not_splits_of_none hsplit]
  | some cut =>
    obtain ⟨before, after⟩ := cut
    cases hkey : Key.ofText? (Text.trim (String.ofList before)) with
    | none =>
      have hnames := (Key.ofText?_eq_none_iff _).1 hkey
      simp [splits_iff_of_some hsplit, hkey, hnames]
    | some found =>
      have hnames : Text.trim (String.ofList before) ∈ key.names ↔ found = key := by
        rw [← Key.ofText?_eq_some_iff, hkey, Option.some_inj]
      simp [splits_iff_of_some hsplit, hkey, hnames, eq_comm]

/-- A pair is refused for what is wrong with it. -/
theorem readPair_eq_error_iff (pair : String) (fault : Fault) :
    readPair pair = .error fault ↔ Refuses pair fault := by
  unfold readPair
  cases hsplit : Text.splitOnce '=' pair.toList with
  | none =>
    have hsign := Text.splitOnce_eq_none_iff.1 hsplit
    constructor
    · rintro ⟨⟩
      exact .notPair hsign
    · rintro (_ | ⟨hsplits, _⟩)
      · rfl
      · exact absurd hsplits (not_splits_of_none hsplit _ _)
  | some cut =>
    obtain ⟨before, after⟩ := cut
    have hsign : '=' ∈ pair.toList := by
      rw [(Text.splitOnce_eq_some_iff.1 hsplit).2]
      simp
    have hsplits := (splits_iff_of_some hsplit _ _).2 ⟨rfl, rfl⟩
    cases hkey : Key.ofText? (Text.trim (String.ofList before)) with
    | none =>
      simp only [hkey]
      constructor
      · rintro ⟨⟩
        exact .unknownKey hsplits ((Key.ofText?_eq_none_iff _).1 hkey)
      · rintro (hnone | ⟨hother, _⟩)
        · exact absurd hsign hnone
        · obtain ⟨rfl, -⟩ := (splits_iff_of_some hsplit _ _).1 hother
          rfl
    | some found =>
      simp only [hkey]
      constructor
      · rintro ⟨⟩
      · rintro (hnone | ⟨hother, hunknown⟩)
        · exact absurd hsign hnone
        · obtain ⟨rfl, -⟩ := (splits_iff_of_some hsplit _ _).1 hother
          exact absurd ((Key.ofText?_eq_some_iff _ _).1 hkey) (hunknown found)

/-- A pair is bad or gives a value to a setting. -/
theorem isBad_or_gives (pair : String) : IsBad pair ∨ ∃ key value, Gives pair key value := by
  cases hpair : readPair pair with
  | error fault => exact .inl ⟨fault, (readPair_eq_error_iff pair fault).1 hpair⟩
  | ok given => exact .inr ⟨given.1, given.2, (readPair_eq_ok_iff pair given.1 given.2).1 hpair⟩

/-- A pair gives one value to one setting. -/
theorem Gives.unique {pair value other : String} {key found : Key} (h : Gives pair key value)
    (hother : Gives pair found other) : key = found ∧ value = other := by
  have hpair := (readPair_eq_ok_iff pair key value).2 h
  rw [(readPair_eq_ok_iff pair found other).2 hother] at hpair
  cases hpair
  exact ⟨rfl, rfl⟩

/-! ## The last pair for a setting -/

/-- What pairs give a setting: the value of the last one for it, or nothing if there is none. -/
def LastGiven (pairs : List String) (key : Key) : Option String → Prop
  | none => ∀ pair ∈ pairs, ∀ value, ¬ Gives pair key value
  | some value => ∃ earlier pair later, pairs = earlier ++ pair :: later ∧ Gives pair key value ∧
      ∀ other ∈ later, ∀ value, ¬ Gives other key value

theorem lastGiven_nil (key : Key) : LastGiven [] key none := nofun

/-- A pair in front counts if none behind it is for the same setting. -/
theorem LastGiven.cons {pairs : List String} {key : Key} {given : Option String}
    (h : LastGiven pairs key given) {pair value : String} {found : Key}
    (hpair : Gives pair found value) :
    LastGiven (pair :: pairs) key (given.or (if found = key then some value else none)) := by
  cases given with
  | some last =>
    obtain ⟨earlier, other, later, rfl, hother, hlater⟩ := h
    exact ⟨pair :: earlier, other, later, rfl, hother, hlater⟩
  | none =>
    by_cases hkey : found = key
    · subst hkey
      simp only [Option.none_or, if_true]
      exact ⟨[], pair, pairs, rfl, hpair, h⟩
    · simp only [Option.none_or, if_neg hkey]
      refine List.forall_mem_cons.2 ⟨fun other hother => ?_, h⟩
      exact hkey (hpair.unique hother).1

/-- Of two pairs for a setting behind which there is none, neither stands behind the other. -/
theorem eq_of_last {earlier later last : List String} {key : Key} {pair other value : String}
    (h : pair :: later = earlier ++ other :: last) (hother : Gives other key value)
    (hlater : ∀ pair ∈ later, ∀ value, ¬ Gives pair key value) : pair = other := by
  cases earlier with
  | nil => exact (List.cons.inj h).1
  | cons first between =>
    obtain ⟨-, rfl⟩ := List.cons.inj h
    exact absurd hother (hlater other (List.mem_append_right _ List.mem_cons_self) value)

/-- There is one last value. -/
theorem LastGiven.unique {pairs : List String} {key : Key} {given found : Option String}
    (h : LastGiven pairs key given) (hfound : LastGiven pairs key found) : given = found := by
  cases given with
  | none =>
    cases found with
    | none => rfl
    | some value =>
      obtain ⟨earlier, pair, later, rfl, hpair, -⟩ := hfound
      exact absurd hpair (h pair (List.mem_append_right _ List.mem_cons_self) value)
  | some value =>
    obtain ⟨earlier, pair, later, rfl, hpair, hlater⟩ := h
    cases found with
    | none => exact absurd hpair (hfound pair (List.mem_append_right _ List.mem_cons_self) value)
    | some last =>
      obtain ⟨before, other, after, hsplit, hother, hafter⟩ := hfound
      have hsame : pair = other := by
        rcases List.append_eq_append_iff.1 hsplit with ⟨between, -, hbetween⟩
          | ⟨between, -, hbetween⟩
        · exact eq_of_last hbetween hother hlater
        · exact (eq_of_last hbetween hpair hafter).symm
      subst hsame
      rw [(hpair.unique hother).2]

/-! ## Pairs one after the other -/

theorem applyPairs_cons_of_gives {pair value : String} {key : Key} (h : Gives pair key value)
    (settings : Settings) (rest : List String) :
    settings.applyPairs (pair :: rest) = (settings.set key value).applyPairs rest := by
  rw [applyPairs, (readPair_eq_ok_iff pair key value).2 h]

theorem applyPairs_cons_of_refuses {pair : String} {fault : Fault} (h : Refuses pair fault)
    (settings : Settings) (rest : List String) :
    settings.applyPairs (pair :: rest) = (settings, some fault) := by
  rw [applyPairs, (readPair_eq_error_iff pair fault).2 h]

/-- More pairs are applied if none of the pairs before them was refused. -/
theorem applyPairs_append (settings : Settings) (pairs more : List String) :
    settings.applyPairs (pairs ++ more) =
      match settings.applyPairs pairs with
      | (after, none) => after.applyPairs more
      | (after, some fault) => (after, some fault) := by
  induction pairs generalizing settings with
  | nil => rfl
  | cons pair rest ih =>
    rw [List.cons_append]
    rcases isBad_or_gives pair with ⟨fault, hfault⟩ | ⟨key, value, hgives⟩
    · rw [applyPairs_cons_of_refuses hfault, applyPairs_cons_of_refuses hfault]
    · rw [applyPairs_cons_of_gives hgives, applyPairs_cons_of_gives hgives]
      exact ih _

/-- After good pairs the settings hold the last value that was given for each. -/
theorem applyPairs_of_good {pairs : List String} (hgood : ∀ pair ∈ pairs, ¬ IsBad pair)
    (settings : Settings) :
    ∃ after, settings.applyPairs pairs = (after, none) ∧
      ∀ key, ∃ given, LastGiven pairs key given ∧ after.get key = given.or (settings.get key) := by
  induction pairs generalizing settings with
  | nil => exact ⟨settings, rfl, fun key => ⟨none, lastGiven_nil key, rfl⟩⟩
  | cons pair rest ih =>
    obtain ⟨hpair, hrest⟩ := List.forall_mem_cons.1 hgood
    obtain ⟨found, value, hgives⟩ := (isBad_or_gives pair).resolve_left hpair
    obtain ⟨after, hafter, hvalues⟩ := ih hrest (settings.set found value)
    refine ⟨after, (applyPairs_cons_of_gives hgives settings rest).trans hafter, fun key => ?_⟩
    obtain ⟨given, hgiven, hget⟩ := hvalues key
    refine ⟨_, hgiven.cons hgives, ?_⟩
    rw [hget, get_set]
    split
    · simp
    · simp

/-- Pairs are good up to the first bad one. -/
theorem exists_first_bad (pairs : List String) :
    ∃ good rest, pairs = good ++ rest ∧ (∀ pair ∈ good, ¬ IsBad pair) ∧
      (rest = [] ∨ ∃ pair later, rest = pair :: later ∧ IsBad pair) := by
  induction pairs with
  | nil => exact ⟨[], [], rfl, nofun, .inl rfl⟩
  | cons pair more ih =>
    by_cases hpair : IsBad pair
    · exact ⟨[], pair :: more, rfl, nofun, .inr ⟨pair, more, rfl, hpair⟩⟩
    · obtain ⟨good, rest, rfl, hgood, hrest⟩ := ih
      exact ⟨pair :: good, rest, rfl, List.forall_mem_cons.2 ⟨hpair, hgood⟩, hrest⟩

/-! ## Parameters -/

theorem pairs_comma (parameter more : String) :
    pairs (parameter ++ "," ++ more) = pairs parameter ++ pairs more := by
  have hsegments : Text.segments ',' (parameter ++ "," ++ more) =
      Text.segments ',' parameter ++ Text.segments ',' more :=
        Text.segments_separator ',' parameter more
  rw [pairs, hsegments, List.map_append, List.filter_append]
  rfl

section Parameters

variable {settings after : Settings} {parameter : String}

theorem apply_of_applyPairs {refused : Option Fault}
    (h : settings.applyPairs (pairs parameter) = (after, refused)) :
    settings.apply parameter = (after, refused.map Failure.settings) := by
  unfold apply
  rw [h]
  cases refused <;> rfl

/-- A parameter is applied if none of its pairs is bad. -/
theorem apply_of_good (h : ∀ pair ∈ pairs parameter, ¬ IsBad pair) (settings : Settings) :
    ∃ after, settings.apply parameter = (after, none) ∧
      ∀ key, ∃ given, LastGiven (pairs parameter) key given ∧
        after.get key = given.or (settings.get key) := by
  obtain ⟨after, hafter, hvalues⟩ := applyPairs_of_good h settings
  exact ⟨after, apply_of_applyPairs hafter, hvalues⟩

/-- A parameter with a bad pair is refused. -/
theorem apply_of_bad {good later : List String} {pair : String} {fault : Fault}
    (hpairs : pairs parameter = good ++ pair :: later) (hgood : ∀ pair ∈ good, ¬ IsBad pair)
    (hfault : Refuses pair fault) (settings : Settings) :
    ∃ after, settings.apply parameter = (after, some (.settings fault)) ∧
      ∀ key, ∃ given, LastGiven good key given ∧ after.get key = given.or (settings.get key) := by
  obtain ⟨after, hafter, hvalues⟩ := applyPairs_of_good hgood settings
  have hrun : settings.applyPairs (pairs parameter) = (after, some fault) := by
    rw [hpairs, applyPairs_append, hafter]
    exact applyPairs_cons_of_refuses hfault after later
  exact ⟨after, apply_of_applyPairs hrun, hvalues⟩

/-- Nothing is refused exactly when no pair is bad. -/
theorem apply_refuses_nothing_iff (settings : Settings) (parameter : String) :
    (settings.apply parameter).2 = none ↔ ∀ pair ∈ pairs parameter, ¬ IsBad pair := by
  constructor
  · intro hnone
    obtain ⟨good, rest, hpairs, hgood, rfl | ⟨pair, later, rfl, fault, hfault⟩⟩ :=
      exists_first_bad (pairs parameter)
    · rwa [hpairs, List.append_nil]
    · obtain ⟨after, hafter, -⟩ := apply_of_bad hpairs hgood hfault settings
      rw [hafter] at hnone
      cases hnone
  · intro hgood
    obtain ⟨after, hafter, -⟩ := apply_of_good hgood settings
    rw [hafter]

/-- A comma stands between parameters that are applied one after the other. -/
theorem apply_comma (settings : Settings) (parameter more : String) :
    settings.apply (parameter ++ "," ++ more) =
      match settings.apply parameter with
      | (after, none) => after.apply more
      | (after, some failure) => (after, some failure) := by
  have hpairs := applyPairs_append settings (pairs parameter) (pairs more)
  rw [← pairs_comma] at hpairs
  rcases hfirst : settings.applyPairs (pairs parameter) with ⟨after, refused⟩
  rw [hfirst] at hpairs
  rw [apply_of_applyPairs hfirst]
  cases refused with
  | none =>
    rw [apply_of_applyPairs hpairs]
    exact (apply_of_applyPairs rfl).symm
  | some fault => exact apply_of_applyPairs hpairs

end Parameters

/-- A parameter is applied if none of its pairs is bad, and is refused for the first bad one
otherwise.  Either way each setting holds the value of the last pair for it before that one, and is
as it was if there is none.  A comma stands between parameters that are applied one after the other,
the second if the first was not refused. -/
theorem apply_last_given (settings : Settings) (parameter : String) :
    (∃ listed, HasPairs parameter listed ∧
      ((settings.apply parameter).2 = none ↔ ∀ pair ∈ listed, ¬ IsBad pair) ∧
      ∃ good rest, listed = good ++ rest ∧ (∀ pair ∈ good, ¬ IsBad pair) ∧
        (∀ key, ∃ given, LastGiven good key given ∧
          (settings.apply parameter).1.get key = given.or (settings.get key)) ∧
        ((rest = [] ∧ (settings.apply parameter).2 = none) ∨
          ∃ pair later fault, rest = pair :: later ∧ Refuses pair fault ∧
            (settings.apply parameter).2 = some (.settings fault))) ∧
    ∀ more, settings.apply (parameter ++ "," ++ more) =
      match settings.apply parameter with
      | (after, none) => after.apply more
      | (after, some failure) => (after, some failure) := by
  obtain ⟨good, rest, hpairs, hgood, hrest⟩ := exists_first_bad (pairs parameter)
  refine ⟨⟨pairs parameter, hasPairs_pairs parameter, apply_refuses_nothing_iff settings parameter,
    good, rest, hpairs, hgood, ?_⟩, apply_comma settings parameter⟩
  rcases hrest with rfl | ⟨pair, later, rfl, fault, hfault⟩
  · rw [List.append_nil] at hpairs
    obtain ⟨after, hafter, hvalues⟩ := apply_of_good (hpairs ▸ hgood) settings
    rw [hafter]
    exact ⟨hpairs ▸ hvalues, .inl ⟨rfl, rfl⟩⟩
  · obtain ⟨after, hafter, hvalues⟩ := apply_of_bad hpairs hgood hfault settings
    rw [hafter]
    exact ⟨hvalues, .inr ⟨pair, later, fault, rfl, hfault, rfl⟩⟩

/-- Blanks and empty pairs do not count, a value may hold an equals sign, and nothing behind a bad
pair counts. -/
theorem apply_last_given_refused :
    let parameter := " lang = go ,output_dir=a=b,,backend=php, oops"
    let answer : Settings × Option Failure :=
      (⟨"php", none, "info", "a=b"⟩, some (.settings (.notPair "oops")))
    standard.apply parameter = answer ∧
      ∀ more, standard.apply (parameter ++ "," ++ more) = answer := by
  intro parameter answer
  have happly : standard.apply parameter = answer := by decide +kernel
  refine ⟨happly, fun more => ?_⟩
  rw [(apply_last_given standard parameter).2 more, happly]

end ApiStubs.Settings
