import ApiStubs.Proofs.Json.Writing
import ApiStubs.Proofs.Settings.Layers
import ApiStubs.Proofs.Toml.Lines
import ApiStubs.Settings.Json

/-!
# Three notations for settings

Settings can be written as an object, as a document of lines or as a parameter.  What is standard
may be left out, and the order is free.  All three notations are read as the settings that were
written; in a parameter a value can hold no comma, and no blank at its ends.
-/

namespace ApiStubs.Settings

/-! ## Settings that are listed -/

/-- Every setting. -/
def Key.all : List Key := [.backend, .templateDir, .logLevel, .outputDir]

theorem Key.mem_all (key : Key) : key ∈ all := by
  cases key <;> decide

theorem Key.entry_injective : Function.Injective entry := by
  intro key other h
  cases key <;> cases other <;> first | rfl | exact absurd h (by decide)

theorem eq_of_get {settings other : Settings} (h : ∀ key, settings.get key = other.get key) :
    settings = other := by
  have hbackend := h .backend
  have htemplateDir := h .templateDir
  have hlogLevel := h .logLevel
  have houtputDir := h .outputDir
  simp only [get, Option.some.injEq] at hbackend htemplateDir hlogLevel houtputDir
  cases settings
  cases other
  simp_all

/-- Settings have the same values but for some of them. -/
def AgreeOutside (settings : Settings) (keys : List Key) (other : Settings) : Prop :=
  ∀ key ∉ keys, other.get key = settings.get key

/-- Settings are listed by keys: none twice, and what is left out is standard. -/
structure Listed (settings : Settings) (keys : List Key) : Prop where
  distinct : keys.Nodup
  rest : settings.AgreeOutside keys standard

/-- The settings that have a value among those listed, and the values. -/
def given (settings : Settings) (keys : List Key) : List (Key × String) :=
  keys.filterMap fun key => (settings.get key).map (key, ·)

section Listed

variable {settings : Settings} {keys : List Key}

theorem AgreeOutside.eq {other : Settings} (h : settings.AgreeOutside [] other) :
    other = settings :=
  eq_of_get fun key => h key List.not_mem_nil

/-- One more setting that is taken over is one less that may differ. -/
theorem AgreeOutside.step {key : Key} {other after : Settings}
    (h : settings.AgreeOutside (key :: keys) other)
    (hafter : ∀ found, after.get found = if key = found then settings.get found else
      other.get found) :
    settings.AgreeOutside keys after := by
  intro found hfound
  rw [hafter]
  split
  · rfl
  · rename_i hne
    exact h found (by simp [Ne.symm hne, hfound])

theorem mem_given {key : Key} {value : String} :
    (key, value) ∈ settings.given keys ↔ key ∈ keys ∧ settings.get key = some value := by
  simp [given]

theorem listed_all (settings : Settings) : settings.Listed Key.all where
  distinct := by decide
  rest := fun key hkey => absurd key.mem_all hkey

/-- What has no value is standard, so that it may as well be left out. -/
theorem Listed.rest_given (h : settings.Listed keys) :
    settings.AgreeOutside ((settings.given keys).map Prod.fst) standard := by
  intro key hkey
  by_cases hmem : key ∈ keys
  · cases hvalue : settings.get key with
    | some value => exact absurd (List.mem_map.2 ⟨_, mem_given.2 ⟨hmem, hvalue⟩, rfl⟩) hkey
    | none => cases key <;> first | rfl | cases hvalue
  · exact h.rest key hmem

end Listed

/-! ## Objects -/

/-- The listed settings as an object; a value that is not there is `null`. -/
def jsonText (settings : Settings) (keys : List Key) : String :=
  Json.writeObject
    (keys.map fun key => (key.entry, Json.writeOptional Json.writeText (settings.get key)))

theorem layout_wellFormed : layout.WellFormed where
  lawful := by
    simp only [Json.Layout.Lawful, layout, List.forall_mem_cons]
    exact ⟨(Json.reads_slot_of (Json.reads_text _) _ _ _).lawful,
      (Json.reads_slot_of (Json.reads_optional (Json.reads_text _)) _ _ _).lawful,
      (Json.reads_slot_of (Json.reads_text _) _ _ _).lawful,
      (Json.reads_slot_of (Json.reads_text _) _ _ _).lawful, List.forall_mem_nil _⟩
  distinct := by decide
  independent := by simp [layout]

/-- The member of a setting takes its value over. -/
theorem exists_slot (settings : Settings) (key : Key) :
    ∃ slot ∈ layout.slots, ∃ change, slot.name = key.entry ∧
      Json.Written (Json.writeOptional Json.writeText (settings.get key)) slot.view change ∧
      ∀ other found, (change other).get found = if key = found then settings.get found else
        other.get found := by
  cases key with
  | backend =>
      refine ⟨_, .head _, _, rfl, (Json.written_text settings.backend).slot
        (Json.reads_text _) _ _ _, ?_⟩
      intro other found
      cases found <;> rfl
  | templateDir =>
      refine ⟨_, .tail _ (.head _), _, rfl,
        (Json.written_optional settings.templateDir).slot (Json.reads_optional (Json.reads_text _))
          _ _ _, ?_⟩
      intro other found
      cases found <;> rfl
  | logLevel =>
      refine ⟨_, .tail _ (.tail _ (.head _)), _, rfl,
        (Json.written_text settings.logLevel).slot (Json.reads_text _) _ _ _, ?_⟩
      intro other found
      cases found <;> rfl
  | outputDir =>
      refine ⟨_, .tail _ (.tail _ (.tail _ (.head _))), _, rfl,
        (Json.written_text settings.outputDir).slot (Json.reads_text _) _ _ _, ?_⟩
      intro other found
      cases found <;> rfl

/-- The members of listed settings take all of them over. -/
theorem exists_writtenMembers (settings : Settings) (keys : List Key) :
    ∃ slots change, Json.WrittenMembers slots
        (keys.map fun key => (key.entry, Json.writeOptional Json.writeText (settings.get key)))
          change ∧
      (∀ slot ∈ slots, slot ∈ layout.slots) ∧ slots.map (·.name) = keys.map Key.entry ∧
      ∀ other, settings.AgreeOutside keys other → change other = settings := by
  induction keys with
  | nil => exact ⟨[], id, .nil, nofun, rfl, fun other h => h.eq⟩
  | cons key keys ih =>
      obtain ⟨slots, rest, hrest, hslots, hnames, hall⟩ := ih
      obtain ⟨slot, hslot, change, hname, hwritten, hchange⟩ := settings.exists_slot key
      refine ⟨slot :: slots, rest ∘ change, ?_, List.forall_mem_cons.2 ⟨hslot, hslots⟩, ?_, ?_⟩
      · rw [List.map_cons, ← hname]
        exact .cons hwritten hrest
      · rw [List.map_cons, List.map_cons, hname, hnames]
      · intro other hother
        exact hall _ (hother.step (hchange other))

theorem Listed.ofJson_jsonText {settings : Settings} {keys : List Key} (h : settings.Listed keys) :
    ofJson (Utf8.encode (settings.jsonText keys)) = .ok settings := by
  obtain ⟨slots, change, hmembers, hslots, hnames, hall⟩ := settings.exists_writtenMembers keys
  have hwritten : Json.Written (settings.jsonText keys) layout.view (change layout.blank) := by
    refine Json.written_members layout_wellFormed hmembers hslots ?_ ?_
    · rw [hnames]
      exact h.distinct.map Key.entry_injective
    · have hnone : ∀ slot ∈ layout.slots, slot.required = false := by decide
      intro slot hslot hrequired
      rw [hnone slot hslot] at hrequired
      cases hrequired
  rw [show layout.blank = standard from rfl, hall standard h.rest] at hwritten
  have hread := hwritten.readAll_eq (layout.reads layout_wellFormed.lawful)
  unfold ofJson
  split
  · rename_i hbytes
    rw [hbytes] at hread
    cases hread
  · rw [hread]

/-! ## Documents -/

/-- The names and texts for the listed settings that have a value. -/
def lines (settings : Settings) (keys : List Key) : List (String × String) :=
  (settings.given keys).map fun g => (g.1.entry, g.2)

/-- A document with a line for every listed setting that has a value. -/
def IsDocument (settings : Settings) (keys : List Key) (document : String) : Prop :=
  Toml.IsDocument (settings.lines keys) document.toList

theorem Key.isName_entry (key : Key) : Toml.IsName key.entry := by
  cases key <;> exact ⟨by decide, List.all_eq_true.1 (by decide)⟩

theorem exists_isDocument (settings : Settings) (keys : List Key) :
    ∃ document, settings.IsDocument keys document := by
  obtain ⟨cs, hcs⟩ := Toml.exists_isDocument (settings.lines keys)
  refine ⟨String.ofList cs, ?_⟩
  rwa [IsDocument, String.toList_ofList]

theorem map_fst_lines (settings : Settings) (keys : List Key) :
    (settings.lines keys).map Prod.fst = ((settings.given keys).map Prod.fst).map Key.entry := by
  rw [lines, List.map_map, List.map_map]
  rfl

section Documents

variable {settings : Settings} {keys : List Key}

theorem Listed.distinct_lines (h : settings.Listed keys) :
    ((settings.lines keys).map Prod.fst).Nodup := by
  have hgiven : ((settings.given keys).map Prod.fst).Nodup := by
    rw [given, List.map_filterMap]
    refine h.distinct.filterMap ?_
    intro key other found hkey hother
    simp only [Option.map_map, Option.mem_def, Option.map_eq_some_iff, Function.comp_apply]
      at hkey hother
    obtain ⟨_, -, rfl⟩ := hkey
    obtain ⟨_, -, rfl⟩ := hother
    rfl
  rw [map_fst_lines]
  exact hgiven.map Key.entry_injective

/-- The table of the lines gives each setting the value that was written, or nothing where that is
standard. -/
theorem Listed.tableGives (h : settings.Listed keys) (key : Key) :
    ∃ value, TableGives ((settings.lines keys).map Toml.textEntry) key value ∧
      value.or (standard.get key) = settings.get key := by
  by_cases hkey : key ∈ (settings.given keys).map Prod.fst
  · obtain ⟨⟨_, value⟩, hmem, rfl⟩ := List.mem_map.1 hkey
    refine ⟨some value, .text (Toml.findEntry_textEntry h.distinct_lines ?_), ?_⟩
    · exact List.mem_map.2 ⟨_, hmem, rfl⟩
    · exact (mem_given.1 hmem).2.symm
  · refine ⟨none, .absent ((findEntry_eq_none_iff _ _).2 ?_), h.rest_given key hkey⟩
    intro hentry
    rw [Toml.map_fst_textEntry, map_fst_lines] at hentry
    exact hkey ((List.mem_map_of_injective Key.entry_injective).1 hentry)

theorem Listed.ofToml_document (h : settings.Listed keys) {document : String}
    (hdocument : settings.IsDocument keys document) : ofToml document = .ok settings := by
  have hnames : ∀ line ∈ settings.lines keys, Toml.IsName line.1 := by
    intro line hline
    obtain ⟨g, -, rfl⟩ := List.mem_map.1 hline
    exact g.1.isName_entry
  have hentries := Toml.entriesOfDocument_lines hdocument hnames h.distinct_lines
  have hsettings : ofEntries ((settings.lines keys).map Toml.textEntry) = .ok settings := by
    rcases ofEntries_cases ((settings.lines keys).map Toml.textEntry) with
      ⟨read, hread, hvalues⟩ | ⟨key, hlacks, -⟩
    · have heq : read = settings := by
        refine eq_of_get fun key => ?_
        obtain ⟨value, hvalue, hget⟩ := hvalues key
        obtain ⟨written, hwritten, hsame⟩ := h.tableGives key
        rw [hget, hvalue.unique hwritten, hsame]
      rw [hread, heq]
    · obtain ⟨value, hvalue, -⟩ := h.tableGives key
      exact absurd hvalue (hlacks value)
  rw [ofToml, hentries]
  simp only [hsettings]

end Documents

/-! ## Parameters -/

/-- The pair of a setting and its value. -/
def pairText (given : Key × String) : String := given.1.entry ++ "=" ++ given.2

/-- The listed settings as a parameter; a value that is not there has no pair. -/
def parameterText (settings : Settings) (keys : List Key) : String :=
  Text.joinWith "," ((settings.given keys).map pairText)

/-- A value that a pair can hold. -/
structure FitsPair (value : String) : Prop where
  comma : ',' ∉ value.toList
  head : ∀ c ∈ value.toList.head?, Text.isBlank c = false
  last : ∀ c ∈ value.toList.getLast?, Text.isBlank c = false

theorem all_not_isBlank_iff (edge : Option Char) :
    edge.all (!Text.isBlank ·) = true ↔ ∀ c ∈ edge, Text.isBlank c = false := by
  cases edge <;> simp

instance (value : String) : Decidable (FitsPair value) :=
  decidable_of_iff (',' ∉ value.toList ∧ value.toList.head?.all (!Text.isBlank ·) = true ∧
      value.toList.getLast?.all (!Text.isBlank ·) = true)
    ⟨fun h => ⟨h.1, (all_not_isBlank_iff _).1 h.2.1, (all_not_isBlank_iff _).1 h.2.2⟩,
      fun h => ⟨h.comma, (all_not_isBlank_iff _).2 h.head, (all_not_isBlank_iff _).2 h.last⟩⟩

theorem Key.fitsPair_entry (key : Key) : FitsPair key.entry := by
  cases key <;> decide

section Parameters

variable {key : Key} {value : String}

theorem FitsPair.trims (h : FitsPair value) : Text.Trims value value :=
  Text.trims_self h.head h.last

theorem FitsPair.gives (h : FitsPair value) : Gives (pairText (key, value)) key value := by
  have hname : key.entry ∈ key.names := by
    cases key <;> decide
  have hsign : '=' ∉ key.entry.toList := by
    cases key <;> decide
  exact ⟨key.entry, hname, key.entry, value, hsign, rfl, key.fitsPair_entry.trims, h.trims⟩

theorem FitsPair.trims_pairText (h : FitsPair value) :
    Text.Trims (pairText (key, value)) (pairText (key, value)) := by
  have hlist : (pairText (key, value)).toList = key.entry.toList ++ '=' :: value.toList := by
    simp [pairText]
  have hentry : key.entry.toList ≠ [] := String.toList_eq_nil_iff.not.2 key.isName_entry.1
  refine Text.trims_self ?_ ?_
  · intro c hc
    rw [hlist, List.head?_append_of_ne_nil _ hentry] at hc
    exact key.fitsPair_entry.head c hc
  · intro c hc
    rw [hlist, List.getLast?_append_of_ne_nil _ (List.cons_ne_nil _ _)] at hc
    cases hvalue : value.toList with
    | nil =>
        rw [hvalue] at hc
        obtain rfl : '=' = c := Option.some.inj hc
        rfl
    | cons first rest =>
        rw [hvalue, List.getLast?_cons_cons, ← hvalue] at hc
        exact h.last c hc

/-- The pair of a value that fits is found again. -/
theorem FitsPair.pairs_pairText (h : FitsPair value) :
    pairs (pairText (key, value)) = [pairText (key, value)] := by
  have hcomma : ',' ∉ (pairText (key, value)).toList := by
    simp [pairText, key.fitsPair_entry.comma, h.comma]
  have hsome : pairText (key, value) ≠ "" := by
    intro hnone
    have hlist := congrArg String.toList hnone
    simp [pairText] at hlist
  rw [pairs, Text.segments, Text.pieces_eq_singleton hcomma]
  simp [← h.trims_pairText.eq_trim, hsome]

end Parameters

/-- Pairs that stand on their own are found again when they are joined. -/
theorem pairs_joinWith {texts : List String} (h : ∀ text ∈ texts, pairs text = [text]) :
    pairs (Text.joinWith "," texts) = texts := by
  induction texts with
  | nil => rfl
  | cons first rest ih =>
      obtain ⟨hfirst, hrest⟩ := List.forall_mem_cons.1 h
      cases rest with
      | nil => exact hfirst
      | cons second more =>
          rw [Text.joinWith, pairs_comma, hfirst, ih hrest]
          rfl

/-- The pairs of settings take all of them over. -/
theorem applyPairs_pairText {settings : Settings} {given : List (Key × String)}
    (hgiven : ∀ g ∈ given, settings.get g.1 = some g.2 ∧ FitsPair g.2) {other : Settings}
    (h : settings.AgreeOutside (given.map Prod.fst) other) :
    other.applyPairs (given.map pairText) = (settings, none) := by
  induction given generalizing other with
  | nil =>
      rw [h.eq]
      rfl
  | cons first rest ih =>
      obtain ⟨⟨hvalue, hfits⟩, hrest⟩ := List.forall_mem_cons.1 hgiven
      rw [List.map_cons, applyPairs_cons_of_gives hfits.gives]
      refine ih hrest (h.step fun found => ?_)
      rw [get_set]
      split
      · rename_i hfound
        rw [← hfound, hvalue]
      · rfl

theorem Listed.ofParameter_parameterText {settings : Settings} {keys : List Key}
    (h : settings.Listed keys)
    (hfits : ∀ key value, settings.get key = some value → FitsPair value) :
    ofParameter (settings.parameterText keys) = .ok settings := by
  have hgiven : ∀ g ∈ settings.given keys, settings.get g.1 = some g.2 ∧ FitsPair g.2 := by
    intro g hg
    have hvalue := (mem_given.1 hg).2
    exact ⟨hvalue, hfits _ _ hvalue⟩
  have hpairs : pairs (settings.parameterText keys) = (settings.given keys).map pairText := by
    refine pairs_joinWith fun text htext => ?_
    obtain ⟨g, hg, rfl⟩ := List.mem_map.1 htext
    exact (hgiven g hg).2.pairs_pairText
  have hrun : standard.applyPairs (pairs (settings.parameterText keys)) = (settings, none) := by
    rw [hpairs]
    exact applyPairs_pairText hgiven h.rest_given
  rw [ofParameter, apply_of_applyPairs hrun]
  rfl

/-! ## Agreement -/

/-- The three notations agree.  Any list of settings will do if it has none twice and leaves out
only what is standard.  The object of the listed settings is read as the settings, and so is every
document with a line for each listed value, of which there is one.  So is the parameter of the
listed values if none holds a comma or has a blank at its ends. -/
theorem notations_agree (settings : Settings) :
    settings.Listed Key.all ∧ ∀ keys, settings.Listed keys →
      ofJson (Utf8.encode (settings.jsonText keys)) = .ok settings ∧
      ((∃ document, settings.IsDocument keys document) ∧
        ∀ document, settings.IsDocument keys document → ofToml document = .ok settings) ∧
      ((∀ key value, settings.get key = some value → FitsPair value) →
        ofParameter (settings.parameterText keys) = .ok settings) := by
  refine ⟨listed_all settings,
    fun keys h => ⟨h.ofJson_jsonText, ⟨exists_isDocument settings keys, ?_⟩, ?_⟩⟩
  · intro document hdocument
    exact h.ofToml_document hdocument
  · intro hfits
    exact h.ofParameter_parameterText hfits

/-- A quote, backslashes, a tab inside and an equals sign are written, and the log level is left
out. -/
theorem notations_agree_escaped :
    let settings : Settings := ⟨"\"", some "\\\t\\", "info", "="⟩
    let object :=
      "\x7b\"output_dir\":\"=\",\"template_dir\":\"\\\\\\t\\\\\",\"backend\":\"\\\"\"\x7d"
    let document := "output_dir = \"=\"" ++ "\n" ++
      ("template_dir = \"\\\\\\u0009\\\\\"" ++ "\n" ++ "backend = \"\\\"\"")
    let parameter := "output_dir==,template_dir=\\\t\\,backend=\""
    ofJson (Utf8.encode object) = .ok settings ∧ ofToml document = .ok settings ∧
      ofParameter parameter = .ok settings := by
  intro settings object document parameter
  have hlisted : settings.Listed [.outputDir, .templateDir, .backend] := by
    refine ⟨by decide, fun key hkey => ?_⟩
    cases key <;> first | rfl | exact absurd (by decide) hkey
  have hfits : ∀ key value, settings.get key = some value → FitsPair value := by
    intro key value hvalue
    cases key <;> cases hvalue <;> decide
  have hobject : settings.jsonText [.outputDir, .templateDir, .backend] = object := by decide
  have hparameter : settings.parameterText [.outputDir, .templateDir, .backend] =
      parameter := by decide
  have hdocument : settings.IsDocument [.outputDir, .templateDir, .backend] document := by
    have houtputDir : Toml.IsLine "output_dir" "=" "output_dir = \"=\"".toList :=
      ⟨[['=']], .cons (.itself (by decide) (by decide) (by decide)) .nil, by decide⟩
    have htemplateDir : Toml.IsLine "template_dir" "\\\t\\"
        "template_dir = \"\\\\\\u0009\\\\\"".toList :=
      ⟨[['\\', '\\'], ['\\', 'u', '0', '0', '0', '9'], ['\\', '\\']], .cons (.letter (by decide))
        (.cons (.four rfl ⟨[0, 0, 0, 9], by decide, by decide⟩)
          (.cons (.letter (by decide)) .nil)), by decide⟩
    have hbackend : Toml.IsLine "backend" "\"" "backend = \"\\\"\"".toList :=
      ⟨[['\\', '"']], .cons (.letter (by decide)) .nil, by decide⟩
    have hend : "\n".toList = ['\n'] := by decide
    simp only [IsDocument, document, String.toList_append, List.append_assoc, hend,
      List.singleton_append]
    exact .line houtputDir (.line htemplateDir (.last hbackend))
  obtain ⟨hjson, ⟨-, htoml⟩, hpairs⟩ := (notations_agree settings).2 _ hlisted
  rw [hobject] at hjson
  rw [hparameter] at hpairs
  exact ⟨hjson, htoml document hdocument, hpairs hfits⟩

end ApiStubs.Settings
