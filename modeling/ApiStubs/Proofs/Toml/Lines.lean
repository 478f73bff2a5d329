import ApiStubs.Toml.Table
import Mathlib.Data.List.Forall2

/-!
# Documents of lines

A document may give texts to names, one on each line, as in `name = "text"`.  A character of a text
stands for itself or is written with a backslash: a quote, a backslash or a control character must
be, any other one may be.  Such a document is read as a table that holds each text under its name.
-/

namespace ApiStubs.Toml

/-! ## Characters -/

/-- A hexadecimal digit, in either case, and its value. -/
def IsHexDigit (digit : Char) (value : Nat) : Prop :=
  value < 16 ∧ (digit = Nat.digitChar value ∨ digit = (Nat.digitChar value).toUpper)

instance (digit : Char) (value : Nat) : Decidable (IsHexDigit digit value) :=
  inferInstanceAs (Decidable (_ ∧ _))

/-- Hexadecimal digits spell a number. -/
def SpellsHex (digits : List Char) (n : Nat) : Prop :=
  ∃ values, List.Forall₂ IsHexDigit digits values ∧
    values.foldl (fun n value => n * 16 + value) 0 = n

/-- The letters that stand for a character behind a backslash. -/
def letters : List (Char × Char) :=
  [('b', Char.ofNat 0x08), ('t', '\t'), ('n', '\n'), ('f', Char.ofNat 0x0C),
    ('r', '\r'), ('"', '"'), ('\\', '\\')]

/-- A control character. -/
def IsControl (c : Char) : Prop := c.toNat < 0x20 ∨ c.toNat = 0x7F

instance (c : Char) : Decidable (IsControl c) := inferInstanceAs (Decidable (_ ∨ _))

/-- How a character may be written between double quotes. -/
inductive Escapes (c : Char) : List Char → Prop where
  | itself : ¬ IsControl c → c ≠ '"' → c ≠ '\\' → Escapes c [c]
  | letter {l : Char} : (l, c) ∈ letters → Escapes c ['\\', l]
  | four {digits : List Char} : digits.length = 4 → SpellsHex digits c.toNat →
    Escapes c ('\\' :: 'u' :: digits)
  | eight {digits : List Char} : digits.length = 8 → SpellsHex digits c.toNat →
    Escapes c ('\\' :: 'U' :: digits)

theorem hexDigit?_of_isHexDigit {digit : Char} {value : Nat} (h : IsHexDigit digit value) :
    hexDigit? digit = some value := by
  have hdigits : ∀ v < 16, hexDigit? (Nat.digitChar v) = some v ∧
      hexDigit? (Nat.digitChar v).toUpper = some v := by decide
  obtain ⟨hvalue, rfl | rfl⟩ := h
  · exact (hdigits value hvalue).1
  · exact (hdigits value hvalue).2

theorem hexNumber?_of_forall₂ {digits : List Char} {values : List Nat}
    (h : List.Forall₂ IsHexDigit digits values) (start : Nat) :
    hexNumber? start digits = some (values.foldl (fun n value => n * 16 + value) start) := by
  induction h generalizing start with
  | nil => rfl
  | cons hdigit _ ih =>
      rw [hexNumber?, hexDigit?_of_isHexDigit hdigit]
      exact ih _

theorem hexChar?_of_spellsHex {digits : List Char} {c : Char} (h : SpellsHex digits c.toNat) :
    hexChar? digits = some c := by
  obtain ⟨values, hdigits, hvalue⟩ := h
  have hvalid : c.toNat < 0xD800 ∨ 0xDFFF < c.toNat ∧ c.toNat < 0x110000 := c.valid
  have hscalar :
      (decide (c.toNat < 0xD800) || (decide (0xE000 ≤ c.toNat) && decide (c.toNat ≤ 0x10FFFF))) =
      true := by
    simp only [Bool.or_eq_true, Bool.and_eq_true, decide_eq_true_eq]
    omega
  rw [hexChar?, hexNumber?_of_forall₂ hdigits, hvalue]
  simp only [hscalar, if_true, Char.ofNat_toNat]

/-- A character in front is read from any of its spellings. -/
theorem basicText_escapes {c : Char} {piece : List Char} (h : Escapes c piece) (rest : List Char) :
    basicText (piece ++ rest) = withChar (some c) (basicText rest) := by
  cases h with
  | itself hcontrol hquote hslash =>
      have hplain : isPlain c = true := by
        simp only [IsControl, not_or] at hcontrol
        simp only [isPlain, Bool.or_eq_true, Bool.and_eq_true, decide_eq_true_eq]
        exact .inr ⟨by omega, hcontrol.2⟩
      rw [List.singleton_append, basicText.eq_def]
      simp only [if_neg hquote, if_neg hslash, if_pos hplain]
  | letter hletter =>
      simp only [letters, List.mem_cons, Prod.mk.injEq, List.not_mem_nil, or_false] at hletter
      rcases hletter with ⟨rfl, rfl⟩ | ⟨rfl, rfl⟩ | ⟨rfl, rfl⟩ | ⟨rfl, rfl⟩ | ⟨rfl, rfl⟩ |
        ⟨rfl, rfl⟩ | ⟨rfl, rfl⟩
      all_goals rfl
  | @four digits hlength hdigits =>
      have hchar := hexChar?_of_spellsHex hdigits
      obtain ⟨d₁, d₂, d₃, d₄, rfl⟩ : ∃ d₁ d₂ d₃ d₄, digits = [d₁, d₂, d₃, d₄] := by
        match digits, hlength with
        | [d₁, d₂, d₃, d₄], _ => exact ⟨d₁, d₂, d₃, d₄, rfl⟩
      rw [← hchar]
      rfl
  | @eight digits hlength hdigits =>
      have hchar := hexChar?_of_spellsHex hdigits
      obtain ⟨d₁, d₂, d₃, d₄, d₅, d₆, d₇, d₈, rfl⟩ :
          ∃ d₁ d₂ d₃ d₄ d₅ d₆ d₇ d₈, digits = [d₁, d₂, d₃, d₄, d₅, d₆, d₇, d₈] := by
        match digits, hlength with
        | [d₁, d₂, d₃, d₄, d₅, d₆, d₇, d₈], _ => exact ⟨d₁, d₂, d₃, d₄, d₅, d₆, d₇, d₈, rfl⟩
      rw [← hchar]
      rfl

/-- A text between double quotes is read up to the closing one. -/
theorem basicText_closed {cs : List Char} {spelled : List (List Char)}
    (h : List.Forall₂ Escapes cs spelled) (rest : List Char) :
    basicText (spelled.flatten ++ '"' :: rest) = .ok (cs, rest) := by
  induction h with
  | nil =>
      rw [List.flatten_nil, List.nil_append, basicText.eq_def]
      exact if_pos rfl
  | cons hchar _ ih =>
      rw [List.flatten_cons, List.append_assoc, basicText_escapes hchar, ih]
      rfl

/-- Every character can be written. -/
theorem exists_escapes (c : Char) : ∃ piece, Escapes c piece := by
  by_cases hcontrol : IsControl c
  · have hsmall : c.toNat < 128 := by
      rcases hcontrol with h | h
      all_goals omega
    have hvalues : ∀ value ∈ [0, 0, c.toNat / 16, c.toNat % 16],
        IsHexDigit (Nat.digitChar value) value := by
      intro value hvalue
      refine ⟨?_, .inl rfl⟩
      simp only [List.mem_cons, List.not_mem_nil, or_false] at hvalue
      omega
    have hdigits : SpellsHex ([0, 0, c.toNat / 16, c.toNat % 16].map Nat.digitChar) c.toNat := by
      refine ⟨_, List.forall₂_map_left_iff.2 (List.forall₂_same.2 hvalues), ?_⟩
      simp only [List.foldl_cons, List.foldl_nil]
      omega
    exact ⟨_, .four rfl hdigits⟩
  · by_cases hquote : c = '"'
    · exact ⟨_, .letter (l := '"') (by simp [letters, hquote])⟩
    · by_cases hslash : c = '\\'
      · exact ⟨_, .letter (l := '\\') (by simp [letters, hslash])⟩
      · exact ⟨_, .itself hcontrol hquote hslash⟩

/-! ## Lines -/

/-- Nothing more stands on the line. -/
def EndsLine (after : List Char) : Prop := after = [] ∨ ∃ more, after = '\n' :: more

/-- A name that needs no quotes. -/
def IsName (name : String) : Prop := name ≠ "" ∧ ∀ c ∈ name.toList, isKeyChar c = true

/-- A line that gives a text to a name. -/
def IsLine (name value : String) (line : List Char) : Prop :=
  ∃ spelled, List.Forall₂ Escapes value.toList spelled ∧
    line = name.toList ++ ' ' :: '=' :: ' ' :: '"' :: (spelled.flatten ++ ['"'])

theorem exists_isLine (name value : String) : ∃ line, IsLine name value line := by
  choose spell hspell using exists_escapes
  refine ⟨_, value.toList.map spell, ?_, rfl⟩
  exact List.forall₂_map_right_iff.2 (List.forall₂_same.2 fun c _ => hspell c)

theorem isKeyChar_of_endsWord {c : Char} (h : endsWord c = true) : isKeyChar c = false := by
  simp only [endsWord, Bool.or_eq_true, decide_eq_true_eq] at h
  rcases h with ((((((((((rfl | rfl) | rfl) | rfl) | rfl) | rfl) | rfl) | rfl) | rfl) | rfl) | rfl)
    | rfl
  all_goals decide

theorem endsWord_of_isKeyChar {c : Char} (h : isKeyChar c = true) : endsWord c = false := by
  rw [Bool.eq_false_iff]
  intro hends
  rw [isKeyChar_of_endsWord hends] at h
  cases h

/-- No character of a name means anything else. -/
theorem ne_of_isKeyChar {c d : Char} (h : isKeyChar c = true)
    (hd : isKeyChar d = false) : c ≠ d := by
  rintro rfl
  rw [h] at hd
  cases hd

theorem IsName.exists_cons {name : String} (h : IsName name) :
    ∃ c rest, name.toList = c :: rest ∧ isKeyChar c = true := by
  obtain ⟨c, rest, hlist⟩ := List.exists_cons_of_ne_nil (String.toList_eq_nil_iff.not.2 h.1)
  exact ⟨c, rest, hlist, h.2 c (hlist ▸ List.mem_cons_self)⟩

theorem skipBlanks_of_isKeyChar {c : Char} (h : isKeyChar c = true) (rest : List Char) :
    skipBlanks (c :: rest) = c :: rest := by
  have hspace : c ≠ ' ' := ne_of_isKeyChar h rfl
  have htab : c ≠ '\t' := ne_of_isKeyChar h rfl
  exact List.dropWhile_cons_of_neg (by simp [hspace, htab])

theorem scanText?_of_isKeyChar {c : Char} (h : isKeyChar c = true) (rest : List Char) :
    scanText? (c :: rest) = none := by
  have hquote : c ≠ '"' := ne_of_isKeyChar h rfl
  have hsingle : c ≠ '\x27' := ne_of_isKeyChar h rfl
  unfold scanText?
  split <;> simp_all

/-- A name is read up to a blank. -/
theorem readName_blank {name : String} (h : IsName name) (rest : List Char) :
    readName (name.toList ++ ' ' :: rest) = (.proper name, ' ' :: rest) := by
  obtain ⟨c, cs, hlist, hc⟩ := h.exists_cons
  have hword : ∀ d ∈ name.toList, (!endsWord d) = true := by
    intro d hd
    rw [endsWord_of_isKeyChar (h.2 d hd)]
    rfl
  have htake : (name.toList ++ ' ' :: rest).takeWhile (fun c => !endsWord c) = name.toList := by
    rw [List.takeWhile_append_of_pos hword, List.takeWhile_cons_of_neg (by decide), List.append_nil]
  have hdrop : (name.toList ++ ' ' :: rest).dropWhile (fun c => !endsWord c) = ' ' :: rest := by
    rw [List.dropWhile_append_of_pos hword, List.dropWhile_cons_of_neg (by decide)]
  have hproper : name.toList.all isKeyChar = true := List.all_eq_true.2 h.2
  have hscan : scanText? (name.toList ++ ' ' :: rest) = none := by
    rw [hlist, List.cons_append, scanText?_of_isKeyChar hc]
  unfold readName
  simp only [hscan, htake, hdrop]
  rw [hlist] at hproper ⊢
  simp only [hproper, if_true]
  rw [← hlist, String.ofList_toList]

theorem readKey_sign {name : String} (h : IsName name) (fuel : Nat) (rest : List Char) :
    readKey (fuel + 1) (name.toList ++ ' ' :: '=' :: rest) = ([.proper name], '=' :: rest) := by
  obtain ⟨c, cs, hlist, hc⟩ := h.exists_cons
  have hstart : skipBlanks (name.toList ++ ' ' :: '=' :: rest) = name.toList ++
      ' ' :: '=' :: rest := by
    rw [hlist, List.cons_append, skipBlanks_of_isKeyChar hc]
  rw [readKey, hstart, readName_blank h]
  rfl

/-- A quote behind the opening one belongs to no tripled quote if the text is closed. -/
theorem scanText?_closed {cs : List Char} {spelled : List (List Char)}
    (h : List.Forall₂ Escapes cs spelled) {after : List Char} (hafter : EndsLine after) :
    scanText? ('"' :: (spelled.flatten ++ '"' :: after)) = some (some cs, after) := by
  have hread := basicText_closed h after
  -- a text that is not empty does not begin with a quote, and nothing stands behind an empty one
  have htripled : ∀ more, spelled.flatten ++ '"' :: after ≠ '"' :: '"' :: more := by
    intro more hquotes
    cases h with
    | nil =>
        obtain rfl | ⟨_, rfl⟩ := hafter
        all_goals simp at hquotes
    | cons hchar _ =>
        cases hchar
        all_goals simp_all
  unfold scanText?
  split
  · rename_i hcs
    exact absurd (List.cons.inj hcs).2 (htripled _)
  · rename_i hcs
    exact absurd (List.cons.inj hcs).1 (by decide)
  · rename_i hcs
    obtain ⟨-, rfl⟩ := List.cons.inj hcs
    rw [hread]
    rfl
  · rename_i hcs
    exact absurd (List.cons.inj hcs).1 (by decide)
  · rename_i hquote _
    exact absurd rfl (hquote _)

theorem readLineValue_closed {value : String} {spelled : List (List Char)}
    (h : List.Forall₂ Escapes value.toList spelled) {after : List Char} (hafter : EndsLine after) :
    readLineValue ('"' :: (spelled.flatten ++ '"' :: after)) = .ok (.text value, after) := by
  have hread : readValue (('"' :: (spelled.flatten ++ '"' :: after)).length + 1) 0
      ('"' :: (spelled.flatten ++ '"' :: after)) = .ok (.text value, after) := by
    unfold readValue
    simp only [scanText?_closed h hafter, String.ofList_toList]
  exact hread

theorem endLine_of_endsLine {after : List Char} (h : EndsLine after) :
    endLine false after = .ok after := by
  obtain rfl | ⟨more, rfl⟩ := h
  · rfl
  · rfl

/-- A line is read as the statement that it makes. -/
theorem readStatement_line {name value : String} {line : List Char} (hname : IsName name)
    (h : IsLine name value line) {after : List Char} (hafter : EndsLine after) :
    readStatement (line ++ after) = .ok (.assign [.proper name] (.text value), after) := by
  obtain ⟨spelled, hspelled, rfl⟩ := h
  obtain ⟨c, cs, hlist, hc⟩ := hname.exists_cons
  have hbracket : c ≠ '[' := ne_of_isKeyChar hc rfl
  have hline : name.toList ++ ' ' :: '=' :: ' ' :: '"' :: (spelled.flatten ++ ['"']) ++ after =
      name.toList ++ ' ' :: '=' :: ' ' :: '"' :: (spelled.flatten ++ '"' :: after) := by simp
  have hkey := readKey_sign hname (name.toList ++ ' ' :: '=' :: ' ' :: '"' ::
    (spelled.flatten ++ '"' :: after)).length (' ' :: '"' :: (spelled.flatten ++ '"' :: after))
  have hvalue := readLineValue_closed hspelled hafter
  rw [hline]
  unfold readStatement
  split
  · simp_all
  · simp_all
  · rw [hkey]
    have hblank : skipBlanks (' ' :: '"' :: (spelled.flatten ++ '"' :: after)) =
        '"' :: (spelled.flatten ++ '"' :: after) := rfl
    simp only [hblank, hvalue, endLine_of_endsLine hafter]

/-! ## Documents -/

/-- Characters that give texts to names, one on each line. -/
inductive IsDocument : List (String × String) → List Char → Prop where
  | none : IsDocument [] []
  | last {name value : String} {line : List Char} : IsLine name value line →
    IsDocument [(name, value)] line
  | line {name value : String} {line : List Char} {given : List (String × String)}
    {more : List Char} :
    IsLine name value line → IsDocument given more →
      IsDocument ((name, value) :: given) (line ++ '\n' :: more)

/-- Any texts can be given. -/
theorem exists_isDocument (given : List (String × String)) : ∃ cs, IsDocument given cs := by
  induction given with
  | nil => exact ⟨_, .none⟩
  | cons first rest ih =>
      obtain ⟨line, hline⟩ := exists_isLine first.1 first.2
      obtain ⟨more, hmore⟩ := ih
      exact ⟨_, .line hline hmore⟩

/-- The statement that a line makes. -/
def assignment (given : String × String) : Statement := .assign [.proper given.1] (.text given.2)

theorem IsLine.length_pos {name value : String} {line : List Char} (h : IsLine name value line) :
    0 < line.length := by
  obtain ⟨spelled, -, rfl⟩ := h
  rw [List.length_append, List.length_cons]
  omega

theorem IsDocument.length_le {given : List (String × String)} {cs : List Char}
    (h : IsDocument given cs) :
    given.length ≤ cs.length := by
  induction h with
  | none => exact Nat.le_refl _
  | last hline => exact hline.length_pos
  | line hline _ ih =>
      simp only [List.length_cons, List.length_append]
      omega

theorem skipFill_of_isKeyChar {c : Char} (h : isKeyChar c = true) (rest : List Char) :
    skipFill false (c :: rest) = .ok (c :: rest) := by
  have hline : c ≠ '\n' := ne_of_isKeyChar h rfl
  have hreturn : c ≠ '\r' := ne_of_isKeyChar h rfl
  have hspace : c ≠ ' ' := ne_of_isKeyChar h rfl
  have htab : c ≠ '\t' := ne_of_isKeyChar h rfl
  have hmark : c ≠ '#' := ne_of_isKeyChar h rfl
  rw [skipFill.eq_def]
  simp [hline, hreturn, hspace, htab, hmark]

/-- An end of line in front of statements does not count. -/
theorem readStatements_lineEnd (fuel : Nat) (cs : List Char) :
    readStatements (fuel + 1) ('\n' :: cs) = readStatements (fuel + 1) cs := by
  have hskip : skipFill false ('\n' :: cs) = skipFill false cs := by
    rw [skipFill.eq_def]
    exact if_pos rfl
  rw [readStatements, readStatements, hskip]

theorem IsLine.exists_cons {name value : String} {line : List Char} (hname : IsName name)
    (h : IsLine name value line) : ∃ c rest, line = c :: rest ∧ isKeyChar c = true := by
  obtain ⟨spelled, -, rfl⟩ := h
  obtain ⟨c, cs, hlist, hc⟩ := hname.exists_cons
  exact ⟨c, _, by rw [hlist, List.cons_append], hc⟩

/-- The statement of a line comes before those of the lines behind it. -/
theorem readStatements_line {name value : String} {line : List Char} (hname : IsName name)
    (h : IsLine name value line) {after : List Char} (hafter : EndsLine after) {fuel : Nat}
    {statements : List Statement} (hrest : readStatements fuel after = .ok statements) :
    readStatements (fuel + 1) (line ++ after) = .ok (assignment (name, value) :: statements) := by
  have hstatement := readStatement_line hname h hafter
  obtain ⟨c, rest, rfl, hc⟩ := h.exists_cons hname
  rw [List.cons_append] at hstatement ⊢
  rw [readStatements, skipFill_of_isKeyChar hc]
  simp only [hstatement, hrest]
  rfl

/-- A document of lines is read as their statements. -/
theorem readStatements_document {given : List (String × String)} {cs : List Char}
    (h : IsDocument given cs) (hnames : ∀ g ∈ given, IsName g.1) {fuel : Nat}
    (hfuel : given.length < fuel) :
    readStatements fuel cs = .ok (given.map assignment) := by
  -- every line takes one step, and one more finds the end
  induction h generalizing fuel with
  | none =>
      obtain ⟨fuel, rfl⟩ := Nat.exists_eq_add_of_lt hfuel
      rfl
  | @last name value line hline =>
      obtain ⟨hname, -⟩ := List.forall_mem_cons.1 hnames
      obtain ⟨fuel, rfl⟩ : ∃ n, fuel = n + 1 + 1 := Nat.exists_eq_add_of_le' hfuel
      have hnone : readStatements (fuel + 1) [] = .ok [] := rfl
      simpa using readStatements_line hname hline (.inl rfl) hnone
  | @line name value line given more hline _ ih =>
      obtain ⟨hname, hrest⟩ := List.forall_mem_cons.1 hnames
      obtain ⟨fuel, rfl⟩ : ∃ n, fuel = n + 1 + 1 := by
        rw [List.length_cons] at hfuel
        exact ⟨fuel - 2, by omega⟩
      rw [List.length_cons] at hfuel
      have hmore : readStatements (fuel + 1) ('\n' :: more) = .ok (given.map assignment) :=
        (readStatements_lineEnd fuel more).trans (ih hrest (by omega))
      exact readStatements_line hname hline (.inr ⟨more, rfl⟩) hmore

theorem IsDocument.dropMark_eq {given : List (String × String)} {cs : List Char}
    (h : IsDocument given cs) (hnames : ∀ g ∈ given, IsName g.1) : dropMark cs = cs := by
  have hline : ∀ {name value line}, IsName name → IsLine name value line → ∀ after,
      dropMark (line ++ after) = line ++ after := by
    intro name value line hname hline after
    obtain ⟨c, rest, rfl, hc⟩ := hline.exists_cons hname
    have hmark : c.toNat ≠ 0xFEFF := by
      intro hnat
      exact ne_of_isKeyChar (d := Char.ofNat 0xFEFF) hc rfl (by rw [← hnat, Char.ofNat_toNat])
    exact if_neg hmark
  cases h with
  | none => rfl
  | last h =>
      obtain ⟨hname, -⟩ := List.forall_mem_cons.1 hnames
      simpa using hline hname h []
  | line h _ => exact hline (List.forall_mem_cons.1 hnames).1 h _

theorem statements_document {given : List (String × String)} {document : String}
    (h : IsDocument given document.toList) (hnames : ∀ g ∈ given, IsName g.1) :
    statements document = .ok (given.map assignment) := by
  unfold statements
  simp only [h.dropMark_eq hnames]
  exact readStatements_document h hnames (Nat.lt_succ_of_le h.length_le)

/-! ## Tables -/

/-- The entry of a table that holds a text. -/
def textEntry (given : String × String) : String × Item := (given.1, .value (.text given.2))

theorem map_fst_textEntry (given : List (String × String)) :
    (given.map textEntry).map Prod.fst = given.map Prod.fst := by
  rw [List.map_map]
  rfl

theorem findEntry_textEntry {given : List (String × String)}
    (hdistinct : (given.map Prod.fst).Nodup) {name value : String} (h : (name, value) ∈ given) :
    findEntry name (given.map textEntry) = some (.value (.text value)) := by
  have hfound : findEntry name given = some value :=
    (findEntry_eq_some_iff (List.pairwise_map.1 hdistinct) name value).2 h
  exact (findEntry_map (fun s => Item.value (.text s)) name given).trans (congrArg _ hfound)

/-- A text under a new name is one more entry. -/
theorem runStatement_assignment {build : Build} {given : String × String}
    (h : given.1 ∉ build.entries.map Prod.fst) :
    runStatement build (assignment given) =
      .ok { build with entries := build.entries ++ [textEntry given] } := by
  have hassign : assign (.value (.text given.2)) [given.1] build.entries =
      .ok (build.entries ++ [textEntry given]) := by
    rw [assign, (findEntry_eq_none_iff given.1 build.entries).2 h]
    exact congrArg Except.ok (putEntry_of_not_mem h _)
  have hpath : pathOf [.proper given.1] = .ok [given.1] := rfl
  simp only [assignment, runStatement, hpath, itemOf, hassign]

/-- Texts under different names are as many entries. -/
theorem runStatements_assignments {given : List (String × String)} {build : Build}
    (h : (build.entries.map Prod.fst ++ given.map Prod.fst).Nodup) :
    runStatements build (given.map assignment) =
      .ok { build with entries := build.entries ++ given.map textEntry } := by
  induction given generalizing build with
  | nil => simp [runStatements]
  | cons first rest ih =>
      have hnew : first.1 ∉ build.entries.map Prod.fst := by
        intro hmem
        exact (List.nodup_append.1 h).2.2 _ hmem _ List.mem_cons_self rfl
      rw [List.map_cons, runStatements, runStatement_assignment hnew]
      simp only
      rw [ih (by simpa [textEntry] using h)]
      simp

theorem entriesInRange_texts (given : List (String × String)) :
    entriesInRange (given.map textEntry) = true := by
  induction given with
  | nil => rfl
  | cons first rest ih => simpa [entriesInRange, textEntry, Item.inRange] using ih

/-- A document of lines for different names is the table of their texts. -/
theorem entriesOfDocument_lines {given : List (String × String)} {document : String}
    (h : IsDocument given document.toList) (hnames : ∀ g ∈ given, IsName g.1)
    (hnodup : (given.map Prod.fst).Nodup) :
    entriesOfDocument document = .ok (given.map textEntry) := by
  have hrun : runStatements .empty (given.map assignment) = .ok ⟨[], none, given.map textEntry⟩ :=
    runStatements_assignments (by simpa [Build.empty] using hnodup)
  unfold entriesOfDocument
  simp only [statements_document h hnames, hrun, Build.closed, entriesInRange_texts, if_true]

end ApiStubs.Toml
