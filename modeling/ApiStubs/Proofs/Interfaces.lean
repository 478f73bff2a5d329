import ApiStubs.Proofs.Imports
import ApiStubs.Proofs.Schema.Qualification
import ApiStubs.Proofs.Schema.Union
import ApiStubs.Proofs.Text.Lines

/-!
# The properties of TypeScript interfaces

The file of types has an interface for every message and in it a property for every field.  An
interface of an error shape has the discriminant besides, and so twice if the message has a field of
that name.  No other property occurs twice unless a field does.  The properties can be read off the
lines of the file as long as names keep to their lines.
-/

namespace ApiStubs

/-! ## Reading interfaces -/

namespace Text

/-- What stands between a given beginning and a given end of a text. -/
def between? (lead tail text : String) : Option String :=
  match afterLead? lead.toList text.toList with
  | none => none
  | some rest => (afterLead? tail.toList.reverse rest.reverse).map fun body =>
      String.ofList body.reverse

theorem between?_eq_some_iff {lead tail text body : String} :
    between? lead tail text = some body ↔ text = lead ++ body ++ tail := by
  constructor
  · intro h
    unfold between? at h
    split at h
    · cases h
    · rename_i rest hrest
      obtain ⟨reversed, hreversed, rfl⟩ := Option.map_eq_some_iff.1 h
      rw [afterLead?_eq_some_iff] at hrest hreversed
      have hlist : rest = reversed.reverse ++ tail.toList := by
        rw [← List.reverse_reverse rest, hreversed, List.reverse_append, List.reverse_reverse]
      exact String.toList_injective (by simp [hrest, hlist])
  · rintro rfl
    have hlead : afterLead? lead.toList (lead ++ body ++ tail).toList =
        some (body.toList ++ tail.toList) :=
      afterLead?_eq_some_iff.2 (by simp)
    have htail : afterLead? tail.toList.reverse (body.toList ++ tail.toList).reverse =
        some body.toList.reverse := afterLead?_eq_some_iff.2 (by simp)
    simp only [between?, hlead, htail, Option.map_some, List.reverse_reverse, String.ofList_toList]

theorem between?_self (lead body tail : String) :
    between? lead tail (lead ++ body ++ tail) = some body :=
  between?_eq_some_iff.2 rfl

theorem between?_eq_none {lead tail text : String} (h : ∀ body, text ≠ lead ++ body ++ tail) :
    between? lead tail text = none :=
  Option.eq_none_iff_forall_ne_some.2 fun body hbody => h body (between?_eq_some_iff.1 hbody)

/-- A text that starts otherwise has nothing between. -/
theorem between?_append_eq_none {lead start : String}
    (h : ¬ start.toList <+: lead.toList ∧ ¬ lead.toList <+: start.toList) (tail s : String) :
    between? lead tail (start ++ s) = none := by
  refine between?_eq_none fun body heq => ?_
  have hlist : start.toList ++ s.toList = lead.toList ++ (body.toList ++ tail.toList) := by
    rw [← String.toList_append, heq, String.toList_append, String.toList_append, List.append_assoc]
  rcases List.prefix_or_prefix_of_prefix (List.prefix_append _ _)
    ⟨_, hlist.symm⟩ with hstart | hlead
  · exact h.1 hstart
  · exact h.2 hlead

end Text

namespace Typescript

/-- The name of the interface that a line opens. -/
def interfaceName? (line : String) : Option String := Text.between? "export interface " " \x7b" line

/-- The name of the property that a line declares. -/
def propertyName? (line : String) : Option String :=
  (Text.between? "    " ";" line).map fun body => String.ofList (body.toList.takeWhile (· ≠ ':'))

/-- The interfaces in lines, each with the properties up to its end. -/
def readInterfaces : List String → List (String × List String)
  | [] => []
  | line :: rest =>
    match interfaceName? line with
    | none => readInterfaces rest
    | some name => (name, (rest.takeWhile (· ≠ "\x7d")).filterMap propertyName?) ::
      readInterfaces rest

/-- The interfaces that a text declares, with the names of their properties in order. -/
def interfaces (text : String) : List (String × List String) :=
  readInterfaces (Text.segments '\n' text)

section

variable {line name : String}

theorem readInterfaces_cons_of_none (h : interfaceName? line = none) (rest : List String) :
    readInterfaces (line :: rest) = readInterfaces rest := by
  simp only [readInterfaces, h]

theorem readInterfaces_cons_of_some (h : interfaceName? line = some name) (rest : List String) :
    readInterfaces (line :: rest) =
      (name, (rest.takeWhile (· ≠ "\x7d")).filterMap propertyName?) :: readInterfaces rest := by
  simp only [readInterfaces, h]

end

/-- Lines that open no interface are passed over. -/
theorem readInterfaces_append {lines : List String} (h : ∀ line ∈ lines, interfaceName? line = none)
    (rest : List String) : readInterfaces (lines ++ rest) = readInterfaces rest := by
  induction lines with
  | nil => rfl
  | cons line lines ih =>
    obtain ⟨hline, hlines⟩ := List.forall_mem_cons.1 h
    rw [List.cons_append, readInterfaces_cons_of_none hline, ih hlines]

/-! ## Lines of the file of types -/

/-- The type of a property. -/
def propertyType (f : Field) : String :=
  Language.typescript.nativeType f.dataType ++ if f.label = .repeated then "[]" else ""

/-- The comment of a field on a line of its own, if there is one. -/
def commentRows (f : Field) : List String :=
  if f.comment = "" then [] else ["    /** " ++ f.comment ++ " */"]

/-- The line of a property. -/
def propertyRow (f : Field) : String := "    " ++ (f.name ++ ": " ++ propertyType f) ++ ";"

/-- The lines of a field. -/
def fieldRows (f : Field) : List String := commentRows f ++ [propertyRow f]

/-- The lines of a message. -/
def messageRows (m : Message) : List String :=
  "" :: ("export interface " ++ m.name ++ " \x7b") :: (m.fields.flatMap fieldRows ++ ["\x7d"])

/-- A line that starts otherwise opens no interface. -/
theorem interfaceName?_append {start : String}
    (h : ¬ start.toList <+: "export interface ".toList ∧
      ¬ "export interface ".toList <+: start.toList)
    (s : String) : interfaceName? (start ++ s) = none :=
  Text.between?_append_eq_none h " \x7b" s

theorem interfaceName?_indented (s : String) : interfaceName? ("    " ++ s) = none :=
  interfaceName?_append (by simp) s

theorem propertyName?_propertyRow {f : Field} (h : ':' ∉ f.name.toList) :
    propertyName? (propertyRow f) = some f.name := by
  have hlist : (f.name ++ ": " ++ propertyType f).toList =
      f.name.toList ++ ':' :: ' ' :: (propertyType f).toList := by
    simp
  have hname : ∀ c ∈ f.name.toList, decide (c ≠ ':') = true := fun c hc =>
    decide_eq_true fun hcolon => h (hcolon ▸ hc)
  rw [propertyName?, propertyRow, Text.between?_self, Option.map_some, hlist,
    List.takeWhile_append_of_pos hname]
  simp

theorem propertyName?_comment (comment : String) :
    propertyName? ("    /** " ++ comment ++ " */") = none := by
  have hnone : Text.between? "    " ";" ("    /** " ++ comment ++ " */") = none := by
    refine Text.between?_eq_none fun body h => ?_
    have hlist := congrArg (fun s : String => s.toList.reverse) h
    simp at hlist
  rw [propertyName?, hnone, Option.map_none]

/-- Of the lines of fields, those of properties are read. -/
theorem filterMap_fieldRows {fields : List Field} (h : ∀ f ∈ fields, ':' ∉ f.name.toList) :
    (fields.flatMap fieldRows).filterMap propertyName? = fields.map Field.name := by
  induction fields with
  | nil => rfl
  | cons f fields ih =>
    obtain ⟨hf, hfields⟩ := List.forall_mem_cons.1 h
    have hcomment : (commentRows f).filterMap propertyName? = [] := by
      unfold commentRows
      split
      · rfl
      · exact List.filterMap_cons_none (propertyName?_comment f.comment)
    rw [List.flatMap_cons, List.filterMap_append, fieldRows, List.filterMap_append, hcomment,
      List.filterMap_cons_some (propertyName?_propertyRow hf), ih hfields]
    rfl

/-- The lines of fields are set off from those around them. -/
theorem exists_indented {fields : List Field} {row : String} (h : row ∈ fields.flatMap fieldRows) :
    ∃ s, row = "    " ++ s := by
  obtain ⟨f, -, hrow⟩ := List.mem_flatMap.1 h
  rcases List.mem_append.1 hrow with hcomment | hproperty
  · unfold commentRows at hcomment
    split at hcomment
    · cases hcomment
    · rw [List.mem_singleton.1 hcomment]
      exact ⟨"/** " ++ f.comment ++ " */", by simp [← String.append_assoc]⟩
  · rw [List.mem_singleton.1 hproperty]
    exact ⟨f.name ++ ": " ++ propertyType f ++ ";", String.append_assoc ..⟩

/-- The lines of a message are read as one interface with a property for each field. -/
theorem readInterfaces_messageRows {m : Message} (h : ∀ f ∈ m.fields, ':' ∉ f.name.toList)
    (rest : List String) :
    readInterfaces (messageRows m ++ rest) = (m.name, m.fields.map Field.name) ::
      readInterfaces rest := by
  have hrows : messageRows m ++ rest =
      "" :: ("export interface " ++ m.name ++ " \x7b") ::
        (m.fields.flatMap fieldRows ++ "\x7d" :: rest) := by
    simp [messageRows]
  have hblank : interfaceName? "" = none := rfl
  have hopens : interfaceName? ("export interface " ++ m.name ++ " \x7b") = some m.name :=
    Text.between?_self ..
  -- the interface ends at the first line that is not set off
  have hbody : (m.fields.flatMap fieldRows ++ "\x7d" :: rest).takeWhile (· ≠ "\x7d") =
      m.fields.flatMap fieldRows := by
    rw [List.takeWhile_append_of_pos, List.takeWhile_cons_of_neg (by simp), List.append_nil]
    intro row hrow
    obtain ⟨s, rfl⟩ := exists_indented hrow
    refine decide_eq_true fun hclose => ?_
    have hlist := congrArg String.toList hclose
    simp at hlist
  have hpassed : ∀ row ∈ m.fields.flatMap fieldRows ++ ["\x7d"], interfaceName? row = none := by
    intro row hrow
    rcases List.mem_append.1 hrow with hfield | hclose
    · obtain ⟨s, rfl⟩ := exists_indented hfield
      exact interfaceName?_indented s
    · rw [List.mem_singleton.1 hclose]
      rfl
  have hafter : readInterfaces (m.fields.flatMap fieldRows ++ "\x7d" :: rest) =
      readInterfaces rest := by
    rw [List.append_cons]
    exact readInterfaces_append hpassed rest
  rw [hrows, readInterfaces_cons_of_none hblank, readInterfaces_cons_of_some hopens, hbody,
    filterMap_fieldRows h, hafter]

/-- The lines of messages are read as their interfaces. -/
theorem readInterfaces_flatMap {messages : List Message}
    (h : ∀ m ∈ messages, ∀ f ∈ m.fields, ':' ∉ f.name.toList) (rest : List String) :
    readInterfaces (messages.flatMap messageRows ++ rest) =
      messages.map (fun m => (m.name, m.fields.map Field.name)) ++ readInterfaces rest := by
  induction messages with
  | nil => rfl
  | cons m messages ih =>
    obtain ⟨hm, hmessages⟩ := List.forall_mem_cons.1 h
    rw [List.flatMap_cons, List.append_assoc, readInterfaces_messageRows hm, ih hmessages]
    rfl

end Typescript

/-! ## Plain descriptions -/

/-- The texts of a field keep to one line, and its name ends before a colon. -/
def Field.IsPlain (f : Field) : Prop :=
  Text.OneLine f.name ∧ ':' ∉ f.name.toList ∧ Text.OneLine f.dataType ∧ Text.OneLine f.comment

instance (f : Field) : Decidable f.IsPlain := inferInstanceAs (Decidable (_ ∧ _ ∧ _ ∧ _))

/-- The texts of a message keep to one line. -/
def Message.IsPlain (m : Message) : Prop := Text.OneLine m.name ∧ ∀ f ∈ m.fields, f.IsPlain

instance (m : Message) : Decidable m.IsPlain := inferInstanceAs (Decidable (_ ∧ _))

/-- The names of an enumeration keep to one line. -/
def Enumeration.IsPlain (e : Enumeration) : Prop :=
  Text.OneLine e.name ∧ ∀ v ∈ e.values, Text.OneLine v.name

instance (e : Enumeration) : Decidable e.IsPlain := inferInstanceAs (Decidable (_ ∧ _))

/-- The texts of a description that show in the file of types keep to one line. -/
def Request.IsPlain (request : Request) : Prop :=
  (∀ e ∈ request.enums, e.IsPlain) ∧ (∀ m ∈ request.messages, m.IsPlain) ∧
    ∀ s ∈ request.services, ∀ error ∈ s.commonError?, Text.OneLine error

instance (request : Request) : Decidable request.IsPlain := inferInstanceAs (Decidable (_ ∧ _ ∧ _))

theorem oneLine_spell (language : Language) (scalar : Scalar) :
    Text.OneLine (language.spell scalar) := by
  cases language <;> cases scalar <;> decide

theorem oneLine_nativeType (language : Language) {typeName : String} (h : Text.OneLine typeName) :
    Text.OneLine (language.nativeType typeName) := by
  unfold Language.nativeType Language.lookup?
  cases Scalar.ofName? typeName with
  | none => exact h
  | some scalar => exact oneLine_spell language scalar

theorem oneLine_decimalNat (n : Nat) : Text.OneLine (Text.decimalNat n) := by
  intro hmem
  rw [Text.decimalNat, String.toList_ofList] at hmem
  exact absurd (Nat.isDigit_of_mem_toDigits (by decide) (by decide) hmem) (by decide)

theorem oneLine_decimal (n : Int) : Text.OneLine (Text.decimal n) := by
  cases n with
  | ofNat n => exact oneLine_decimalNat n
  | negSucc n => exact Text.oneLine_append.2 ⟨by decide, oneLine_decimalNat (n + 1)⟩

theorem Package.dropLeadingDot_subset (cs : List Char) : Package.dropLeadingDot cs ⊆ cs := by
  unfold Package.dropLeadingDot
  split
  · exact List.subset_cons_self ..
  · exact List.Subset.refl _

theorem oneLine_strip {dataType : String} (h : Text.OneLine dataType) (package : String) :
    Text.OneLine (Package.strip dataType package) := by
  unfold Package.strip
  split
  · exact h
  · split
    · rename_i c rest hrest
      rw [Text.afterLead?_eq_some_iff] at hrest
      intro hmem
      rw [String.toList_ofList] at hmem
      have hstripped : '\n' ∈ Package.dropLeadingDot dataType.toList := by
        rw [hrest]
        exact List.mem_append_right _ (List.mem_cons_of_mem _ hmem)
      exact h (Package.dropLeadingDot_subset _ hstripped)
    · exact h

/-- Flattening leaves the texts of a message on their lines. -/
theorem Message.IsPlain.flatten {m : Message} (h : m.IsPlain) : m.flatten.value.IsPlain := by
  obtain ⟨hname, hfields⟩ := h
  rw [Message.value_flatten]
  refine ⟨hname, fun f hf => ?_⟩
  obtain ⟨original, horiginal, rfl⟩ := List.mem_map.1 hf
  obtain ⟨hfield, hcolon, htype, hcomment⟩ := hfields original horiginal
  exact ⟨hfield, hcolon, oneLine_strip htype _, hcomment⟩

/-- So does the discriminant. -/
theorem Message.IsPlain.tag {m : Message} (h : m.IsPlain) (language : Language)
    (memberTypes : List String) :
    (Union.tag language memberTypes m).value.IsPlain := by
  unfold Union.tag
  split
  · refine ⟨h.1, fun f hf => ?_⟩
    rcases List.mem_append.1 hf with hown | hkind
    · exact h.2 f hown
    · rw [List.mem_singleton.1 hkind]
      decide
  · exact h

namespace Typescript

/-! ## The file of types line by line -/

/-- The line of a constant. -/
def constantRow (v : EnumValue) :
    String := "    " ++ (v.name ++ " = " ++ Text.decimal v.value.toInt ++ ",")

/-- The lines of an enumeration. -/
def enumRows (e : Enumeration) : List String :=
  "" :: ("export enum " ++ e.name ++ " \x7b") :: (e.values.map constantRow ++ ["\x7d"])

/-- The lines of the type of error shapes. -/
def unionRows (summary : Union.Summary) : List String :=
  if summary.hasCommonError = true ∧ ¬ summary.subTypes = "" then [
    "", "/** Error shapes a service call may reject with, told apart by `kind`. */",
    "export type " ++ (summary.commonError ++ "Union =" ++ summary.subTypes ++ ";")]
  else []

/-- The lines that the file of types starts with. -/
def headingRows : List String := [
  "/**",
  " * This file is generated by 'protoapi'",
  " * It contains the data structures used by the generated TypeScript client.",
  " * DO NOT EDIT.",
  " */"]

/-- A block has a line that opens it, its body and a line that closes it. -/
theorem hasLines_block {start opening name body : String} {rows : List String}
    (hstart : start = "\n" ++ opening) (hopening : Text.OneLine opening) (hname : Text.OneLine name)
    (hbody : Text.HasLines body rows) :
    Text.HasLines (Text.concat [start, name, " \x7b\n", body, "\x7d\n"])
      ("" :: (opening ++ name ++ " \x7b") :: (rows ++ ["\x7d"])) := by
  have hopens : Text.OneLine (opening ++ name ++ " \x7b") := by
    rw [Text.oneLine_append, Text.oneLine_append]
    exact ⟨⟨hopening, hname⟩, by decide⟩
  have hsplit : Text.concat [start, name, " \x7b\n", body, "\x7d\n"] =
      ("" ++ "\n") ++ ((opening ++ name ++ " \x7b" ++ "\n") ++ (body ++ ("\x7d" ++ "\n"))) :=
    String.toList_injective (by simp [Text.concat, hstart])
  rw [hsplit]
  exact .append (.line (by decide)) (.append (.line hopens) (.append hbody (.line (by decide))))

section

variable {f : Field} {m : Message} {v : EnumValue} {e : Enumeration} {summary : Union.Summary}

theorem hasLines_field (h : f.IsPlain) : Text.HasLines (fieldLines f) (fieldRows f) := by
  obtain ⟨hname, -, htype, hcomment⟩ := h
  have hproperty : Text.OneLine (propertyRow f) := by
    simp only [propertyRow, propertyType, Text.oneLine_append]
    exact ⟨⟨by decide, ⟨hname, by decide⟩, oneLine_nativeType .typescript htype,
      by split <;> decide⟩, by decide⟩
  have hsplit : fieldLines f =
      (if f.comment = "" then "" else "    /** " ++ f.comment ++ " */" ++ "\n") ++
        (propertyRow f ++ "\n") := by
    refine String.toList_injective ?_
    unfold fieldLines propertyRow propertyType
    split <;> simp [Text.concat]
  rw [hsplit]
  refine .append ?_ (.line hproperty)
  unfold commentRows
  split
  · exact .empty
  · refine .line ?_
    rw [Text.oneLine_append, Text.oneLine_append]
    exact ⟨⟨by decide, hcomment⟩, by decide⟩

theorem hasLines_message (h : m.IsPlain) : Text.HasLines (messageBlock m) (messageRows m) :=
  hasLines_block rfl (by decide) h.1 (.concat_map fun f hf => hasLines_field (h.2 f hf))

theorem hasLines_constant (h : Text.OneLine v.name) :
    Text.HasLines (constantLine v) [constantRow v] := by
  have hsplit : constantLine v = constantRow v ++ "\n" :=
    String.toList_injective (by simp [constantLine, constantRow, Text.concat])
  have hrow : Text.OneLine (constantRow v) := by
    simp only [constantRow, Text.oneLine_append]
    exact ⟨by decide, ⟨⟨h, by decide⟩, oneLine_decimal _⟩, by decide⟩
  rw [hsplit]
  exact .line hrow

theorem hasLines_enumeration (h : e.IsPlain) : Text.HasLines (enumBlock e) (enumRows e) := by
  have hconstants : Text.HasLines (Text.concat (e.values.map constantLine))
      (e.values.map constantRow) := by
    rw [← List.flatMap_singleton' (e.values.map constantRow), List.flatMap_map]
    exact .concat_map fun v hv => hasLines_constant (h.2 v hv)
  exact hasLines_block rfl (by decide) h.1 hconstants

theorem hasLines_union (herror : Text.OneLine summary.commonError)
    (hshapes : Text.OneLine summary.subTypes) :
    Text.HasLines (unionBlock summary) (unionRows summary) := by
  unfold unionBlock unionRows
  split
  · have hheading : unionHeading = "" ++ ("\n" ++
        ("/** Error shapes a service call may reject with, told apart by `kind`. */" ++
          ("\n" ++ "export type "))) := by decide +kernel
    have hsplit : Text.concat [unionHeading, summary.commonError, "Union =",
        summary.subTypes, ";\n"] =
        ("" ++ "\n") ++
          (("/** Error shapes a service call may reject with, told apart by `kind`. */" ++ "\n") ++
          ("export type " ++ (summary.commonError ++ "Union =" ++ summary.subTypes ++ ";") ++
            "\n")) := by
      rw [hheading]
      simp only [Text.concat, String.append_assoc, String.append_empty, String.empty_append]
      simp only [Text.append_literals, String.reduceEq, not_false_eq_true, String.reduceAppend]
    have hrow : Text.OneLine
        ("export type " ++ (summary.commonError ++ "Union =" ++ summary.subTypes ++ ";")) := by
      simp only [Text.oneLine_append]
      exact ⟨by decide, ⟨⟨herror, by decide⟩, hshapes⟩, by decide⟩
    rw [hsplit]
    exact .append (.line (by decide)) (.append (.line (Text.oneLine_ofList rfl)) (.line hrow))
  · exact .empty

theorem hasLines_heading : Text.HasLines heading headingRows := by
  have htext : heading = Asset.linesText headingRows := by decide +kernel
  have hrows : ∀ row ∈ headingRows, Text.OneLine row := by
    simp only [headingRows, List.forall_mem_cons, List.not_mem_nil, false_imp_iff,
      implies_true, and_true]
    and_intros <;> exact Text.oneLine_ofList rfl
  rw [htext]
  exact .linesText hrows

end

/-- The lines of the file of types that are not those of messages open no interface. -/
theorem interfaceName?_enumRows {enums : List Enumeration} {row : String}
    (h : row ∈ enums.flatMap enumRows) :
    interfaceName? row = none := by
  obtain ⟨e, -, hrow⟩ := List.mem_flatMap.1 h
  simp only [enumRows, List.mem_cons, List.mem_append, List.mem_map, List.not_mem_nil, or_false]
    at hrow
  rcases hrow with rfl | rfl | ⟨v, -, rfl⟩ | rfl
  · rfl
  · rw [String.append_assoc]
    exact interfaceName?_append (by simp) _
  · exact interfaceName?_indented _
  · rfl

theorem interfaceName?_unionRows {summary : Union.Summary} {row : String}
    (h : row ∈ unionRows summary) :
    interfaceName? row = none := by
  unfold unionRows at h
  split at h
  · simp only [List.mem_cons, List.not_mem_nil, or_false] at h
    rcases h with rfl | rfl | rfl
    · rfl
    · decide +kernel
    · exact interfaceName?_append (by simp) _
  · cases h

theorem interfaceName?_headingRows : ∀ row ∈ headingRows, interfaceName? row = none := by
  decide +kernel

/-- The interfaces of messages stand in the file of types one after the other. -/
theorem occurs_messageBlocks (enums : List Enumeration) (messages : List Message)
    (summary : Union.Summary) :
    Text.Occurs (Text.concat (messages.map messageBlock)) (typesText enums messages summary) := by
  refine ⟨heading ++ Text.concat (enums.map enumBlock), unionBlock summary, ?_⟩
  simp only [typesText, Text.concat, String.append_assoc, String.append_empty]

/-- The file of types has the interfaces of its messages and no others. -/
theorem interfaces_typesText {enums : List Enumeration} {messages : List Message}
    {summary : Union.Summary} (henums : ∀ e ∈ enums, e.IsPlain)
    (hmessages : ∀ m ∈ messages, m.IsPlain) (herror : Text.OneLine summary.commonError)
    (hshapes : Text.OneLine summary.subTypes) :
    interfaces (typesText enums messages summary) =
      messages.map fun m => (m.name, m.fields.map Field.name) := by
  have hlines : Text.HasLines (typesText enums messages summary)
      (headingRows ++
        (enums.flatMap enumRows ++ (messages.flatMap messageRows ++ unionRows summary))) := by
    have hsplit : typesText enums messages summary = heading ++
        (Text.concat (enums.map enumBlock) ++
        (Text.concat (messages.map messageBlock) ++ unionBlock summary)) := by
      simp only [typesText, Text.concat, String.append_empty]
    rw [hsplit]
    exact hasLines_heading.append
      (.append (.concat_map fun e he => hasLines_enumeration (henums e he))
      (.append (.concat_map fun m hm => hasLines_message (hmessages m hm))
        (hasLines_union herror hshapes)))
  have hend : ∀ row ∈ unionRows summary ++ [""], interfaceName? row = none := by
    intro row hrow
    rcases List.mem_append.1 hrow with hrow | hrow
    · exact interfaceName?_unionRows hrow
    · rw [List.mem_singleton.1 hrow]
      rfl
  have hcolons : ∀ m ∈ messages, ∀ f ∈ m.fields, ':' ∉ f.name.toList :=
    fun m hm f hf => ((hmessages m hm).2 f hf).2.1
  have hafter : readInterfaces (unionRows summary ++ [""]) = [] := by
    simpa [readInterfaces] using readInterfaces_append hend []
  rw [interfaces, hlines.segments_eq]
  simp only [List.append_assoc]
  rw [readInterfaces_append interfaceName?_headingRows,
    readInterfaces_append fun _ => interfaceName?_enumRows, readInterfaces_flatMap hcolons, hafter,
    List.append_nil]

end Typescript

/-! ## The interfaces of a run -/

/-- A type is a shape of the common error of the service. -/
def Request.IsErrorShape (request : Request) (typeName : String) : Prop :=
  Union.IsShape .typescript (flattenAll request.messages)
    (Backend.commonErrorOf request.services.head?)
    typeName

instance (request : Request) (typeName : String) : Decidable (request.IsErrorShape typeName) :=
  inferInstanceAs (Decidable (Union.IsShape ..))

/-- The properties of a message: one for each field, and for an error shape the discriminant. -/
def Request.propertyNames (request : Request) (m : Message) : List String :=
  m.fields.map Field.name ++ if request.IsErrorShape m.name then ["kind"] else []

/-- A message as the file of types shows it. -/
def Request.shown (request : Request) (m : Message) : Message :=
  (Union.tag .typescript (Union.members .typescript (flattenAll request.messages)
    (Backend.commonErrorOf request.services.head?)) m.flatten.value).value

section Shown

variable {request : Request}

theorem Request.name_shown (request : Request) (m : Message) : (request.shown m).name = m.name := by
  rw [Request.shown, Union.name_tag, Message.name_flatten]

/-- A message is shown with its properties. -/
theorem Request.map_name_shown (request : Request) (m : Message) :
    (request.shown m).fields.map Field.name = request.propertyNames m := by
  have hflat : m.flatten.value.fields.map Field.name = m.fields.map Field.name := by
    rw [Message.value_flatten, List.map_map]
    rfl
  rw [Request.shown, Union.fields_tag, Message.name_flatten, List.map_append, hflat,
    Request.propertyNames, apply_ite (List.map Field.name)]
  rfl

theorem Request.typesOf_eq (request : Request) :
    Backend.typesOf request request.services.head? =
      Typescript.typesText request.enums (request.messages.map request.shown)
        (Union.summary .typescript (flattenAll request.messages)
          (Backend.commonErrorOf request.services.head?)) := by
  simp only [Backend.typesOf, Union.tagAll, flattenAll, List.map_map]
  rfl

theorem Request.nodup_propertyNames_iff {m : Message} (h : (m.fields.map Field.name).Nodup) :
    (request.propertyNames m).Nodup ↔
      ¬ (request.IsErrorShape m.name ∧ "kind" ∈ m.fields.map Field.name) := by
  unfold Request.propertyNames
  split
  · rename_i hshape
    rw [(List.perm_append_singleton "kind" _).nodup_iff, List.nodup_cons]
    exact ⟨fun hnew hboth => hnew.1 hboth.2, fun hnew => ⟨fun hkind => hnew ⟨hshape, hkind⟩, h⟩⟩
  · rename_i hshape
    rw [List.append_nil]
    exact ⟨fun _ hboth => hshape hboth.1, fun _ => h⟩

theorem oneLine_members (language : Language) {messages : List Message}
    (h : ∀ m ∈ messages, m.IsPlain) (commonError : Option String) :
    ∀ type ∈ Union.members language messages commonError, Text.OneLine type := by
  intro type htype
  obtain ⟨name, root, f, -, ⟨before, after, rfl, -, -⟩, hf, rfl⟩ := Union.mem_members.1 htype
  exact oneLine_nativeType language ((h root (by simp)).2 f hf).2.2.1

theorem oneLine_subTypes (language : Language) {messages : List Message}
    (h : ∀ m ∈ messages, m.IsPlain) (commonError : Option String) :
    Text.OneLine (Union.summary language messages commonError).subTypes := by
  refine .concat fun text htext => ?_
  obtain ⟨type, htype, rfl⟩ := List.mem_map.1 htext
  exact Text.oneLine_append.2 ⟨by decide, oneLine_members language h commonError type htype⟩

theorem oneLine_commonError (language : Language) (messages : List Message)
    {commonError : Option String} (h : ∀ error ∈ commonError, Text.OneLine error) :
    Text.OneLine (Union.summary language messages commonError).commonError := by
  cases commonError with
  | none => exact List.not_mem_nil
  | some error => exact h error rfl

/-- The interfaces can be read off the file of types of a plain description. -/
theorem Request.IsPlain.interfaces_eq (h : request.IsPlain) :
    Typescript.interfaces (Backend.typesOf request request.services.head?) =
      request.messages.map fun m => (m.name, request.propertyNames m) := by
  obtain ⟨henums, hmessages, herrors⟩ := h
  have hflat : ∀ m ∈ flattenAll request.messages, m.IsPlain := by
    intro m hm
    obtain ⟨original, horiginal, rfl⟩ := List.mem_map.1 hm
    exact (hmessages original horiginal).flatten
  have hshown : ∀ m ∈ request.messages.map request.shown, m.IsPlain := by
    intro m hm
    obtain ⟨original, horiginal, rfl⟩ := List.mem_map.1 hm
    exact (hmessages original horiginal).flatten.tag ..
  have herror : ∀ error ∈ Backend.commonErrorOf request.services.head?, Text.OneLine error := by
    intro error hcommon
    cases hhead : request.services.head? with
    | none =>
      rw [hhead] at hcommon
      cases hcommon
    | some s =>
      rw [hhead] at hcommon
      exact herrors s (List.mem_of_head? hhead) error hcommon
  rw [Request.typesOf_eq, Typescript.interfaces_typesText henums hshown
    (oneLine_commonError _ _ herror) (oneLine_subTypes _ hflat _) , List.map_map]
  refine List.map_congr_left fun m _ => ?_
  rw [Function.comp_apply, Request.name_shown, Request.map_name_shown]

end Shown

/-- In a description whose fields have different names within each message, every message has one
interface, in order, with a property for each field and at the end the discriminant if the message
is a shape of the common error.  So its properties are different unless a message that is such a
shape has a field with the name of the discriminant.  The interfaces are those that can be read off
the file as long as texts keep to their lines. -/
theorem interface_properties {name : String} {backend : Backend} {request : Request}
    (hname : (name, backend) ∈ typescriptBackends) (hservices : request.services.length ≤ 1)
    (hfields : ∀ m ∈ request.messages, (m.fields.map Field.name).Nodup) :
    ((∃ files, (Generator.standard .builtin).generate name request = .ok files) ↔
      ∀ s ∈ request.services, s.name ≠ "helper") ∧
    (∀ files, (Generator.standard .builtin).generate name request = .ok files →
      ∃ types shown, files.get? (request.baseNameOf request.services.head? ++ "Objs.ts") =
        some types ∧
        Text.Occurs (Text.concat (shown.map Typescript.messageBlock)) types ∧
        List.Forall₂ (fun m block : Message =>
          block.name = m.name ∧ block.fields.map Field.name = request.propertyNames m)
          request.messages shown ∧
        (request.IsPlain →
          Typescript.interfaces types = request.messages.map fun m =>
            (m.name, request.propertyNames m))) ∧
    ∀ m ∈ request.messages, (request.propertyNames m).Nodup ↔
      ¬ (request.IsErrorShape m.name ∧ "kind" ∈ m.fields.map Field.name) := by
  have hservice := services_eq_toList_head? hservices
  refine ⟨?_, fun files hfiles => ?_, fun m hm => Request.nodup_propertyNames_iff (hfields m hm)⟩
  · rw [exists_typescript_files_iff hname hservice]
    constructor
    · intro hother s hs
      rw [hservice] at hs
      exact hother s (Option.mem_toList.1 hs)
    · intro hother s hs
      exact hother s (List.mem_of_head? hs)
  · refine ⟨_, request.messages.map request.shown, get?_types_of_generate hname hservice hfiles, ?_,
      List.forall₂_map_right_iff.2 (List.forall₂_same.2 fun m _ => ⟨request.name_shown m,
        request.map_name_shown m⟩), Request.IsPlain.interfaces_eq⟩
    rw [Request.typesOf_eq]
    exact Typescript.occurs_messageBlocks ..

/-- A shop whose faults are denials, which the fault names with its package. -/
def denyingShop : Request :=
  { Request.empty with
    services := [faultyShop]
    messages := [
      Message.ofFields "Item" [⟨"kind", "kind", "Kind", .repeated, "what it is", SortedMap.empty⟩],
      ⟨"Fault", [Field.ofType "denied" "shop.Denied"], .optional, "shop"⟩,
      Message.ofFields "Denied" [Field.ofType "reason" "Reason", Field.ofType "code" "int32"]]
    enums := [⟨"Kind", [⟨"NEW", -1⟩, ⟨"USED", 2⟩]⟩] }

/-- Denials have the discriminant besides their fields; items have just the one that is a field of
theirs. -/
theorem interface_properties_shop :
    ("ts-fetch", Backend.fetch) ∈ typescriptBackends ∧ denyingShop.services.length ≤ 1 ∧
    (∀ m ∈ denyingShop.messages, (m.fields.map Field.name).Nodup) ∧ denyingShop.IsPlain ∧
    ∃ files types, (Generator.standard .builtin).generate "ts-fetch" denyingShop = .ok files ∧
      files.get? "ShopObjs.ts" = some types ∧
      Typescript.interfaces types =
        [("Item", ["kind"]), ("Fault", ["denied"]), ("Denied", ["reason", "code", "kind"])] := by
  have hname : ("ts-fetch", Backend.fetch) ∈ typescriptBackends := by decide
  have hservices : denyingShop.services.length ≤ 1 := by decide
  have hfields : ∀ m ∈ denyingShop.messages, (m.fields.map Field.name).Nodup := by decide
  have hplain : denyingShop.IsPlain := by decide +kernel
  have hproperties : (denyingShop.messages.map fun m => (m.name, denyingShop.propertyNames m)) =
      [("Item", ["kind"]), ("Fault", ["denied"]), ("Denied", ["reason", "code", "kind"])] := by
    decide +kernel
  obtain ⟨hends, hfiles, -⟩ := interface_properties hname hservices hfields
  obtain ⟨files, hrun⟩ := hends.2 (by decide)
  obtain ⟨types, shown, htypes, -, -, hread⟩ := hfiles files hrun
  exact ⟨hname, hservices, hfields, hplain, files, types, hrun, htypes,
    (hread hplain).trans hproperties⟩

/-- A denial that has a field with the name of the discriminant has the property twice. -/
theorem interface_repeats_discriminant :
    let request : Request :=
      { Request.empty with
        services := [faultyShop]
        messages := [
          Message.ofFields "Fault" [Field.ofType "denied" "Denied"],
          Message.ofFields "Denied" [Field.ofType "kind" "int32"]] }
    request.services.length ≤ 1 ∧ (∀ m ∈ request.messages, (m.fields.map Field.name).Nodup) ∧
    ∀ name backend, (name, backend) ∈ typescriptBackends →
      ∃ files types, (Generator.standard .builtin).generate name request = .ok files ∧
        files.get? "ShopObjs.ts" = some types ∧
        Typescript.interfaces types = [("Fault", ["denied"]), ("Denied", ["kind", "kind"])] := by
  intro request
  refine ⟨by decide, by decide, fun name backend hname => ?_⟩
  have hservice : request.services = (some faultyShop).toList := rfl
  have hplain : request.IsPlain := by decide +kernel
  have hproperties : (request.messages.map fun m => (m.name, request.propertyNames m)) =
      [("Fault", ["denied"]), ("Denied", ["kind", "kind"])] := by decide +kernel
  obtain ⟨files, hrun⟩ := (exists_typescript_files_iff hname hservice).2 (by decide)
  exact ⟨files, _, hrun, get?_types_of_generate hname hservice hrun,
    hplain.interfaces_eq.trans hproperties⟩

end ApiStubs
