import ApiStubs.Schema.Union

/-!
# The shapes of the common error

Which messages get the discriminant, said without the pass that gives it to them: those whose name
is spelt in the language like the type of a field of the common error.  A second pass finds the
shapes of the first one again.  It finds more of them only when the common error is a shape of its
own, for then the discriminant is one of its fields.
-/

namespace ApiStubs.Union

/-- A message is the first one in a list with a name. -/
def IsFirstNamed (messages : List Message) (name : String) (m : Message) : Prop :=
  ∃ before after, messages = before ++ m :: after ∧ m.name = name ∧
    ∀ other ∈ before, other.name ≠ name

/-- A type is a shape of the common error: the language spells it like the type of a field of the
first message with the name of the common error. -/
def IsShape (language : Language) (messages : List Message) (commonError : Option String)
    (typeName : String) : Prop :=
  ∃ name root f, commonError = some name ∧ IsFirstNamed messages name root ∧ f ∈ root.fields ∧
    language.nativeType typeName = language.nativeType f.dataType

/-- The common error is one of its own shapes. -/
def IsOwnShape (language : Language) (messages : List Message)
    (commonError : Option String) : Prop :=
  ∃ name, commonError = some name ∧ IsShape language messages commonError name

section

variable {language : Language} {messages : List Message} {commonError : Option String}
  {name typeName : String} {root : Message}

/-! ## Members -/

theorem find?_eq_some_iff :
    messages.find? (fun m => m.name == name) = some root ↔ IsFirstNamed messages name root := by
  rw [List.find?_eq_some_iff_append]
  constructor
  · rintro ⟨hname, before, after, rfl, hbefore⟩
    exact ⟨before, after, rfl, by simpa using hname,
      fun other hother => by simpa using hbefore other hother⟩
  · rintro ⟨before, after, rfl, hname, hbefore⟩
    exact ⟨by simpa using hname, before, after, rfl,
      fun other hother => by simpa using hbefore other hother⟩

/-- The members are the types of the fields of the common error. -/
theorem members_eq (h : IsFirstNamed messages name root) :
    members language messages (some name) =
      root.fields.map fun f => language.nativeType f.dataType := by
  simp only [members, errorFields?, find?_eq_some_iff.2 h, Option.map_some]

/-- Without a message for the common error there are no members. -/
theorem members_eq_nil (h : ∀ name root, commonError = some name →
    ¬ IsFirstNamed messages name root) :
    members language messages commonError = [] := by
  cases commonError with
  | none => rfl
  | some name =>
    have hnone : messages.find? (fun m => m.name == name) = none := by
      refine Option.eq_none_iff_forall_ne_some.2 fun root hroot => ?_
      exact h name root rfl (find?_eq_some_iff.1 hroot)
    simp only [members, errorFields?, hnone, Option.map_none]

theorem mem_members {type : String} :
    type ∈ members language messages commonError ↔
      ∃ name root f, commonError = some name ∧ IsFirstNamed messages name root ∧ f ∈ root.fields ∧
        type = language.nativeType f.dataType := by
  constructor
  · intro hmem
    by_cases hroot : ∃ name root, commonError = some name ∧ IsFirstNamed messages name root
    · obtain ⟨name, root, rfl, hfirst⟩ := hroot
      rw [members_eq hfirst] at hmem
      obtain ⟨f, hf, htype⟩ := List.mem_map.1 hmem
      exact ⟨name, root, f, rfl, hfirst, hf, htype.symm⟩
    · rw [members_eq_nil fun name root hname hfirst => hroot ⟨name, root, hname, hfirst⟩] at hmem
      cases hmem
  · rintro ⟨name, root, f, rfl, hfirst, hf, rfl⟩
    rw [members_eq hfirst]
    exact List.mem_map_of_mem hf

theorem mem_members_iff :
    language.nativeType typeName ∈ members language messages commonError ↔
      IsShape language messages commonError typeName :=
  mem_members

instance : Decidable (IsShape language messages commonError typeName) :=
  decidable_of_iff _ mem_members_iff

/-! ## One pass -/

theorem tag_of_isShape {m : Message} (h : IsShape language messages commonError m.name) :
    tag language (members language messages commonError) m = .changed (m.append discriminant) := by
  have hmember : (members language messages commonError).contains (language.nativeType m.name) =
      true :=
    List.contains_iff_mem.2 (mem_members_iff.2 h)
  rw [tag, if_pos hmember]

theorem tag_of_not_isShape {m : Message} (h : ¬ IsShape language messages commonError m.name) :
    tag language (members language messages commonError) m = .kept m := by
  have hmember : ¬ (members language messages commonError).contains (language.nativeType m.name) =
      true :=
    fun hcontains => h (mem_members_iff.1 (List.contains_iff_mem.1 hcontains))
  rw [tag, if_neg hmember]

theorem name_tag (language : Language) (memberTypes : List String) (m : Message) :
    (tag language memberTypes m).value.name = m.name := by
  unfold tag
  split <;> rfl

/-- After the pass a message has its own fields and, if it is a shape, the discriminant behind
them. -/
theorem fields_tag (m : Message) :
    (tag language (members language messages commonError) m).value.fields =
      m.fields ++ if IsShape language messages commonError m.name then [discriminant] else [] := by
  by_cases h : IsShape language messages commonError m.name
  · rw [tag_of_isShape h, if_pos h]
    rfl
  · rw [tag_of_not_isShape h, if_neg h, List.append_nil]
    rfl

theorem getElem?_tagAll (i : Nat) :
    (tagAll language messages commonError)[i]? =
      messages[i]?.map (tag language (members language messages commonError)) :=
  List.getElem?_map ..

/-- The pass keeps the number and the order of messages.  A message that is a shape of the common
error is replaced by a new one that differs only in one more field at the end; every other message
is passed on as it was. -/
theorem tagAll_replaces_shapes (language : Language) (messages : List Message)
    (commonError : Option String) :
    (tagAll language messages commonError).length = messages.length ∧
    ∀ (i : Nat) (m : Message), messages[i]? = some m →
      (¬ IsShape language messages commonError m.name →
        (tagAll language messages commonError)[i]? = some (.kept m)) ∧
      (IsShape language messages commonError m.name →
        (tagAll language messages commonError)[i]? = some (.changed
          ⟨m.name, m.fields ++ [⟨"kind", "kind", "string", .optional, "", SortedMap.empty⟩],
            m.label, m.package⟩)) := by
  refine ⟨List.length_map .., fun i m hm => ⟨fun hother => ?_, fun hshape => ?_⟩⟩
  · rw [getElem?_tagAll, hm, Option.map_some, tag_of_not_isShape hother]
  · rw [getElem?_tagAll, hm, Option.map_some, tag_of_isShape hshape]
    rfl

/-- Two messages whose names Java spells like the type of the one field of the common error get the
discriminant; that a later message has the name of the common error too does not matter. -/
theorem tagAll_replaces_shapes_spelt_alike :
    let counts : Message := Message.ofFields "int32" [Field.ofType "kind" "bytes"]
    let item : Message := Message.ofFields "Item" []
    let messages : List Message := [
      counts, Message.ofFields "Fault" [Field.ofType "code" "fixed32"],
      Message.ofFields "Fault" [Field.ofType "item" "Item"], item, Message.ofFields "Integer" []]
    messages[0]? = some counts ∧ messages[3]? = some item ∧
      IsShape .java messages (some "Fault") counts.name ∧
        ¬ IsShape .java messages (some "Fault") item.name ∧
      (tagAll .java messages (some "Fault")).length = 5 ∧
      (tagAll .java messages (some "Fault"))[0]? = some (.changed
        (Message.ofFields "int32" [Field.ofType "kind" "bytes", Field.ofType "kind" "string"])) ∧
      (tagAll .java messages (some "Fault"))[3]? = some (.kept item) ∧
      (tagAll .java messages (some "Fault"))[4]? =
        some (.changed (Message.ofFields "Integer" [Field.ofType "kind" "string"])) := by
  intro counts item messages
  obtain ⟨hlength, hpass⟩ := tagAll_replaces_shapes .java messages (some "Fault")
  have hcounts : IsShape .java messages (some "Fault") counts.name := by decide
  have hitem : ¬ IsShape .java messages (some "Fault") item.name := by decide
  exact ⟨rfl, rfl, hcounts, hitem, hlength, (hpass 0 counts rfl).2 hcounts,
    (hpass 3 item rfl).1 hitem, (hpass 4 _ rfl).2 (by decide)⟩

theorem getElem?_kept_iff {i : Nat} {m : Message} :
    (tagAll language messages commonError)[i]? = some (.kept m) ↔
      messages[i]? = some m ∧ ¬ IsShape language messages commonError m.name := by
  rw [getElem?_tagAll, Option.map_eq_some_iff]
  constructor
  · rintro ⟨found, hfound, htag⟩
    by_cases hshape : IsShape language messages commonError found.name
    · rw [tag_of_isShape hshape] at htag
      cases htag
    · rw [tag_of_not_isShape hshape] at htag
      cases htag
      exact ⟨hfound, hshape⟩
  · rintro ⟨hm, hother⟩
    exact ⟨m, hm, tag_of_not_isShape hother⟩

/-! ## A second pass -/

/-- The first message with a name is found where it was, whatever is done to messages but to their
names. -/
theorem isFirstNamed_map_iff {f : Message → Message} (hf : ∀ m, (f m).name = m.name)
    {found : Message} :
    IsFirstNamed (messages.map f) name found ↔ ∃ root, IsFirstNamed messages name root ∧
      f root = found := by
  have hnames : (fun m : Message => m.name == name) ∘ f = fun m => m.name == name := by
    funext m
    rw [Function.comp_apply, hf]
  simp only [← find?_eq_some_iff, List.find?_map, hnames, Option.map_eq_some_iff]

/-- After a pass there is one more shape if the common error is a shape of its own: the type of the
discriminant. -/
theorem isShape_again_iff :
    IsShape language ((tagAll language messages commonError).map Revision.value)
      commonError typeName ↔
      IsShape language messages commonError typeName ∨
        IsOwnShape language messages commonError ∧
          language.nativeType typeName = language.nativeType discriminant.dataType := by
  have hpass : (tagAll language messages commonError).map Revision.value =
      messages.map fun m => (tag language (members language messages commonError) m).value :=
    List.map_map ..
  rw [hpass]
  constructor
  · rintro ⟨name, found, f, rfl, hfound, hf, htype⟩
    obtain ⟨root, hroot, rfl⟩ := (isFirstNamed_map_iff (name_tag language _)).1 hfound
    rw [fields_tag, List.mem_append] at hf
    rcases hf with hf | hf
    · exact .inl ⟨name, root, f, rfl, hroot, hf, htype⟩
    · -- the field is the discriminant that the pass gave to the common error
      split at hf
      · rename_i hown
        obtain ⟨_, _, _, hname, _⟩ := hroot
        rw [hname] at hown
        rw [List.mem_singleton.1 hf] at htype
        exact .inr ⟨⟨name, rfl, hown⟩, htype⟩
      · cases hf
  · rintro (⟨name, root, f, rfl, hroot, hf, htype⟩ | ⟨⟨name, rfl, hown⟩, htype⟩)
    · refine ⟨name, _, f, rfl, (isFirstNamed_map_iff (name_tag language _)).2 ⟨root, hroot, rfl⟩,
        ?_, htype⟩
      rw [fields_tag]
      exact List.mem_append_left _ hf
    · obtain ⟨_, root, _, hname, hroot, -, -⟩ := id hown
      cases hname
      refine ⟨name, _, discriminant, rfl, (isFirstNamed_map_iff (name_tag language _)).2 ⟨root,
        hroot, rfl⟩, ?_, htype⟩
      obtain ⟨_, _, _, hrootName, _⟩ := hroot
      rw [fields_tag, if_pos (hrootName ▸ hown)]
      exact List.mem_append_right _ List.mem_cons_self

/-- A message that a pass leaves alone is left alone by a second pass, unless the common error is a
shape of its own and the language spells the name of the message like the type of the
discriminant. -/
theorem kept_again_iff {i : Nat} {m : Message}
    (h : (tagAll language messages commonError)[i]? = some (.kept m)) :
    (tagAll language ((tagAll language messages commonError).map Revision.value) commonError)[i]? =
        some (.kept m) ↔
      ¬ (IsOwnShape language messages commonError ∧
        language.nativeType m.name = language.nativeType "string") := by
  have hagain : ((tagAll language messages commonError).map Revision.value)[i]? = some m := by
    rw [List.getElem?_map, h]
    rfl
  have hother : ¬ IsShape language messages commonError m.name := (getElem?_kept_iff.1 h).2
  rw [getElem?_kept_iff, isShape_again_iff]
  constructor
  · rintro ⟨-, hnone⟩ hmore
    exact hnone (.inr hmore)
  · intro hnone
    exact ⟨hagain, fun hshape => hshape.elim hother hnone⟩

end

section Example

/-- A fault that may hold another fault, and two messages that are no faults, one with the name of a
scalar. -/
def nestedFault : List Message := [
  Message.ofFields "Fault" [Field.ofType "cause" "Fault"], Message.ofFields "bytes" [],
  Message.ofFields "Item" []]

/-- The first pass tags the fault only.  The second one leaves the item alone. -/
theorem kept_again_item :
    let once := tagAll .typescript nestedFault (some "Fault")
    once[2]? = some (.kept (Message.ofFields "Item" [])) ∧
      (tagAll .typescript (once.map Revision.value) (some "Fault"))[2]? =
        some (.kept (Message.ofFields "Item" [])) := by
  intro once
  have honce : once[2]? = some (.kept (Message.ofFields "Item" [])) := by decide
  refine ⟨honce, (kept_again_iff honce).2 ?_⟩
  rintro ⟨-, hspelt⟩
  revert hspelt
  decide

/-- The second pass tags a message that the first one left alone. -/
theorem not_kept_again :
    let once := tagAll .typescript nestedFault (some "Fault")
    once[1]? = some (.kept (Message.ofFields "bytes" [])) ∧
      (tagAll .typescript (once.map Revision.value) (some "Fault"))[1]? =
        some (.changed (Message.ofFields "bytes" [discriminant])) := by
  decide

end Example

end ApiStubs.Union
