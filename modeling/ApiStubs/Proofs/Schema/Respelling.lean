import Mathlib.Logic.Relation
import ApiStubs.Proofs.Json.Rephrasing
import ApiStubs.Schema.Decode

/-!
# Texts of the same request

A request may be written in many ways: with other blanks, with members in another order, with
members nobody knows, without members that have their defaults, and with arrays in place of objects,
for the request itself and for every record inside it.  All these texts are read as the same
request.
-/

namespace ApiStubs

open Json

/-! ## Lists of records -/

/-- One element of a list written otherwise, in the member whose records may be. -/
inductive InItem (table : List (String × (Tree → Tree → Prop))) (key : String) :
    Tree → Tree → Prop where
  | intro {step : Tree → Tree → Prop} {t t' : Tree} (before after : List Tree) :
    (key, step) ∈ table → step t t' →
    InItem table key (.list (before ++ t :: after)) (.list (before ++ t' :: after))

/-- One element of a list repeats a member, in the member whose records can. -/
inductive HasItem (table : List (String × (Tree → Prop))) (key : String) : Tree → Prop where
  | intro {wrong : Tree → Prop} {t : Tree} (before after : List Tree) :
    (key, wrong) ∈ table → wrong t → HasItem table key (.list (before ++ t :: after))

theorem list?_item {β : Type} {view : Tree → Option β} {before after : List Tree} {t t' : Tree}
    {bs : List β} (hstep : ∀ b, view t = some b → view t' = some b)
    (h : Tree.list? view (.list (before ++ t :: after)) = some bs) :
    Tree.list? view (.list (before ++ t' :: after)) = some bs := by
  simp only [Tree.list?, List.mapM_append, List.mapM_cons] at h ⊢
  cases hbefore : before.mapM view with
  | none => simp [hbefore] at h
  | some first =>
      cases ht : view t with
      | none => simp [hbefore, ht] at h
      | some b => simpa [hbefore, ht, hstep b ht] using h

theorem list?_item_none {β : Type} {view : Tree → Option β} {before after : List Tree} {t : Tree}
    (h : view t = none) : Tree.list? view (.list (before ++ t :: after)) = none := by
  simp only [Tree.list?, List.mapM_append, List.mapM_cons, h]
  cases before.mapM view <;> rfl

/-- The steps keep what trees say. -/
def Preserves {β : Type} (view : Tree → Option β) (step : Tree → Tree → Prop) : Prop :=
  ∀ t t' b, step t t' → view t = some b → view t' = some b

/-- The trees say nothing. -/
def Rejects {β : Type} (view : Tree → Option β) (wrong : Tree → Prop) : Prop :=
  ∀ t, wrong t → view t = none

section

variable {α : Type} {layout : Layout α}

/-- A member that is a list of what `view` says. -/
def ListMember {β : Type} (layout : Layout α) (key : String) (view : Tree → Option β) : Prop :=
  ∃ slot ∈ layout.slots, slot.name = key ∧
    ∃ set : List β → α → α, ∀ t, slot.view t = (Tree.list? view t).map set

theorem listMember_of {β : Type} {inner : Reader β} {view : Tree → Option β} (h : Reads inner view)
    {key : String} {required : Bool} {set : List β → α → α}
    (hslot : Slot.of key required (readList inner) set ∈ layout.slots) :
    ListMember layout key view :=
  ⟨_, hslot, rfl, set, fun t =>
    congrFun (reads_slot_of (reads_list h) key required set).slot_view t⟩

theorem ListMember.view_eq {β : Type} {view : Tree → Option β} {slot : Slot α}
    (hlayout : layout.WellFormed) (h : ListMember layout slot.name view)
    (hslot : slot ∈ layout.slots) :
    ∃ set : List β → α → α, ∀ t, slot.view t = (Tree.list? view t).map set := by
  obtain ⟨other, hother, hname, hset⟩ := h
  rwa [List.inj_on_of_nodup_map hlayout.distinct hother hslot hname] at hset

theorem preserves_items (hlayout : layout.WellFormed) {table : List (String × (Tree → Tree → Prop))}
    (h : ∀ entry ∈ table, ∃ (β : Type) (view : Tree → Option β),
      Preserves view entry.2 ∧ ListMember layout entry.1 view) :
    Preserves layout.view (layout.Rephrases (InItem table)) := by
  intro t t' result hstep
  refine hstep.view_eq hlayout fun slot hslot t t' c hinside hview => ?_
  obtain ⟨_, _, hentry, hitem⟩ := hinside
  obtain ⟨β, view, hpreserves, hmember⟩ := h _ hentry
  obtain ⟨set, hset⟩ := hmember.view_eq hlayout hslot
  rw [hset] at hview ⊢
  obtain ⟨bs, hbs, rfl⟩ := Option.map_eq_some_iff.1 hview
  rw [list?_item (fun b => hpreserves _ _ b hitem) hbs]
  rfl

theorem rejects_items (hlayout : layout.WellFormed) {table : List (String × (Tree → Prop))}
    (h : ∀ entry ∈ table, ∃ (β : Type) (view : Tree → Option β),
      Rejects view entry.2 ∧ ListMember layout entry.1 view) :
    Rejects layout.view (layout.Repeats (HasItem table)) := by
  intro t hrepeat
  refine hrepeat.view_eq_none hlayout fun slot hslot t hinside => ?_
  obtain ⟨_, _, hentry, hitem⟩ := hinside
  obtain ⟨β, view, hrejects, hmember⟩ := h _ hentry
  obtain ⟨set, hset⟩ := hmember.view_eq hlayout hslot
  rw [hset, list?_item_none (hrejects _ hitem)]
  rfl

end

/-! ## The records of a description -/

section

variable {α : Type}

theorem textSlot_lawful (name : String) (required : Bool) (set : String → α → α) :
    (textSlot name required set).Lawful := (reads_slot_of (reads_text _) name required set).lawful

theorem optionsSlot_lawful (set : Options → α → α) : (optionsSlot set).Lawful :=
  (reads_slot_of reads_textMap _ _ set).lawful

theorem labelSlot_lawful (set : Label → α → α) : (labelSlot set).Lawful :=
  (reads_slot_of (reads_variant Label.known) _ _ set).lawful

theorem listSlot_lawful {β : Type} {inner : Layout β} (h : inner.WellFormed) (name : String)
    (required : Bool) (set : List β → α → α) :
    (Slot.of name required (readList inner.reader) set).Lawful :=
  (reads_slot_of (reads_list (inner.reads h.lawful)) name required set).lawful

end

namespace Field

theorem wellFormed : layout.WellFormed where
  lawful := by
    simp only [Layout.Lawful, layout, List.forall_mem_cons]
    exact ⟨textSlot_lawful _ _ _, textSlot_lawful _ _ _, textSlot_lawful _ _ _, labelSlot_lawful _,
      textSlot_lawful _ _ _, optionsSlot_lawful _, List.forall_mem_nil _⟩
  distinct := by decide
  independent := by simp [layout, textSlot, labelSlot, optionsSlot]

/-- A field written otherwise. -/
def Rephrases : Tree → Tree → Prop := layout.Rephrases (InItem [])

/-- A field with a member given twice. -/
def Repeats : Tree → Prop := layout.Repeats (HasItem [])

theorem preserves_rephrases : Preserves layout.view Rephrases :=
  preserves_items wellFormed fun _ h => nomatch h

theorem rejects_repeats : Rejects layout.view Repeats :=
  rejects_items wellFormed fun _ h => nomatch h

end Field

namespace Message

theorem wellFormed : layout.WellFormed where
  lawful := by
    simp only [Layout.Lawful, layout, List.forall_mem_cons]
    exact ⟨textSlot_lawful _ _ _, listSlot_lawful Field.wellFormed _ _ _, labelSlot_lawful _,
      textSlot_lawful _ _ _, List.forall_mem_nil _⟩
  distinct := by decide
  independent := by simp [layout, textSlot, labelSlot]

theorem fields_member : ListMember layout "fields" Field.layout.view :=
  listMember_of (Field.layout.reads Field.wellFormed.lawful) (.tail _ (.head _))

/-- A message written otherwise, or one of its fields. -/
def Rephrases : Tree → Tree → Prop := layout.Rephrases (InItem [("fields", Field.Rephrases)])

/-- A message with a member given twice, or with such a field. -/
def Repeats : Tree → Prop := layout.Repeats (HasItem [("fields", Field.Repeats)])

theorem preserves_rephrases : Preserves layout.view Rephrases :=
  preserves_items wellFormed (List.forall_mem_singleton.2
    ⟨_, _, Field.preserves_rephrases, fields_member⟩)

theorem rejects_repeats : Rejects layout.view Repeats :=
  rejects_items wellFormed
    (List.forall_mem_singleton.2 ⟨_, _, Field.rejects_repeats, fields_member⟩)

end Message

namespace EnumValue

theorem wellFormed : layout.WellFormed where
  lawful := by
    simp only [Layout.Lawful, layout, List.forall_mem_cons]
    exact ⟨textSlot_lawful _ _ _, (reads_slot_of reads_int32 _ _ _).lawful, List.forall_mem_nil _⟩
  distinct := by decide
  independent := by simp [layout, textSlot]

/-- A constant written otherwise. -/
def Rephrases : Tree → Tree → Prop := layout.Rephrases (InItem [])

/-- A constant with a member given twice. -/
def Repeats : Tree → Prop := layout.Repeats (HasItem [])

theorem preserves_rephrases : Preserves layout.view Rephrases :=
  preserves_items wellFormed fun _ h => nomatch h

theorem rejects_repeats : Rejects layout.view Repeats :=
  rejects_items wellFormed fun _ h => nomatch h

end EnumValue

namespace Enumeration

theorem wellFormed : layout.WellFormed where
  lawful := by
    simp only [Layout.Lawful, layout, List.forall_mem_cons]
    exact ⟨textSlot_lawful _ _ _, listSlot_lawful EnumValue.wellFormed _ _ _, List.forall_mem_nil _⟩
  distinct := by decide
  independent := by simp [layout, textSlot]

theorem fields_member : ListMember layout "fields" EnumValue.layout.view :=
  listMember_of (EnumValue.layout.reads EnumValue.wellFormed.lawful) (.tail _ (.head _))

/-- An enumeration written otherwise, or one of its constants. -/
def Rephrases : Tree → Tree → Prop := layout.Rephrases (InItem [("fields", EnumValue.Rephrases)])

/-- An enumeration with a member given twice, or with such a constant. -/
def Repeats : Tree → Prop := layout.Repeats (HasItem [("fields", EnumValue.Repeats)])

theorem preserves_rephrases : Preserves layout.view Rephrases :=
  preserves_items wellFormed (List.forall_mem_singleton.2
    ⟨_, _, EnumValue.preserves_rephrases, fields_member⟩)

theorem rejects_repeats : Rejects layout.view Repeats :=
  rejects_items wellFormed (List.forall_mem_singleton.2
    ⟨_, _, EnumValue.rejects_repeats, fields_member⟩)

end Enumeration

namespace Method

theorem wellFormed : layout.WellFormed where
  lawful := by
    simp only [Layout.Lawful, layout, List.forall_mem_cons]
    exact ⟨textSlot_lawful _ _ _, textSlot_lawful _ _ _, textSlot_lawful _ _ _,
      optionsSlot_lawful _, List.forall_mem_nil _⟩
  distinct := by decide
  independent := by simp [layout, textSlot, optionsSlot]

/-- A method written otherwise. -/
def Rephrases : Tree → Tree → Prop := layout.Rephrases (InItem [])

/-- A method with a member given twice. -/
def Repeats : Tree → Prop := layout.Repeats (HasItem [])

theorem preserves_rephrases : Preserves layout.view Rephrases :=
  preserves_items wellFormed fun _ h => nomatch h

theorem rejects_repeats : Rejects layout.view Repeats :=
  rejects_items wellFormed fun _ h => nomatch h

end Method

namespace Service

theorem wellFormed : layout.WellFormed where
  lawful := by
    simp only [Layout.Lawful, layout, List.forall_mem_cons]
    exact ⟨textSlot_lawful _ _ _, listSlot_lawful Method.wellFormed _ _ _, optionsSlot_lawful _,
      List.forall_mem_nil _⟩
  distinct := by decide
  independent := by simp [layout, textSlot, optionsSlot]

theorem methods_member : ListMember layout "methods" Method.layout.view :=
  listMember_of (Method.layout.reads Method.wellFormed.lawful) (.tail _ (.head _))

/-- A service written otherwise, or one of its methods. -/
def Rephrases : Tree → Tree → Prop := layout.Rephrases (InItem [("methods", Method.Rephrases)])

/-- A service with a member given twice, or with such a method. -/
def Repeats : Tree → Prop := layout.Repeats (HasItem [("methods", Method.Repeats)])

theorem preserves_rephrases : Preserves layout.view Rephrases :=
  preserves_items wellFormed (List.forall_mem_singleton.2
    ⟨_, _, Method.preserves_rephrases, methods_member⟩)

theorem rejects_repeats : Rejects layout.view Repeats :=
  rejects_items wellFormed (List.forall_mem_singleton.2
    ⟨_, _, Method.rejects_repeats, methods_member⟩)

end Service

namespace Request

theorem wellFormed : layout.WellFormed where
  lawful := by
    simp only [Layout.Lawful, layout, List.forall_mem_cons]
    exact ⟨textSlot_lawful _ _ _, textSlot_lawful _ _ _, listSlot_lawful Service.wellFormed _ _ _,
      listSlot_lawful Message.wellFormed _ _ _, listSlot_lawful Enumeration.wellFormed _ _ _,
      optionsSlot_lawful _, (reads_slot_of (reads_optional (reads_text _)) _ _ _).lawful,
      List.forall_mem_nil _⟩
  distinct := by decide
  independent := by simp [layout, textSlot, optionsSlot]

theorem reads : Reads layout.reader layout.view := layout.reads wellFormed.lawful

theorem services_member : ListMember layout "services" Service.layout.view :=
  listMember_of (Service.layout.reads Service.wellFormed.lawful) (.tail _ (.tail _ (.head _)))

theorem messages_member : ListMember layout "messages" Message.layout.view :=
  listMember_of (Message.layout.reads Message.wellFormed.lawful)
    (.tail _ (.tail _ (.tail _ (.head _))))

theorem enums_member : ListMember layout "enums" Enumeration.layout.view :=
  listMember_of (Enumeration.layout.reads Enumeration.wellFormed.lawful)
    (.tail _ (.tail _ (.tail _ (.tail _ (.head _)))))

/-- A request written otherwise, or one of its services, messages and enumerations. -/
def Rephrases : Tree → Tree → Prop :=
  layout.Rephrases (InItem [("services", Service.Rephrases), ("messages", Message.Rephrases),
    ("enums", Enumeration.Rephrases)])

/-- A request with a member given twice, or with such a service, message or enumeration. -/
def Repeats : Tree → Prop :=
  layout.Repeats (HasItem [("services", Service.Repeats), ("messages", Message.Repeats),
    ("enums", Enumeration.Repeats)])

theorem preserves_rephrases : Preserves layout.view Rephrases := by
  refine preserves_items wellFormed ?_
  simp only [List.forall_mem_cons]
  exact ⟨⟨_, _, Service.preserves_rephrases, services_member⟩,
    ⟨_, _, Message.preserves_rephrases, messages_member⟩,
    ⟨_, _, Enumeration.preserves_rephrases, enums_member⟩, List.forall_mem_nil _⟩

theorem rejects_repeats : Rejects layout.view Repeats := by
  refine rejects_items wellFormed ?_
  simp only [List.forall_mem_cons]
  exact ⟨⟨_, _, Service.rejects_repeats, services_member⟩,
    ⟨_, _, Message.rejects_repeats, messages_member⟩,
    ⟨_, _, Enumeration.rejects_repeats, enums_member⟩, List.forall_mem_nil _⟩

/-! ## Whole texts -/

theorem decode_toOption {t : Tree} {bytes : Bytes} (h : Spells t bytes) :
    (decode bytes).toOption = layout.view t := reads.readAll_eq h

theorem decode_eq_ok {t : Tree} {bytes : Bytes} (h : Spells t bytes) {r : Request} :
    decode bytes = .ok r ↔ layout.view t = some r := by
  rw [← decode_toOption h]
  cases decode bytes <;> simp [Except.toOption]

/-- One way of writing a text of a request otherwise: with other blanks, or from another tree. -/
inductive Respells : Bytes → Bytes → Prop where
  | blanks {t : Tree} {bytes bytes' : Bytes} :
    Spells t bytes → Spells t bytes' → Respells bytes bytes'
  | rephrase {t t' : Tree} {bytes bytes' : Bytes} :
    Spells t bytes → Rephrases t t' → Spells t' bytes' → Respells bytes bytes'

theorem Respells.decode_eq {bytes bytes' : Bytes} (h : Respells bytes bytes') {r : Request}
    (hread : decode bytes = .ok r) : decode bytes' = .ok r := by
  cases h with
  | blanks ht ht' => exact (decode_eq_ok ht').2 ((decode_eq_ok ht).1 hread)
  | rephrase ht hstep ht' =>
      exact (decode_eq_ok ht').2 (preserves_rephrases _ _ r hstep ((decode_eq_ok ht).1 hread))

/-- A text that is accepted has a tree, and every text that comes from it by any number of steps is
accepted as the same request.  A text that gives a known member of a record twice is not
accepted. -/
theorem decode_respelled (bytes : Bytes) :
    (∀ r, decode bytes = .ok r → (∃ t, Spells t bytes) ∧
      ∀ bytes', Relation.ReflTransGen Respells bytes bytes' → decode bytes' = .ok r) ∧
    ∀ t, Spells t bytes → Repeats t → ∃ e, decode bytes = .error e := by
  refine ⟨fun r hread => ⟨reads.exists_spells hread, fun bytes' hsteps => ?_⟩,
    fun t ht hrepeat => ?_⟩
  · induction hsteps with
    | refl => exact hread
    | tail _ hstep ih => exact hstep.decode_eq ih
  · have hnone := decode_toOption ht
    rw [rejects_repeats t hrepeat] at hnone
    cases hresult : decode bytes with
    | error e => exact ⟨e, rfl⟩
    | ok r =>
        rw [hresult] at hnone
        cases hnone

/-- A string written without escapes. -/
def spelt (s : String) : List TextUnit :=
  (Utf8.encode s).filterMap fun b =>
    if h : b ≠ 0x22 ∧ b ≠ 0x5C ∧ ¬ b < 0x20 then some (.plain b h) else none

/-- A service under its name, a default, a list for the service, an unknown member and a blank: four
steps lead to another text of the same request.  With the name given twice there is no request. -/
theorem decode_respelled_service :
    let request : Request := { empty with services := [⟨"S", [], SortedMap.empty⟩] }
    decode (Utf8.encode
      "\x7b\"services\":[\x7b\"name\":\"S\"\x7d],\"parameter\":null\x7d") = .ok request ∧
    decode (Utf8.encode
      " \x7b\"later\":[true],\"services\":[[\"S\",[],\x7b\x7d]]\x7d") = .ok request ∧
    ∃ e, decode (Utf8.encode
      "\x7b\"services\":[\x7b\"name\":\"S\",\"name\":\"S\"\x7d]\x7d") = .error e := by
  intro request
  let name : List TextUnit := spelt "S"
  let brief : Tree := .object [(spelt "name", .text name)]
  let listed : Tree := .list [.text name, .list [], .object []]
  let full : Tree := .object [(spelt "services", .list [brief]), (spelt "parameter", .null)]
  let short : Tree := .object [(spelt "services", .list [brief])]
  let compact : Tree := .object [(spelt "services", .list [listed])]
  let extended : Tree :=
    .object [(spelt "later", .list [.bool true]), (spelt "services", .list [listed])]
  let twice : Tree := .object [(spelt "services",
    .list [.object [(spelt "name", .text name), (spelt "name", .text name)]])]
  have hservices : TextUnit.value? (spelt "services") = some "services" := by decide +kernel
  have hname : TextUnit.value? (spelt "name") = some "name" := by decide +kernel
  have hlater : TextUnit.value? (spelt "later") = some "later" := by decide +kernel
  have hread : decode full.tokens.flatten = .ok request := by decide +kernel
  have hshort : Rephrases full short :=
    .leaveOut [_] [] (.tail _ (.tail _ (.tail _ (.tail _ (.tail _ (.tail _
      (.head _))))))) rfl (by decide +kernel)
      ((reads_optional (reads_text _)).isDefault rfl _ _ rfl)
  have habsent : ∀ key, "name" ≠ key →
      ∀ m ∈ [(spelt "name", Tree.text name)], TextUnit.value? m.1 ≠ some key := fun key hkey =>
    List.forall_mem_singleton.2 fun h => hkey (Option.some.inj (hname.symm.trans h))
  have hlisted : Service.Rephrases brief listed :=
    .positions <| .cons (.inl ⟨_, .head _, hname⟩) <|
      .cons (.inr ⟨habsent _ (by decide),
        (reads_list (Method.layout.reads Method.wellFormed.lawful)).isDefault rfl _ _ rfl⟩) <|
      .cons (.inr ⟨habsent _ (by decide), reads_textMap.isDefault rfl _ _ rfl⟩) .nil
  have hcompact : Rephrases short compact :=
    .member [] [] hservices (.intro [] [] (.head _) hlisted)
  have hextended : Rephrases compact extended := .insert [] _ _ hlater rfl
  have hsteps : Relation.ReflTransGen Respells full.tokens.flatten
      ([0x20] ++ extended.tokens.flatten) :=
    .tail (.tail (.tail (.single (.rephrase (.flatten _) hshort (.flatten _)))
      (.rephrase (.flatten _) hcompact (.flatten _)))
        (.rephrase (.flatten _) hextended (.flatten _)))
      (.blanks (.flatten _) (Spaced.blank_append (.flatten _) (by simp [IsBlank, isSpace])))
  have hrepeats : Repeats twice :=
    .member [] [] (.tail _ (.tail _ (.head _))) hservices
      (.intro [] [] (.head _)
        (.here [] [] [] (.head _) hname hname))
  have hfull : Utf8.encode "\x7b\"services\":[\x7b\"name\":\"S\"\x7d],\"parameter\":null\x7d" =
      full.tokens.flatten := by decide +kernel
  have hlast : Utf8.encode
      " \x7b\"later\":[true],\"services\":[[\"S\",[],\x7b\x7d]]\x7d" =
      [0x20] ++ extended.tokens.flatten := by decide +kernel
  have htwice : Utf8.encode
      "\x7b\"services\":[\x7b\"name\":\"S\",\"name\":\"S\"\x7d]\x7d" =
      twice.tokens.flatten := by decide +kernel
  rw [hfull, hlast, htwice]
  exact ⟨hread, ((decode_respelled _).1 request hread).2 _ hsteps,
    (decode_respelled _).2 twice (.flatten _) hrepeats⟩

end Request

end ApiStubs
