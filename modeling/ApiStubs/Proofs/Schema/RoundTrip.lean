import ApiStubs.Proofs.Json.Writing
import ApiStubs.Proofs.Schema.Respelling
import ApiStubs.Schema.Encode

/-!
# Writing a request and reading it back

What is written for a record of a description says the record, from the records without lists up to
the whole request.
-/

namespace ApiStubs

open Json

/-! ## Options -/

namespace SortedMap

variable {α : Type}

/-- A key after all others is put at the end. -/
theorem insertEntry_of_lt {key : String} (value : α) {entries : List (String × α)}
    (h : ∀ e ∈ entries, e.1 < key) : insertEntry key value entries = entries ++ [(key, value)] := by
  induction entries with
  | nil => rfl
  | cons e entries ih =>
      have hlt : e.1 < key := h e List.mem_cons_self
      have hnot : ¬ key < e.1 := fun hgt => String.lt_irrefl key (String.lt_trans hgt hlt)
      rw [insertEntry, if_neg hnot, if_pos hlt, ih fun x hx => h x (List.mem_cons_of_mem _ hx)]
      rfl

theorem entries_insertAll (entries : List (String × α)) :
    ∀ {m : SortedMap α}, (m.entries ++ entries).Pairwise (fun a b => a.1 < b.1) →
      (m.insertAll entries).entries = m.entries ++ entries := by
  induction entries with
  | nil =>
      intro m _
      rw [insertAll, List.append_nil]
  | cons e entries ih =>
      intro m hsorted
      have hlast : ∀ x ∈ m.entries, x.1 < e.1 := fun x hx =>
        (List.pairwise_append.1 hsorted).2.2 x hx e List.mem_cons_self
      have hinsert : (m.insert e.1 e.2).entries = m.entries ++ [e] := insertEntry_of_lt e.2 hlast
      have happend : (m.insert e.1 e.2).entries ++ entries = m.entries ++ e :: entries := by
        rw [hinsert, List.append_assoc, List.singleton_append]
      rw [insertAll, ih (by rwa [happend]), happend]

/-- Inserting the entries of a map into the empty map gives the map. -/
theorem insertAll_toList (m : SortedMap α) : empty.insertAll m.toList = m :=
  ext (entries_insertAll m.toList m.sorted)

end SortedMap

theorem written_options (o : Options) : Written (encodeOptions o) Tree.texts? o := by
  obtain ⟨members, hbytes, htexts⟩ := exists_text_members o.toList
  refine ⟨.object members, encode_writeObject hbytes, ?_⟩
  rw [Tree.texts?, htexts, SortedMap.insertAll_toList]

theorem written_label (l : Label) : Written (writeText l.name) (Tree.variant? Label.known) l :=
  written_variant (by cases l <;> decide)

section

variable {α : Type}

theorem written_textSlot (s name : String) (required : Bool) (set : String → α → α) :
    Written (writeText s) (textSlot name required set).view (set s) :=
  (written_text s).slot (reads_text _) name required set

theorem written_optionsSlot (o : Options) (set : Options → α → α) :
    Written (encodeOptions o) (optionsSlot set).view (set o) :=
  (written_options o).slot reads_textMap _ _ set

theorem written_labelSlot (l : Label) (set : Label → α → α) :
    Written (writeText l.name) (labelSlot set).view (set l) :=
  (written_label l).slot (reads_variant _) _ _ set

theorem written_listSlot {β : Type} {inner : Layout β} (hinner : inner.WellFormed)
    {write : β → String} (h : ∀ b, Written (write b) inner.view b) (bs : List β) (name : String)
    (required : Bool) (set : List β → α → α) :
    Written (writeList (bs.map write)) (Slot.of name required (readList inner.reader) set).view
      (set bs) :=
  (written_list bs fun b _ => h b).slot (reads_list (inner.reads hinner.lawful)) name required set

end

/-! ## Records -/

theorem Field.written (f : Field) : Written f.encode layout.view f :=
  written_record wellFormed <| .cons (written_textSlot f.name _ _ _) <|
    .cons (written_textSlot f.key _ _ _) <| .cons (written_textSlot f.dataType _ _ _) <|
    .cons (written_labelSlot f.label _) <| .cons (written_textSlot f.comment _ _ _) <|
    .cons (written_optionsSlot f.options _) .nil

theorem Message.written (m : Message) : Written m.encode layout.view m :=
  written_record wellFormed <| .cons (written_textSlot m.name _ _ _) <|
    .cons (written_listSlot Field.wellFormed Field.written m.fields _ _ _) <|
    .cons (written_labelSlot m.label _) <| .cons (written_textSlot m.package _ _ _) .nil

theorem EnumValue.written (v : EnumValue) : Written v.encode layout.view v :=
  written_record wellFormed <| .cons (written_textSlot v.name _ _ _) <|
    .cons ((written_int32 v.value).slot reads_int32 _ _ _) .nil

theorem Enumeration.written (e : Enumeration) : Written e.encode layout.view e :=
  written_record wellFormed <| .cons (written_textSlot e.name _ _ _) <|
    .cons (written_listSlot EnumValue.wellFormed EnumValue.written e.values _ _ _) .nil

theorem Method.written (m : Method) : Written m.encode layout.view m :=
  written_record wellFormed <| .cons (written_textSlot m.name _ _ _) <|
    .cons (written_textSlot m.inputType _ _ _) <| .cons (written_textSlot m.outputType _ _ _) <|
    .cons (written_optionsSlot m.options _) .nil

theorem Service.written (s : Service) : Written s.encode layout.view s :=
  written_record wellFormed <| .cons (written_textSlot s.name _ _ _) <|
    .cons (written_listSlot Method.wellFormed Method.written s.methods _ _ _) <|
    .cons (written_optionsSlot s.options _) .nil

theorem Request.written (r : Request) : Written r.encode layout.view r :=
  written_record wellFormed <| .cons (written_textSlot r.applicationName _ _ _) <|
    .cons (written_textSlot r.packageName _ _ _) <|
    .cons (written_listSlot Service.wellFormed Service.written r.services _ _ _) <|
    .cons (written_listSlot Message.wellFormed Message.written r.messages _ _ _) <|
    .cons (written_listSlot Enumeration.wellFormed Enumeration.written r.enums _ _ _) <|
    .cons (written_optionsSlot r.options _) <|
    .cons ((written_optional r.parameter).slot (reads_optional (reads_text _)) _ _ _) .nil

/-- Every request is read back from what is written for it. -/
theorem Request.decode_encode (r : Request) : decode (Utf8.encode r.encode) = .ok r :=
  (written r).readAll_eq reads

end ApiStubs
