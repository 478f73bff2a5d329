import ApiStubs.Proofs.Schema.Qualification

/-!
# What flattening changes

A type is freed of a package exactly when it is the package, a dot and a name, after at most one
more dot, and then the name is left.  Flattening a message frees the types of its fields and changes
nothing else; a message without such a type is passed on as it is.
-/

namespace ApiStubs

namespace Package

/-- A type without the dot in front of it, if there is one. -/
def Unrooted (dataType path : String) : Prop :=
  dataType = "." ++ path ∨ path = dataType ∧ dataType.toList.head? ≠ some '.'

theorem unrooted_iff (dataType path : String) :
    Unrooted dataType path ↔ dropLeadingDot dataType.toList = path.toList := by
  constructor
  · rintro (rfl | ⟨rfl, hhead⟩)
    · simp [dropLeadingDot]
    · exact dropLeadingDot_of_head hhead
  · intro h
    by_cases hhead : dataType.toList.head? = some '.'
    · obtain ⟨rest, hrest⟩ := List.head?_eq_some_iff.1 hhead
      rw [hrest, dropLeadingDot] at h
      exact .inl (String.toList_inj.1 (by simp [hrest, h]))
    · rw [dropLeadingDot_of_head hhead] at h
      exact .inr ⟨(String.toList_inj.1 h).symm, hhead⟩

/-- A type is a name in a package: the package, a dot and the name, after at most one more dot. -/
structure Locates (package name dataType : String) : Prop where
  package_ne : package ≠ ""
  name_ne : name ≠ ""
  unrooted : Unrooted dataType (package ++ "." ++ name)

theorem Locates.dropLeadingDot_eq {package name dataType : String}
    (h : Locates package name dataType) :
    dropLeadingDot dataType.toList = package.toList ++ '.' :: name.toList := by
  rw [(unrooted_iff dataType _).1 h.unrooted]
  simp

theorem Locates.strip_eq {package name dataType : String} (h : Locates package name dataType) :
    strip dataType package = name :=
  strip_of_dropLeadingDot h.package_ne h.name_ne h.dropLeadingDot_eq

theorem length_dropLeadingDot_le (cs : List Char) : (dropLeadingDot cs).length ≤ cs.length := by
  unfold dropLeadingDot
  split
  · exact Nat.le_succ _
  · exact Nat.le_refl _

/-- A name is shorter than the type that locates it. -/
theorem Locates.name_ne_dataType {package name dataType : String}
    (h : Locates package name dataType) :
    name ≠ dataType := by
  intro hsame
  have hlength := length_dropLeadingDot_le dataType.toList
  rw [h.dropLeadingDot_eq, ← hsame, List.length_append, List.length_cons] at hlength
  omega

/-- A type is changed by stripping exactly when it is a name in the package. -/
theorem strip_ne_iff (dataType package : String) :
    strip dataType package ≠ dataType ↔ ∃ name, Locates package name dataType := by
  constructor
  · intro hchanged
    unfold strip at hchanged
    split at hchanged
    · exact absurd rfl hchanged
    · rename_i hpackage
      split at hchanged
      · rename_i c rest hlead
        refine ⟨String.ofList (c :: rest), hpackage, by simp, (unrooted_iff dataType _).2 ?_⟩
        rw [Text.afterLead?_eq_some_iff.1 hlead]
        simp
      · exact absurd rfl hchanged
  · rintro ⟨name, hname⟩
    rw [hname.strip_eq]
    exact hname.name_ne_dataType

end Package

namespace Message

/-- A message differs from another in nothing but the types of its fields, which are freed of the
package. -/
structure FreedOf (message flat : Message) : Prop where
  name : flat.name = message.name
  label : flat.label = message.label
  package : flat.package = message.package
  fields : List.Forall₂
    (fun field freed => freed =
      { field with dataType := Package.strip field.dataType message.package })
    message.fields flat.fields

theorem freedOf_localFields (message : Message) :
    FreedOf message { message with fields := message.fields.map message.localField } :=
  ⟨rfl, rfl, rfl, List.forall₂_map_right_iff.2 (List.forall₂_same.2 fun _ _ => rfl)⟩

theorem flatten_of_changed {message : Message}
    (h : ∃ field ∈ message.fields, Package.strip field.dataType message.package ≠ field.dataType) :
    message.flatten =
      .changed { message with fields := message.fields.map message.localField } := by
  unfold flatten
  exact if_pos (by simpa using h)

theorem flatten_of_unchanged {message : Message}
    (h : ∀ field ∈ message.fields, Package.strip field.dataType message.package = field.dataType) :
    message.flatten = .kept message := by
  unfold flatten
  exact if_neg (by simpa using h)

/-- A message is passed on exactly when none of its types is changed. -/
theorem flatten_eq_kept_iff (message : Message) :
    message.flatten = .kept message ↔
      ∀ field ∈ message.fields, Package.strip field.dataType message.package = field.dataType := by
  refine ⟨fun hkept => ?_, flatten_of_unchanged⟩
  intro field hfield
  refine Decidable.not_not.1 fun hchanged => ?_
  rw [flatten_of_changed ⟨field, hfield, hchanged⟩] at hkept
  cases hkept

end Message

/-- Stripping changes a type exactly when it is a name in the package, and leaves the name.  A
message is passed on as it is when no type of its fields is changed, and is otherwise replaced by
one that differs from it in nothing but these types.  Of a list of messages each is flattened in its
place. -/
theorem flattening_frees_types :
    (∀ dataType package : String,
      (Package.strip dataType package ≠ dataType ↔ ∃ name, Package.Locates package name dataType) ∧
      ∀ name, Package.Locates package name dataType → Package.strip dataType package = name) ∧
    (∀ message : Message,
      (message.flatten = .kept message ↔
        ∀ field ∈ message.fields, Package.strip field.dataType message.package = field.dataType) ∧
      (message.flatten ≠ .kept message →
        ∃ flat, message.flatten = .changed flat ∧ flat ≠ message ∧ message.FreedOf flat)) ∧
    ∀ messages : List Message, (flattenAll messages).length = messages.length ∧
      ∀ i : Nat, (flattenAll messages)[i]? = messages[i]?.map fun message =>
        message.flatten.value := by
  refine ⟨fun dataType package => ⟨Package.strip_ne_iff dataType package,
    fun name hname => hname.strip_eq⟩, fun message => ⟨message.flatten_eq_kept_iff, fun hnot => ?_⟩,
    fun messages => ⟨List.length_map _, fun i => List.getElem?_map⟩⟩
  have hchanged : ∃ field ∈ message.fields,
      Package.strip field.dataType message.package ≠ field.dataType := by
    simpa [message.flatten_eq_kept_iff] using hnot
  refine ⟨_, Message.flatten_of_changed hchanged, ?_, message.freedOf_localFields⟩
  -- equal messages would have equal fields, place by place
  intro hsame
  obtain ⟨field, hfield, htype⟩ := hchanged
  have hfields : message.fields.map message.localField = message.fields :=
    congrArg Message.fields hsame
  have hlocal : message.localField field = field :=
    List.map_inj_left.1 (hfields.trans (List.map_id _).symm) field hfield
  exact htype (congrArg Field.dataType hlocal)

/-- Of four types that begin like the package, only the one with a name behind the package is
changed. -/
theorem flattening_frees_types_order :
    let order : Message :=
      ⟨"Order", [.ofType "item" ".shop.shop.Item", .ofType "kind" "shopping.Kind",
        .ofType "root" "shop.", .ofType "note" "..shop.Note"], .optional, "shop"⟩
    let flat : Message :=
      ⟨"Order", [.ofType "item" "shop.Item", .ofType "kind" "shopping.Kind", .ofType "root" "shop.",
        .ofType "note" "..shop.Note"], .optional, "shop"⟩
    Package.Locates "shop" "shop.Item" ".shop.shop.Item" ∧
      Package.strip ".shop.shop.Item" "shop" = "shop.Item" ∧ order.flatten = .changed flat ∧
      order.FreedOf flat := by
  intro order flat
  have hitem : Package.Locates "shop" "shop.Item" ".shop.shop.Item" := ⟨by simp, by simp, .inl rfl⟩
  have hflatten : order.flatten = .changed flat := by decide
  obtain ⟨found, hfound, -, hfreed⟩ := (flattening_frees_types.2.1 order).2 (by simp [hflatten])
  obtain rfl : flat = found := by simpa [hflatten] using hfound
  exact ⟨hitem, (flattening_frees_types.1 _ _).2 _ hitem, hflatten, hfreed⟩

end ApiStubs
