import ApiStubs.Proofs.Json.Rephrasing

/-!
# Places in trees

A place is a tree with a gap: a function that puts a tree into the gap.  Around a gap for a member
of a record, or for an element of a list, everything else is settled as soon as one tree in the gap
gives a value: what the whole says then depends on the tree in the gap alone, through what is said
there.
-/

namespace ApiStubs.Json

/-- What `outer` takes from a tree with something in a place is what `inner` takes from that,
carried on by `build`. -/
def Carries {α β : Type} (outer : Tree → Option α) (place : Tree → Tree) (inner : Tree → Option β)
    (build : β → α) : Prop :=
  ∀ t, outer (place t) = (inner t).map build

namespace Carries

variable {α β γ : Type} {outer : Tree → Option α} {place : Tree → Tree} {inner : Tree → Option β}
  {build : β → α}

/-- A place in a place. -/
theorem comp (h : Carries outer place inner build) {deep : Tree → Tree} {core : Tree → Option γ}
    {assemble : γ → β} (hdeep : Carries inner deep core assemble) :
    Carries outer (place ∘ deep) core (build ∘ assemble) := by
  intro t
  show outer (place (deep t)) = _
  rw [h, hdeep, Option.map_map]

theorem eq_some_iff (h : Carries outer place inner build) {t : Tree} {a : α} :
    outer (place t) = some a ↔ ∃ b, inner t = some b ∧ build b = a := by
  rw [h, Option.map_eq_some_iff]

theorem exists_inner (h : Carries outer place inner build) {t : Tree} {a : α}
    (ha : outer (place t) = some a) : ∃ b, inner t = some b := by
  obtain ⟨b, hb, -⟩ := h.eq_some_iff.1 ha
  exact ⟨b, hb⟩

end Carries

/-! ## Elements -/

/-- A place in a list, behind so many elements. -/
inductive ItemPlace (index : Nat) : (Tree → Tree) → Prop where
  | intro (before after : List Tree) :
    before.length = index → ItemPlace index fun t => .list (before ++ t :: after)

theorem length_of_mapM {β : Type} {view : Tree → Option β} {items : List Tree} :
    ∀ {bs : List β}, items.mapM view = some bs → bs.length = items.length := by
  induction items with
  | nil =>
      intro bs h
      cases h
      rfl
  | cons t items ih =>
      intro bs h
      rw [List.mapM_cons] at h
      obtain ⟨b, -, hrest⟩ := Option.bind_eq_some_iff.1 h
      obtain ⟨rest, hitems, hbs⟩ := Option.bind_eq_some_iff.1 hrest
      cases hbs
      exact congrArg (· + 1) (ih hitems)

/-- An element of a list stands at its index in what the list says. -/
theorem ItemPlace.exists_carries {β : Type} {view : Tree → Option β} {index : Nat}
    {place : Tree → Tree} (h : ItemPlace index place) {t : Tree} {bs : List β}
    (ht : Tree.list? view (place t) = some bs) :
    ∃ build : β → List β, Carries (Tree.list? view) place view build ∧
      ∀ b, (build b)[index]? = some b := by
  obtain ⟨before, after, hlength⟩ := h
  simp only [Tree.list?, List.mapM_append, List.mapM_cons] at ht
  obtain ⟨first, hfirst, hrest⟩ := Option.bind_eq_some_iff.1 ht
  obtain ⟨_, hmore, -⟩ := Option.bind_eq_some_iff.1 hrest
  obtain ⟨b, -, hmore⟩ := Option.bind_eq_some_iff.1 hmore
  obtain ⟨last, hlast, -⟩ := Option.bind_eq_some_iff.1 hmore
  refine ⟨fun b => first ++ b :: last, fun t => ?_, fun b => ?_⟩
  · simp only [Tree.list?, List.mapM_append, List.mapM_cons, hfirst, hlast]
    cases view t <;> rfl
  · rw [← hlength, ← length_of_mapM hfirst, List.getElem?_append_right (Nat.le_refl _),
      Nat.sub_self]
    rfl

/-! ## Members -/

variable {α : Type}

/-- A place for the value of a member of a record. -/
inductive Layout.Place (layout : Layout α) (key : String) : (Tree → Tree) → Prop where
  /-- in an object under the name of the member -/
  | member (before after : List (List TextUnit × Tree)) {name : List TextUnit} :
    TextUnit.value? name = some key →
      Place layout key fun t => .object (before ++ (name, t) :: after)
  /-- in a list at the position of the member -/
  | position (before after : List Tree) {slot : Slot α} :
    layout.slots[before.length]? = some slot → slot.name = key →
    Place layout key fun t => .list (before ++ t :: after)

namespace Layout

variable {layout : Layout α}

/-- The change of a member in the middle can be made last. -/
theorem view_member_eq (hlayout : layout.WellFormed) {slot : Slot α} (hslot : slot ∈ layout.slots)
    {before after : List (List TextUnit × Tree)} {name : List TextUnit}
    (hname : TextUnit.value? name = some slot.name) {t : Tree} {result : α}
    (h : layout.view (.object (before ++ (name, t) :: after)) = some result) :
    ∃ base, ∀ t', layout.view (.object (before ++ (name, t') :: after)) =
      (slot.view t').map fun change => change base := by
  obtain ⟨cs, hcs, hnodup, hcomplete, -⟩ := view_object_eq_some.1 h
  obtain ⟨first, d, last, hfirst, hd, hlast, rfl⟩ := changes_split hcs
  obtain ⟨c, -, rfl⟩ := hlayout.change_known hslot hname hd
  refine ⟨apply (first ++ last) layout.blank, fun t' => ?_⟩
  cases hview : slot.view t' with
  | none =>
      refine Option.eq_none_iff_forall_not_mem.2 fun other hother => ?_
      obtain ⟨_, hchanges, -⟩ := view_object_eq_some.1 hother
      obtain ⟨-, e, -, -, he, -⟩ := changes_split hchanges
      obtain ⟨c', hc', -⟩ := hlayout.change_known hslot hname he
      rw [hview] at hc'
      cases hc'
  | some c' =>
      have hchange : layout.change (name, t') = some [(slot.name, c')] := by
        simp [change, hname, hlayout.slot?_name hslot, hview]
      have hchanges : layout.changes (before ++ (name, t') :: after) =
          some (first ++ ([(slot.name, c')] ++ last)) := by
        simp [changes_append, changes, hfirst, hchange, hlast]
      have hperm : (first ++ ([(slot.name, c')] ++ last)).Perm
          ((first ++ last) ++ [(slot.name, c')]) :=
        List.perm_middle.trans (List.perm_append_singleton _ _).symm
      -- the names of the changes are the same whatever the member says
      have hnames : names (first ++ ([(slot.name, c')] ++ last)) =
          names (first ++ ([(slot.name, c)] ++ last)) := by simp [names]
      refine view_object_eq_some.2 ⟨_, hchanges, hnames ▸ hnodup, hnames ▸ hcomplete, ?_⟩
      rw [apply_perm hlayout (possible_changes hchanges) (hnames ▸ hnodup) hperm]
      exact (apply_append (first ++ last) [(slot.name, c')] layout.blank).symm

/-- A change can be made after those of the members behind it. -/
theorem ofItems_change {slot : Slot α} {t : Tree} {c : α → α} (hview : slot.view t = some c)
    {slots : List (Slot α)} : ∀ {items : List Tree} {record : α},
      (∀ other ∈ slots, slot.Commutes other) →
      ofItems slots (c record) items = (ofItems slots record items).map c := by
  induction slots with
  | nil =>
      intro items record _
      cases items with
      | nil => rfl
      | cons _ _ => rfl
  | cons other slots ih =>
      intro items record hcommutes
      cases items with
      | nil =>
          rw [ofItems, ofItems]
          split <;> rfl
      | cons t' items =>
          rw [ofItems, ofItems]
          cases hother : other.view t' with
          | none => rfl
          | some c' =>
              have hswap := hcommutes other List.mem_cons_self t t' c c' hview hother record
              rw [Option.bind_some, Option.bind_some, ← hswap]
              exact ih fun s hs => hcommutes s (List.mem_cons_of_mem _ hs)

/-- The change of an element in the middle can be made last. -/
theorem ofItems_position_eq {after : List Tree} {slot : Slot α} :
    ∀ {before : List Tree} {slots : List (Slot α)} {record : α} {t : Tree} {result : α},
      slots.Pairwise Slot.Commutes → slots[before.length]? = some slot →
      ofItems slots record (before ++ t :: after) = some result →
      ∃ base, ∀ t', ofItems slots record (before ++ t' :: after) =
        (slot.view t').map fun change => change base := by
  intro before
  induction before with
  | nil =>
      intro slots record t result hcommutes hslot h
      cases slots with
      | nil => cases hslot
      | cons other slots =>
          cases hslot
          have hlater := (List.pairwise_cons.1 hcommutes).1
          rw [List.nil_append, ofItems] at h
          obtain ⟨c, hc, hrest⟩ := Option.bind_eq_some_iff.1 h
          rw [ofItems_change hc hlater] at hrest
          obtain ⟨base, hbase, -⟩ := Option.map_eq_some_iff.1 hrest
          refine ⟨base, fun t' => ?_⟩
          rw [List.nil_append, ofItems]
          cases hview : slot.view t' with
          | none => rfl
          | some c' =>
              rw [Option.bind_some, ofItems_change hview hlater, hbase]
              rfl
  | cons x before ih =>
      intro slots record t result hcommutes hslot h
      cases slots with
      | nil => cases hslot
      | cons other slots =>
          rw [List.cons_append, ofItems] at h
          obtain ⟨c, hc, hrest⟩ := Option.bind_eq_some_iff.1 h
          obtain ⟨base, hbase⟩ := ih (List.pairwise_cons.1 hcommutes).2 hslot hrest
          refine ⟨base, fun t' => ?_⟩
          rw [List.cons_append, ofItems, hc, Option.bind_some]
          exact hbase t'

/-- Around a place for a member the rest of the record is settled, and the member changes it
last. -/
theorem Place.exists_carries (hlayout : layout.WellFormed) {β : Type} {inner : Reader β}
    {view : Tree → Option β} (hinner : Reads inner view) {key : String} {required : Bool}
    {set : β → α → α} (hslot : Slot.of key required inner set ∈ layout.slots) {place : Tree → Tree}
    (hplace : layout.Place key place) {t : Tree} {result : α}
    (h : layout.view (place t) = some result) :
    ∃ base, Carries layout.view place view fun b => set b base := by
  have hread : (Slot.of key required inner set).view = fun t => (view t).map set :=
    (reads_slot_of hinner key required set).slot_view
  have hbase : ∃ base, ∀ t', layout.view (place t') =
      ((Slot.of key required inner set).view t').map fun change => change base := by
    cases hplace with
    | member before after hname => exact view_member_eq hlayout hslot hname h
    | position before after hposition hname =>
        rename_i slot
        have hsame : slot = Slot.of key required inner set :=
          List.inj_on_of_nodup_map hlayout.distinct (List.mem_of_getElem? hposition) hslot hname
        rw [hsame] at hposition
        exact ofItems_position_eq hlayout.independent hposition h
  obtain ⟨base, hbase⟩ := hbase
  refine ⟨base, fun t' => ?_⟩
  rw [hbase, hread, Option.map_map]
  rfl

end Layout

end ApiStubs.Json
