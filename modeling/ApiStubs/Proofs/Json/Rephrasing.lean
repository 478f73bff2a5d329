import Mathlib.Data.List.Forall2
import Mathlib.Data.List.Nodup
import Mathlib.Data.List.Pairwise
import ApiStubs.Proofs.Json.Record

/-!
# Records written in other ways

The members of an object change the record one after the other.  Changes of different members
commute, so an object says what the set of its changes says.  From this follows which other trees
say the same record, and that no tree that gives a member twice says one.
-/

namespace ApiStubs.Json

variable {α : Type}

/-- Whether two members change different parts of the record. -/
def Slot.Commutes (slot other : Slot α) : Prop :=
  ∀ t t' change change', slot.view t = some change → other.view t' = some change' →
    ∀ record, change (change' record) = change' (change record)

instance : Std.Symm (Slot.Commutes : Slot α → Slot α → Prop) where
  symm _ _ h t t' change change' ht ht' record := (h t' t change' change ht' ht record).symm

theorem Slot.exists_set_of_view {β : Type} {name : String} {required : Bool} {inner : Reader β}
    {set : β → α → α} {t : Tree} {change : α → α}
    (h : (Slot.of name required inner set).view t = some change) : ∃ b, change = set b := by
  unfold Slot.view Slot.of at h
  simp only at h
  split at h
  · cases h
  · rename_i b after _
    cases h
    exact ⟨b, rfl⟩

/-- Members commute whose settings do. -/
@[simp]
theorem Slot.commutes_of {β γ : Type} {name name' : String} {required required' : Bool}
    {inner : Reader β} {inner' : Reader γ} {set : β → α → α} {set' : γ → α → α}
    (h : ∀ b c record, set b (set' c record) = set' c (set b record)) :
    (Slot.of name required inner set).Commutes (Slot.of name' required' inner' set') := by
  intro t t' change change' hchange hchange' record
  obtain ⟨b, rfl⟩ := exists_set_of_view hchange
  obtain ⟨c, rfl⟩ := exists_set_of_view hchange'
  exact h b c record

/-- The value of the member is the one that the record has where the member is left out. -/
def Slot.IsDefault (slot : Slot α) (blank : α) (t : Tree) : Prop :=
  ∃ change, slot.view t = some change ∧ change blank = blank

/-- A value is the default of a member if it reads as what is in the record anyway. -/
theorem Reads.isDefault {β : Type} {inner : Reader β} {view : Tree → Option β}
    (h : Reads inner view) {t : Tree} {b : β} (ht : view t = some b) (name : String)
    (required : Bool) {set : β → α → α} {blank : α} (hblank : set b blank = blank) :
    (Slot.of name required inner set).IsDefault blank t := by
  refine ⟨set b, ?_, hblank⟩
  rw [(reads_slot_of h name required set).slot_view]
  exact congrArg (Option.map set) ht

namespace Layout

/-- A record type: members are read from trees, have names of their own and change different
parts. -/
structure WellFormed (layout : Layout α) : Prop where
  lawful : layout.Lawful
  distinct : (layout.slots.map (·.name)).Nodup
  independent : layout.slots.Pairwise Slot.Commutes

variable {layout : Layout α}

theorem WellFormed.slot?_name (h : layout.WellFormed) {slot : Slot α}
    (hslot : slot ∈ layout.slots) :
    layout.slot? slot.name = some slot := by
  unfold slot?
  cases hfind : layout.slots.find? (fun s => s.name == slot.name) with
  | none => exact absurd (List.find?_eq_none.1 hfind slot hslot) (by simp)
  | some found =>
      have hname : found.name = slot.name := by simpa using List.find?_some hfind
      rw [List.inj_on_of_nodup_map h.distinct (List.mem_of_find?_eq_some hfind) hslot hname]

theorem WellFormed.commutes (h : layout.WellFormed) {slot other : Slot α}
    (hslot : slot ∈ layout.slots) (hother : other ∈ layout.slots) (hne : slot.name ≠ other.name) :
    slot.Commutes other :=
  h.independent.forall hslot hother fun heq => hne (congrArg Slot.name heq)

/-! ## The changes of an object -/

/-- The change that a member makes, under its name; none if the name is unknown. -/
def change (layout : Layout α) (m : List TextUnit × Tree) : Option (List (String × (α → α))) :=
  (TextUnit.value? m.1).bind fun key =>
    match layout.slot? key with
    | none => some []
    | some slot => (slot.view m.2).map fun change => [(key, change)]

/-- The changes that members make, in order. -/
def changes (layout : Layout α) : List (List TextUnit × Tree) → Option (List (String × (α → α)))
  | [] => some []
  | m :: members => (layout.change m).bind fun cs => (changes layout members).map (cs ++ ·)

/-- The record after changes. -/
def apply (cs : List (String × (α → α))) (record : α) : α := cs.foldl (fun r c => c.2 r) record

/-- The names of changes. -/
def names (cs : List (String × (α → α))) : List String := cs.map (·.1)

/-- The changes give every member that must be there. -/
def Complete (layout : Layout α) (given : List String) : Prop :=
  ∀ slot ∈ layout.slots, slot.required = true → slot.name ∈ given

theorem missing?_isNone (seen : List String) :
    (layout.missing? seen).isNone = true ↔ layout.Complete seen := by
  unfold missing? Complete
  simp only [Option.isNone_iff_eq_none, List.find?_eq_none]
  refine forall_congr' fun slot => forall_congr' fun _ => ?_
  cases slot.required <;> simp

/-- One more change in front, of a member that has not been given before. -/
theorem given_cons {key : String} {c : α → α} {seen : List String} {record result : α}
    {rest : Option (List (String × (α → α)))} (hkey : key ∉ seen) :
    (∃ cs, rest = some cs ∧ (names cs).Nodup ∧ (∀ k ∈ names cs, k ∉ key :: seen) ∧
        layout.Complete (names cs ++ key :: seen) ∧ result = apply cs (c record)) ↔
      ∃ cs, rest.map ([(key, c)] ++ ·) = some cs ∧ (names cs).Nodup ∧ (∀ k ∈ names cs, k ∉ seen) ∧
        layout.Complete (names cs ++ seen) ∧ result = apply cs record := by
  have hperm : ∀ cs : List (String × (α → α)),
      layout.Complete (names cs ++ key :: seen) ↔ layout.Complete (key :: (names cs ++ seen)) :=
    fun cs => forall_congr' fun slot => by rw [List.perm_middle.mem_iff]
  constructor
  · rintro ⟨cs, hrest, hnodup, hfresh, hcomplete, hresult⟩
    refine ⟨(key, c) :: cs, by simp [hrest], ?_, ?_, (hperm cs).1 hcomplete, hresult⟩
    · exact List.nodup_cons.2 ⟨fun h => hfresh key h List.mem_cons_self, hnodup⟩
    · intro k hk
      rcases List.mem_cons.1 hk with rfl | hk
      · exact hkey
      · exact fun h => hfresh k hk (List.mem_cons_of_mem _ h)
  · rintro ⟨_, hcs, hnodup, hfresh, hcomplete, hresult⟩
    obtain ⟨cs, hrest, rfl⟩ := Option.map_eq_some_iff.1 hcs
    have hcons := List.nodup_cons.1 hnodup
    refine ⟨cs, hrest, hcons.2, fun k hk h => ?_, (hperm cs).2 hcomplete, hresult⟩
    rcases List.mem_cons.1 h with rfl | h
    · exact hcons.1 hk
    · exact hfresh k (List.mem_cons_of_mem _ hk) h

/-- An object says a record exactly if its members are sound and none repeats, and those that must
be there are; then it says the record after all changes. -/
theorem ofMembers_eq_some (members : List (List TextUnit × Tree)) :
    ∀ {record seen result}, layout.ofMembers record seen members = some result ↔
      ∃ cs, layout.changes members = some cs ∧ (names cs).Nodup ∧ (∀ key ∈ names cs, key ∉ seen) ∧
        layout.Complete (names cs ++ seen) ∧ result = apply cs record := by
  induction members with
  | nil =>
      intro record seen result
      rw [ofMembers, changes]
      by_cases hcomplete : layout.Complete seen
      · rw [if_pos ((missing?_isNone seen).2 hcomplete)]
        simp [names, apply, hcomplete, eq_comm]
      · rw [if_neg (fun h => hcomplete ((missing?_isNone seen).1 h))]
        simp [names, hcomplete]
  | cons m members ih =>
      obtain ⟨name, t⟩ := m
      intro record seen result
      rw [ofMembers, changes, change]
      cases hname : TextUnit.value? name with
      | none => simp
      | some key =>
          simp only [Option.bind_some]
          cases hslot : layout.slot? key with
          | none => simpa using ih
          | some slot =>
              dsimp only
              cases hview : slot.view t with
              | none => simp
              | some c =>
                  simp only [Option.bind_some, Option.map_some]
                  cases hseen : seen.contains key with
                  | true =>
                      have hmem : key ∈ seen := List.contains_iff_mem.1 hseen
                      simp only [if_true, reduceCtorEq, false_iff]
                      rintro ⟨cs, hcs, -, hfresh, -⟩
                      obtain ⟨cs', -, rfl⟩ := Option.map_eq_some_iff.1 hcs
                      exact hfresh key (by simp [names]) hmem
                  | false =>
                      have hmem : key ∉ seen := fun hmem => by
                        rw [List.contains_iff_mem.2 hmem] at hseen
                        cases hseen
                      simp only [Bool.false_eq_true, if_false, ih]
                      exact given_cons hmem

theorem view_object_eq_some {members : List (List TextUnit × Tree)} {result : α} :
    layout.view (.object members) = some result ↔
      ∃ cs, layout.changes members = some cs ∧ (names cs).Nodup ∧ layout.Complete (names cs) ∧
        result = apply cs layout.blank := by
  rw [view, ofMembers_eq_some]
  simp

theorem changes_append (before after : List (List TextUnit × Tree)) :
    layout.changes (before ++ after) =
      (layout.changes before).bind fun cs => (layout.changes after).map (cs ++ ·) := by
  induction before with
  | nil => simp [changes]
  | cons m before ih =>
      rw [List.cons_append, changes, changes, ih]
      cases layout.change m with
      | none => rfl
      | some c =>
          cases layout.changes before with
          | none => rfl
          | some cs => cases layout.changes after <;> simp

/-- The changes before a member, of the member and after it. -/
theorem changes_split {before after : List (List TextUnit × Tree)} {m : List TextUnit × Tree}
    {cs : List (String × (α → α))} (h : layout.changes (before ++ m :: after) = some cs) :
    ∃ first d last, layout.changes before = some first ∧ layout.change m = some d ∧
      layout.changes after = some last ∧ cs = first ++ (d ++ last) := by
  rw [changes_append, changes] at h
  obtain ⟨first, hfirst, hrest⟩ := Option.bind_eq_some_iff.1 h
  obtain ⟨_, hmore, rfl⟩ := Option.map_eq_some_iff.1 hrest
  obtain ⟨d, hd, hlast⟩ := Option.bind_eq_some_iff.1 hmore
  obtain ⟨last, hafter, rfl⟩ := Option.map_eq_some_iff.1 hlast
  exact ⟨first, d, last, hfirst, hd, hafter, rfl⟩

theorem changes_perm {members members' : List (List TextUnit × Tree)} (h : members.Perm members') :
    ∀ {cs}, layout.changes members = some cs →
      ∃ cs', layout.changes members' = some cs' ∧ cs.Perm cs' := by
  induction h with
  | nil => exact fun hcs => ⟨_, hcs, .refl _⟩
  | cons m _ ih =>
      intro cs hcs
      rw [changes] at hcs
      obtain ⟨c, hc, hrest⟩ := Option.bind_eq_some_iff.1 hcs
      obtain ⟨rest, hmembers, rfl⟩ := Option.map_eq_some_iff.1 hrest
      obtain ⟨rest', hmembers', hperm⟩ := ih hmembers
      exact ⟨c ++ rest', by simp [changes, hc, hmembers'], hperm.append_left c⟩
  | swap m m' members =>
      intro cs hcs
      simp only [changes] at hcs
      obtain ⟨c', hc', hrest⟩ := Option.bind_eq_some_iff.1 hcs
      obtain ⟨_, htwo, rfl⟩ := Option.map_eq_some_iff.1 hrest
      obtain ⟨c, hc, hrest⟩ := Option.bind_eq_some_iff.1 htwo
      obtain ⟨rest, hmembers, rfl⟩ := Option.map_eq_some_iff.1 hrest
      refine ⟨c ++ (c' ++ rest), by simp [changes, hc, hc', hmembers], ?_⟩
      rw [← List.append_assoc, ← List.append_assoc]
      exact List.perm_append_comm.append_right rest
  | trans _ _ ih ih' =>
      intro cs hcs
      obtain ⟨cs', hcs', hperm⟩ := ih hcs
      obtain ⟨cs'', hcs'', hperm'⟩ := ih' hcs'
      exact ⟨cs'', hcs'', hperm.trans hperm'⟩

theorem change_eq_some {m : List TextUnit × Tree} {cs : List (String × (α → α))}
    (h : layout.change m = some cs) :
    ∃ key, TextUnit.value? m.1 = some key ∧
      (layout.slot? key = none ∧ cs = [] ∨
        ∃ slot c, layout.slot? key = some slot ∧ slot.view m.2 = some c ∧ cs = [(key, c)]) := by
  obtain ⟨key, hkey, hchange⟩ := Option.bind_eq_some_iff.1 h
  refine ⟨key, hkey, ?_⟩
  cases hslot : layout.slot? key with
  | none =>
      rw [hslot] at hchange
      exact .inl ⟨rfl, (Option.some.inj hchange).symm⟩
  | some slot =>
      rw [hslot] at hchange
      obtain ⟨c, hc, rfl⟩ := Option.map_eq_some_iff.1 hchange
      exact .inr ⟨slot, c, rfl, hc, rfl⟩

theorem WellFormed.change_known (hlayout : layout.WellFormed) {slot : Slot α}
    (hslot : slot ∈ layout.slots) {m : List TextUnit × Tree}
    (hname : TextUnit.value? m.1 = some slot.name) {cs : List (String × (α → α))}
    (h : layout.change m = some cs) : ∃ c, slot.view m.2 = some c ∧ cs = [(slot.name, c)] := by
  rw [change, hname, Option.bind_some, hlayout.slot?_name hslot] at h
  obtain ⟨c, hc, rfl⟩ := Option.map_eq_some_iff.1 h
  exact ⟨c, hc, rfl⟩

/-- The changes of an object are those of its known members. -/
theorem mem_changes {members : List (List TextUnit × Tree)} {cs : List (String × (α → α))}
    (h : layout.changes members = some cs) {key : String} {c : α → α} :
    (key, c) ∈ cs ↔ ∃ m ∈ members, ∃ slot, TextUnit.value? m.1 = some key ∧
      layout.slot? key = some slot ∧ slot.view m.2 = some c := by
  induction members generalizing cs with
  | nil =>
      cases h
      simp
  | cons m members ih =>
      rw [changes] at h
      obtain ⟨d, hd, hrest⟩ := Option.bind_eq_some_iff.1 h
      obtain ⟨rest, hmembers, rfl⟩ := Option.map_eq_some_iff.1 hrest
      obtain ⟨key', hkey', hchange⟩ := change_eq_some hd
      rw [List.mem_append, ih hmembers]
      simp only [List.mem_cons, or_and_right, exists_or, exists_eq_left]
      refine or_congr_left ?_
      rcases hchange with ⟨hslot, rfl⟩ | ⟨slot, c', hslot, hview, rfl⟩
      · simp only [List.not_mem_nil, false_iff]
        rintro ⟨slot, hkey, hsome, -⟩
        rw [hkey'] at hkey
        cases hkey
        rw [hslot] at hsome
        cases hsome
      · rw [List.mem_singleton, Prod.mk.injEq]
        constructor
        · rintro ⟨rfl, rfl⟩
          exact ⟨slot, hkey', hslot, hview⟩
        · rintro ⟨slot', hkey, hslot', hview'⟩
          rw [hkey'] at hkey
          cases hkey
          rw [hslot] at hslot'
          cases hslot'
          rw [hview] at hview'
          cases hview'
          exact ⟨rfl, rfl⟩

/-! ## Changes in any order -/

/-- Every change is one that the member with its name can make. -/
def Possible (layout : Layout α) (cs : List (String × (α → α))) : Prop :=
  ∀ c ∈ cs, ∃ slot ∈ layout.slots, ∃ t, slot.name = c.1 ∧ slot.view t = some c.2

theorem possible_changes {members : List (List TextUnit × Tree)} {cs : List (String × (α → α))}
    (h : layout.changes members = some cs) : layout.Possible cs := by
  rintro ⟨key, c⟩ hc
  obtain ⟨m, -, slot, -, hslot, hview⟩ := (mem_changes h).1 hc
  exact ⟨slot, (slot?_mem hslot).1, m.2, (slot?_mem hslot).2, hview⟩

theorem eq_of_names {cs : List (String × (α → α))} (hnodup : (names cs).Nodup)
    {c d : String × (α → α)} (hc : c ∈ cs) (hd : d ∈ cs) (hname : c.1 = d.1) : c = d :=
  List.inj_on_of_nodup_map hnodup hc hd hname

/-- The record after changes of different members does not depend on their order. -/
theorem apply_perm (hlayout : layout.WellFormed) {cs cs' : List (String × (α → α))}
    (hpossible : layout.Possible cs) (hnodup : (names cs).Nodup) (hperm : cs.Perm cs')
    (record : α) :
    apply cs record = apply cs' record := by
  refine hperm.foldl_eq' (fun c hc d hd r => ?_) record
  by_cases hname : c.1 = d.1
  · rw [eq_of_names hnodup hc hd hname]
  · obtain ⟨slot, hslot, t, hslotname, hview⟩ := hpossible c hc
    obtain ⟨other, hother, t', hothername, hview'⟩ := hpossible d hd
    have hne : other.name ≠ slot.name := by
      rw [hslotname, hothername]
      exact Ne.symm hname
    exact hlayout.commutes hother hslot hne t' t d.2 c.2 hview' hview r

/-- Changes that leave the record as it is. -/
theorem apply_eq_self {cs : List (String × (α → α))} {record : α}
    (h : ∀ c ∈ cs, c.2 record = record) : apply cs record = record := by
  induction cs with
  | nil => rfl
  | cons c cs ih =>
      show apply cs (c.2 record) = record
      rw [h c List.mem_cons_self]
      exact ih fun d hd => h d (List.mem_cons_of_mem _ hd)

theorem apply_append (cs cs' : List (String × (α → α))) (record : α) :
    apply (cs ++ cs') record = apply cs' (apply cs record) := List.foldl_append

/-- The record does not depend on changes that give it what it has anyway. -/
theorem apply_with_defaults (hlayout : layout.WellFormed) {all cs : List (String × (α → α))}
    (hpossible : layout.Possible all) (hall : (names all).Nodup) (hnodup : (names cs).Nodup)
    (hkind : ∀ c ∈ all, c ∈ cs ∨ c.1 ∉ names cs ∧ c.2 layout.blank = layout.blank)
    (hcover : ∀ c ∈ cs, c.1 ∈ names all) : apply all layout.blank = apply cs layout.blank := by
  let given := all.filter fun c => decide (c.1 ∈ names cs)
  let defaults := all.filter fun c => !decide (c.1 ∈ names cs)
  have hmem : ∀ c, c ∈ given ↔ c ∈ cs := by
    intro c
    rw [List.mem_filter, decide_eq_true_eq]
    constructor
    · rintro ⟨hc, hname⟩
      exact (hkind c hc).resolve_right fun h => h.1 hname
    · intro hc
      have hname : c.1 ∈ names cs := List.mem_map_of_mem hc
      obtain ⟨d, hd, hdname⟩ := List.mem_map.1 (hcover c hc)
      have hdcs : d ∈ cs := (hkind d hd).resolve_right fun h => h.1 (hdname ▸ hname)
      rw [← eq_of_names hnodup hdcs hc hdname]
      exact ⟨hd, hdname ▸ hname⟩
  have hgiven : given.Perm cs :=
    (List.perm_ext_iff_of_nodup (hall.of_map.filter _) hnodup.of_map).2 hmem
  have hsplit : all.Perm (defaults ++ given) :=
    (List.filter_append_perm _ all).symm.trans List.perm_append_comm
  have hgivenPossible : layout.Possible given := fun c hc => hpossible c (List.mem_of_mem_filter hc)
  have hdefaults : apply defaults layout.blank = layout.blank := by
    refine apply_eq_self fun c hc => ?_
    have hc' := List.mem_filter.1 hc
    simp only [Bool.not_eq_true', decide_eq_false_iff_not] at hc'
    rcases hkind c hc'.1 with h | h
    · exact absurd (List.mem_map_of_mem h) hc'.2
    · exact h.2
  calc apply all layout.blank
      = apply (defaults ++ given) layout.blank :=
        apply_perm hlayout hpossible hall hsplit layout.blank
    _ = apply given layout.blank := by rw [apply_append, hdefaults]
    _ = apply cs layout.blank :=
        apply_perm hlayout hgivenPossible ((hgiven.map _).nodup_iff.2 hnodup) hgiven layout.blank

/-! ## Other trees for a record -/

/-- The element is the value of the member in the object, or its default where the object leaves it
out. -/
def Gives (layout : Layout α) (members : List (List TextUnit × Tree)) (slot : Slot α)
    (item : Tree) : Prop :=
  (∃ name, (name, item) ∈ members ∧ TextUnit.value? name = some slot.name) ∨
    ((∀ m ∈ members, TextUnit.value? m.1 ≠ some slot.name) ∧ slot.IsDefault layout.blank item)

/-- One way of writing a record otherwise; `inside` says what may be done to the values of its
members. -/
inductive Rephrases (layout : Layout α) (inside : String → Tree → Tree → Prop) :
    Tree → Tree → Prop where
  /-- members in another order -/
  | permute {members members' : List (List TextUnit × Tree)} :
    members.Perm members' → Rephrases layout inside (.object members) (.object members')
  /-- a member whose name the record does not know, with any value -/
  | insert (before after : List (List TextUnit × Tree)) {name : List TextUnit} {key : String}
    (value : Tree) : TextUnit.value? name = some key → layout.slot? key = none →
    Rephrases layout inside (.object (before ++ after)) (.object (before ++ (name, value) :: after))
  /-- a member that may be left out and has its default -/
  | leaveOut (before after : List (List TextUnit × Tree)) {name : List TextUnit} {t : Tree}
    {slot : Slot α} : slot ∈ layout.slots → slot.required = false →
    TextUnit.value? name = some slot.name → slot.IsDefault layout.blank t →
    Rephrases layout inside (.object (before ++ (name, t) :: after)) (.object (before ++ after))
  /-- the values of all members in the order of the record -/
  | positions {members : List (List TextUnit × Tree)} {items : List Tree} :
    List.Forall₂ (layout.Gives members) layout.slots items →
    Rephrases layout inside (.object members) (.list items)
  /-- the value of a member written otherwise -/
  | member (before after : List (List TextUnit × Tree)) {name : List TextUnit} {key : String}
    {t t' : Tree} : TextUnit.value? name = some key → inside key t t' →
    Rephrases layout inside (.object (before ++ (name, t) :: after))
      (.object (before ++ (name, t') :: after))
  /-- the value of a member of a list written otherwise -/
  | position (before after : List Tree) {slot : Slot α} {t t' : Tree} :
    layout.slots[before.length]? = some slot → inside slot.name t t' →
    Rephrases layout inside (.list (before ++ t :: after)) (.list (before ++ t' :: after))

theorem view_permute (hlayout : layout.WellFormed) {members members' : List (List TextUnit × Tree)}
    (hperm : members.Perm members') {result : α} (h : layout.view (.object members) = some result) :
    layout.view (.object members') = some result := by
  obtain ⟨cs, hcs, hnodup, hcomplete, rfl⟩ := view_object_eq_some.1 h
  obtain ⟨cs', hcs', hchanges⟩ := changes_perm hperm hcs
  have hnames : (names cs).Perm (names cs') := hchanges.map _
  refine view_object_eq_some.2 ⟨cs', hcs', hnames.nodup_iff.1 hnodup,
    fun slot hslot hrequired => ?_,
    apply_perm hlayout (possible_changes hcs) hnodup hchanges layout.blank⟩
  exact hnames.mem_iff.1 (hcomplete slot hslot hrequired)

theorem view_insert {before after : List (List TextUnit × Tree)} {name : List TextUnit}
    {key : String} (value : Tree) (hname : TextUnit.value? name = some key)
    (hslot : layout.slot? key = none) :
    layout.view (.object (before ++ (name, value) :: after)) =
      layout.view (.object (before ++ after)) := by
  have hchange : layout.change (name, value) = some [] := by simp [change, hname, hslot]
  have hchanges : layout.changes (before ++ (name, value) :: after) =
      layout.changes (before ++ after) := by
    rw [changes_append, changes_append, changes, hchange]
    simp
  refine Option.ext fun result => ?_
  rw [view_object_eq_some, view_object_eq_some, hchanges]

theorem view_leaveOut (hlayout : layout.WellFormed) {before after : List (List TextUnit × Tree)}
    {name : List TextUnit} {t : Tree} {slot : Slot α} (hslot : slot ∈ layout.slots)
    (hoptional : slot.required = false) (hname : TextUnit.value? name = some slot.name)
    (hdefault : slot.IsDefault layout.blank t) {result : α}
    (h : layout.view (.object (before ++ (name, t) :: after)) = some result) :
    layout.view (.object (before ++ after)) = some result := by
  obtain ⟨c, hview, hblank⟩ := hdefault
  obtain ⟨cs, hcs, hnodup, hcomplete, rfl⟩ := view_object_eq_some.1 h
  have hpossible := possible_changes hcs
  have hchange : layout.change (name, t) = some [(slot.name, c)] := by
    simp [change, hname, hlayout.slot?_name hslot, hview]
  obtain ⟨first, d, second, hfirst, hd, hafter, rfl⟩ := changes_split hcs
  rw [hchange] at hd
  cases hd
  have hperm : (first ++ ([(slot.name, c)] ++ second)).Perm ((slot.name, c) :: (first ++ second)) :=
    List.perm_middle
  have hnames := hperm.map Prod.fst
  have hnodup' : (slot.name :: names (first ++ second)).Nodup := hnames.nodup_iff.1 hnodup
  refine view_object_eq_some.2 ⟨first ++ second, by simp [changes_append, hfirst, hafter],
    (List.nodup_cons.1 hnodup').2, fun other hother hrequired => ?_, ?_⟩
  · rcases List.mem_cons.1 (hnames.mem_iff.1 (hcomplete other hother hrequired)) with heq | hmem
    · -- the member that was left out is not one that must be there
      rw [List.inj_on_of_nodup_map hlayout.distinct hother hslot heq, hoptional] at hrequired
      cases hrequired
    · exact hmem
  · rw [apply_perm hlayout hpossible hnodup hperm layout.blank]
    show apply (first ++ second) (c layout.blank) = _
    rw [hblank]

theorem view_member {before after : List (List TextUnit × Tree)} {name : List TextUnit}
    {key : String} {t t' : Tree} (hname : TextUnit.value? name = some key)
    (hinside : ∀ slot c, layout.slot? key = some slot → slot.view t = some c →
      slot.view t' = some c)
    {result : α} (h : layout.view (.object (before ++ (name, t) :: after)) = some result) :
    layout.view (.object (before ++ (name, t') :: after)) = some result := by
  obtain ⟨cs, hcs, hrest⟩ := view_object_eq_some.1 h
  refine view_object_eq_some.2 ⟨cs, ?_, hrest⟩
  obtain ⟨first, d, last, hfirst, hc, hlast, rfl⟩ := changes_split hcs
  have hchange : layout.change (name, t') = some d := by
    obtain ⟨key', hkey', hcases⟩ := change_eq_some hc
    rw [hname] at hkey'
    cases hkey'
    rcases hcases with ⟨hslot, rfl⟩ | ⟨slot, d, hslot, hview, rfl⟩
    · simp [change, hname, hslot]
    · simp [change, hname, hslot, hinside slot d hslot hview]
  rw [changes_append, changes, hfirst, hchange, hlast]
  rfl

theorem ofItems_position {t t' : Tree} {after : List Tree} :
    ∀ {before : List Tree} {slots : List (Slot α)} {record result : α},
      (∀ slot c, slots[before.length]? = some slot → slot.view t = some c → slot.view t' = some c) →
      ofItems slots record (before ++ t :: after) = some result →
      ofItems slots record (before ++ t' :: after) = some result := by
  intro before
  induction before with
  | nil =>
      intro slots record result hinside h
      cases slots with
      | nil => cases h
      | cons slot slots =>
          rw [List.nil_append, ofItems] at h ⊢
          obtain ⟨c, hview, hrest⟩ := Option.bind_eq_some_iff.1 h
          rw [hinside slot c rfl hview]
          exact hrest
  | cons x before ih =>
      intro slots record result hinside h
      cases slots with
      | nil => cases h
      | cons slot slots =>
          rw [List.cons_append, ofItems] at h ⊢
          obtain ⟨c, hview, hrest⟩ := Option.bind_eq_some_iff.1 h
          rw [hview]
          exact ih (fun s d hs => hinside s d hs) hrest

/-- A list that gives every member says the record after their changes. -/
theorem exists_changes_of_items {R : Slot α → Tree → Prop} {slots : List (Slot α)}
    {items : List Tree} (h : List.Forall₂ R slots items)
    (hview : ∀ slot ∈ slots, ∀ item, R slot item → ∃ c, slot.view item = some c) :
    ∃ cs, (∀ record, ofItems slots record items = some (apply cs record)) ∧
      names cs = slots.map (·.name) ∧
      ∀ c ∈ cs, ∃ slot ∈ slots, ∃ item, R slot item ∧ slot.name = c.1 ∧
        slot.view item = some c.2 := by
  induction h with
  | nil => exact ⟨[], fun _ => rfl, rfl, by simp⟩
  | @cons slot item slots items hfirst _ ih =>
      obtain ⟨c, hc⟩ := hview slot List.mem_cons_self item hfirst
      obtain ⟨cs, hcs, hnames, hsource⟩ := ih fun s hs => hview s (List.mem_cons_of_mem _ hs)
      refine ⟨(slot.name, c) :: cs, fun record => ?_, congrArg (slot.name :: ·) hnames, ?_⟩
      · rw [ofItems, hc]
        exact hcs (c record)
      · intro d hd
        rcases List.mem_cons.1 hd with rfl | hd
        · exact ⟨slot, List.mem_cons_self, item, hfirst, rfl, hc⟩
        · obtain ⟨s, hs, rest⟩ := hsource d hd
          exact ⟨s, List.mem_cons_of_mem _ hs, rest⟩

theorem exists_change_of_mem {members : List (List TextUnit × Tree)} {cs : List (String × (α → α))}
    (h : layout.changes members = some cs) {m : List TextUnit × Tree} (hm : m ∈ members) :
    ∃ d, layout.change m = some d := by
  obtain ⟨before, after, rfl⟩ := List.append_of_mem hm
  obtain ⟨-, d, -, -, hd, -, -⟩ := changes_split h
  exact ⟨d, hd⟩

theorem exists_view_of_gives (hlayout : layout.WellFormed) {members : List (List TextUnit × Tree)}
    {cs : List (String × (α → α))} (hcs : layout.changes members = some cs) {slot : Slot α}
    (hslot : slot ∈ layout.slots) {item : Tree} (h : layout.Gives members slot item) :
    ∃ c, slot.view item = some c := by
  rcases h with ⟨name, hmem, hname⟩ | ⟨-, c, hview, -⟩
  · obtain ⟨d, hd⟩ := exists_change_of_mem hcs hmem
    obtain ⟨c, hview, -⟩ := hlayout.change_known hslot hname hd
    exact ⟨c, hview⟩
  · exact ⟨c, hview⟩

/-- The change of an element is the change of the object's member, or none at all. -/
theorem mem_or_default_of_gives (hlayout : layout.WellFormed)
    {members : List (List TextUnit × Tree)} {cs : List (String × (α → α))}
    (hcs : layout.changes members = some cs) {slot : Slot α} (hslot : slot ∈ layout.slots)
    {item : Tree} {c : α → α} (hview : slot.view item = some c)
    (h : layout.Gives members slot item) :
    (slot.name, c) ∈ cs ∨ slot.name ∉ names cs ∧ c layout.blank = layout.blank := by
  rcases h with ⟨name, hmem, hname⟩ | ⟨habsent, d, hdefault, hblank⟩
  · exact .inl ((mem_changes hcs).2
      ⟨(name, item), hmem, slot, hname, hlayout.slot?_name hslot, hview⟩)
  · rw [hview] at hdefault
    cases hdefault
    refine .inr ⟨fun hkey => ?_, hblank⟩
    obtain ⟨⟨key, e⟩, he, rfl⟩ := List.mem_map.1 hkey
    obtain ⟨m, hm, -, hname, -⟩ := (mem_changes hcs).1 he
    exact habsent m hm hname

theorem view_positions (hlayout : layout.WellFormed) {members : List (List TextUnit × Tree)}
    {items : List Tree} (hitems : List.Forall₂ (layout.Gives members) layout.slots items)
    {result : α} (h : layout.view (.object members) = some result) :
    layout.view (.list items) = some result := by
  obtain ⟨cs, hcs, hnodup, -, rfl⟩ := view_object_eq_some.1 h
  obtain ⟨all, hall, hnames, hsource⟩ := exists_changes_of_items hitems
    fun slot hslot _ => exists_view_of_gives hlayout hcs hslot
  have hpossible : layout.Possible all := fun c hc => by
    obtain ⟨slot, hslot, item, -, hname, hview⟩ := hsource c hc
    exact ⟨slot, hslot, item, hname, hview⟩
  have hkind : ∀ c ∈ all, c ∈ cs ∨ c.1 ∉ names cs ∧ c.2 layout.blank = layout.blank := by
    intro c hc
    obtain ⟨slot, hslot, item, hgives, hname, hview⟩ := hsource c hc
    have hcases := mem_or_default_of_gives hlayout hcs hslot hview hgives
    rwa [hname] at hcases
  have hcover : ∀ c ∈ cs, c.1 ∈ names all := by
    rintro ⟨key, c⟩ hc
    obtain ⟨-, -, slot, -, hslot, -⟩ := (mem_changes hcs).1 hc
    rw [hnames]
    exact List.mem_map.2 ⟨slot, slot?_mem hslot⟩
  rw [view, hall]
  refine congrArg some (apply_with_defaults hlayout hpossible ?_ hnodup hkind hcover)
  rw [hnames]
  exact hlayout.distinct

/-- What is written otherwise says the same record. -/
theorem Rephrases.view_eq (hlayout : layout.WellFormed) {inside : String → Tree → Tree → Prop}
    (hinside : ∀ slot ∈ layout.slots, ∀ t t' c, inside slot.name t t' → slot.view t = some c →
      slot.view t' = some c) {t t' : Tree} (h : layout.Rephrases inside t t') {result : α}
    (ht : layout.view t = some result) : layout.view t' = some result := by
  cases h with
  | permute hperm => exact view_permute hlayout hperm ht
  | insert _ _ value hname hslot => rwa [view_insert value hname hslot]
  | leaveOut _ _ hslot hoptional hname hdefault =>
      exact view_leaveOut hlayout hslot hoptional hname hdefault ht
  | positions hitems => exact view_positions hlayout hitems ht
  | member _ _ hname hstep =>
      refine view_member hname (fun slot c hslot hview => ?_) ht
      obtain ⟨hmem, rfl⟩ := slot?_mem hslot
      exact hinside slot hmem _ _ c hstep hview
  | position _ _ hslot hstep =>
      refine ofItems_position (fun slot c hslot' hview => ?_) ht
      rw [hslot] at hslot'
      cases hslot'
      exact hinside _ (List.mem_of_getElem? hslot) _ _ c hstep hview

/-! ## Members given twice -/

/-- Somewhere in the record a known member is given twice; `inside` says where that is in the values
of its members. -/
inductive Repeats (layout : Layout α) (inside : String → Tree → Prop) : Tree → Prop where
  | here (before between after : List (List TextUnit × Tree)) {name name' : List TextUnit}
    {t t' : Tree} {slot : Slot α} : slot ∈ layout.slots → TextUnit.value? name = some slot.name →
    TextUnit.value? name' = some slot.name →
    Repeats layout inside (.object (before ++ (name, t) :: (between ++ (name', t') :: after)))
  | member (before after : List (List TextUnit × Tree)) {name : List TextUnit} {t : Tree}
    {slot : Slot α} : slot ∈ layout.slots → TextUnit.value? name = some slot.name →
    inside slot.name t → Repeats layout inside (.object (before ++ (name, t) :: after))
  | position (before after : List Tree) {slot : Slot α} {t : Tree} :
    layout.slots[before.length]? = some slot → inside slot.name t →
    Repeats layout inside (.list (before ++ t :: after))

theorem ofItems_position_none {t : Tree} {after : List Tree} :
    ∀ {before : List Tree} {slots : List (Slot α)} {record : α} {slot : Slot α},
      slots[before.length]? = some slot → slot.view t = none →
      ofItems slots record (before ++ t :: after) = none := by
  intro before
  induction before with
  | nil =>
      intro slots record slot hslot hview
      cases slots with
      | nil => cases hslot
      | cons first slots =>
          cases hslot
          rw [List.nil_append, ofItems, hview]
          rfl
  | cons x before ih =>
      intro slots record slot hslot hview
      cases slots with
      | nil => cases hslot
      | cons first slots =>
          rw [List.cons_append, ofItems]
          cases first.view x with
          | none => rfl
          | some c => exact ih hslot hview

/-- A tree that gives a known member twice says no record. -/
theorem Repeats.view_eq_none (hlayout : layout.WellFormed) {inside : String → Tree → Prop}
    (hinside : ∀ slot ∈ layout.slots, ∀ t, inside slot.name t → slot.view t = none) {t : Tree}
    (h : layout.Repeats inside t) : layout.view t = none := by
  refine Option.eq_none_iff_forall_not_mem.2 fun result hresult => ?_
  cases h with
  | here _ _ _ hslot hname hname' =>
      obtain ⟨cs, hcs, hnodup, -⟩ := view_object_eq_some.1 hresult
      obtain ⟨first, d, last, -, hd, hlast, rfl⟩ := changes_split hcs
      obtain ⟨second, d', rest, -, hd', -, rfl⟩ := changes_split hlast
      obtain ⟨c, -, rfl⟩ := hlayout.change_known hslot hname hd
      obtain ⟨c', -, rfl⟩ := hlayout.change_known hslot hname' hd'
      simp [names, List.nodup_append] at hnodup
  | member _ _ hslot hname hrepeat =>
      obtain ⟨cs, hcs, -⟩ := view_object_eq_some.1 hresult
      obtain ⟨-, d, -, -, hd, -, -⟩ := changes_split hcs
      obtain ⟨c, hview, -⟩ := hlayout.change_known hslot hname hd
      rw [hinside _ hslot _ hrepeat] at hview
      cases hview
  | position _ _ hslot hrepeat =>
      have hnone := hinside _ (List.mem_of_getElem? hslot) _ hrepeat
      rw [view, ofItems_position_none hslot hnone] at hresult
      cases hresult

end Layout

end ApiStubs.Json
