import ApiStubs.Template.Eval

/-!
# Values that do not ask what is held

Only one function shows which templates are held.  A value is silent unless this function is part of
it, or a macro that names the function.  Whatever a template does with silent values, by members,
items, sums, filters, functions and bindings, yields silent values again.

All of this is relative to a flag that lets the function pass after all, so that every value is
silent; what is proved then holds of every template.
-/

namespace ApiStubs.Template

/-! ## Names that statements read -/

mutual

/-- The names that a statement reads, in whatever part of it. -/
def Stmt.reads : Stmt → List String
  | .text _ => []
  | .print value => value.names
  | .branch condition yes no => condition.names ++ (readsOfStmts yes ++ readsOfStmts no)
  | .loop _ source body alternative =>
    source.names ++ (readsOfStmts body ++ readsOfStmts alternative)
  | .assign _ value => value.names
  | .capture _ filters body => filters.flatMap (fun f => namesOfExprs f.2) ++ readsOfStmts body
  | .define _ parameters body => namesOfDefaults parameters ++ readsOfStmts body

/-- The names that statements read. -/
def readsOfStmts : List Stmt → List String
  | [] => []
  | stmt :: rest => stmt.reads ++ readsOfStmts rest

end

mutual

/-- What a statement reads from outside is part of all that it reads. -/
theorem free_sublist_reads :
    ∀ (stmt : Stmt) (bound : List String), (stmt.free bound).Sublist stmt.reads
  | .text _, bound => by
    rw [Stmt.free]
    exact List.nil_sublist _
  | .print value, bound => by
    rw [Stmt.free, Stmt.reads]
    exact List.filter_sublist
  | .branch condition yes no, bound => by
    rw [Stmt.free, Stmt.reads]
    exact List.filter_sublist.append
      ((freeNames_sublist_reads yes _).append (freeNames_sublist_reads no _))
  | .loop _ source body alternative, bound => by
    rw [Stmt.free, Stmt.reads]
    exact List.filter_sublist.append
      ((freeNames_sublist_reads body _).append (freeNames_sublist_reads alternative _))
  | .assign _ value, bound => by
    rw [Stmt.free, Stmt.reads]
    exact List.filter_sublist
  | .capture _ filters body, bound => by
    rw [Stmt.free, Stmt.reads]
    exact (freeNames_sublist_reads body _).trans (List.sublist_append_right ..)
  | .define name parameters body, bound => by
    rw [Stmt.free, Stmt.reads]
    exact List.filter_sublist.append (freeNames_sublist_reads body _)

theorem freeNames_sublist_reads : ∀ (stmts : List Stmt) (bound : List String),
    (freeNames bound stmts).Sublist (readsOfStmts stmts)
  | [], bound => by
    rw [freeNames]
    exact List.nil_sublist _
  | stmt :: rest, bound => by
    rw [freeNames, readsOfStmts]
    exact (free_sublist_reads stmt _).append (freeNames_sublist_reads rest _)

end

/-- What a macro remembers is among what it reads. -/
theorem captures_subset (parameters : List Parameter) (body : List Stmt) :
    captures parameters body ⊆ namesOfDefaults parameters ++ readsOfStmts body := by
  intro name hname
  have hmem : name ∈ macroNames parameters body := (List.mem_filter.1 hname).1
  rw [macroNames, List.mem_eraseDups] at hmem
  exact (List.filter_sublist.append (freeNames_sublist_reads body _)).subset hmem

/-- Whether names may be read: the name of the function that shows what is held only if it
`asks`. -/
def quiet (asks : Bool) (names : List String) : Bool := asks || !names.contains Function.debug.name

variable {asks : Bool}

theorem quiet_append {left right : List String} :
    quiet asks (left ++ right) = true ↔ quiet asks left = true ∧ quiet asks right = true := by
  cases asks <;> simp [quiet]

theorem quiet_of_subset {names more : List String} (h : names ⊆ more) (hmore : quiet asks more) :
    quiet asks names := by
  cases asks with
  | true => rfl
  | false =>
    simp only [quiet, Bool.false_or, List.contains_eq_mem, Bool.not_eq_true',
      decide_eq_false_iff_not] at hmore ⊢
    exact fun hmem => hmore (h hmem)

/-- Whether a macro may be called. -/
def Routine.quiet (asks : Bool) (r : Routine) : Bool :=
  Template.quiet asks (namesOfDefaults r.parameters ++ readsOfStmts r.body)

/-! ## Silent values -/

namespace Value

mutual

/-- Whether a value is silent. -/
def silent (asks : Bool) : Value → Bool
  | .function f => asks || f != .debug
  | .routine r => r.quiet asks
  | .list items => itemsSilent asks items
  | .chain _ items => itemsSilent asks items
  | .map entries => entriesSilent asks entries
  | .named entries => entriesSilent asks entries
  | .round _ _ _ previous next => silent asks previous && silent asks next
  | _ => true

/-- Whether all items are silent. -/
def itemsSilent (asks : Bool) : List Value → Bool
  | [] => true
  | v :: rest => silent asks v && itemsSilent asks rest

/-- Whether the values of all entries are silent. -/
def entriesSilent (asks : Bool) : List (String × Value) → Bool
  | [] => true
  | (_, v) :: rest => silent asks v && entriesSilent asks rest

end

theorem itemsSilent_iff {items : List Value} :
    itemsSilent asks items = true ↔ ∀ v ∈ items, v.silent asks = true := by
  induction items with
  | nil => simp [itemsSilent]
  | cons v rest ih => simp [itemsSilent, ih]

theorem entriesSilent_iff {entries : List (String × Value)} :
    entriesSilent asks entries = true ↔ ∀ entry ∈ entries, entry.2.silent asks = true := by
  induction entries with
  | nil => simp [entriesSilent]
  | cons entry rest ih => simp [entriesSilent, ih]

mutual

/-- Where the function may pass, every value is silent. -/
theorem silent_true : ∀ v : Value, v.silent true = true
  | .undefined | .none | .bool _ | .int _ _ | .float _ | .text _ | .function _ | .routine _ => by
    simp [silent, Routine.quiet, quiet]
  | .list items => by rw [silent, itemsSilent_true items]
  | .chain _ items => by rw [silent, itemsSilent_true items]
  | .map entries => by rw [silent, entriesSilent_true entries]
  | .named entries => by rw [silent, entriesSilent_true entries]
  | .round _ _ _ previous next => by rw [silent, silent_true previous, silent_true next]; rfl

theorem itemsSilent_true : ∀ items : List Value, itemsSilent true items = true
  | [] => rfl
  | v :: rest => by rw [itemsSilent, silent_true v, itemsSilent_true rest]; rfl

theorem entriesSilent_true : ∀ entries : List (String × Value), entriesSilent true entries = true
  | [] => rfl
  | (_, v) :: rest => by rw [entriesSilent, silent_true v, entriesSilent_true rest]; rfl

end

/-! ## Looking into values -/

theorem silent_of_findEntry {entries : List (String × Value)} {name : String} {v : Value}
    (h : entriesSilent asks entries) (hfound : findEntry name entries = some v) :
    v.silent asks :=
  entriesSilent_iff.1 h _ (mem_of_findEntry hfound)

theorem silent_getD {found : Option Value} (h : ∀ v ∈ found, v.silent asks) :
    (found.getD .undefined).silent asks := by
  cases found with
  | none => rfl
  | some v => exact h v rfl

theorem entriesSilent_of_entries? {v : Value} {entries : List (String × Value)}
    (h : v.silent asks) (hentries : v.entries? = some entries) : entriesSilent asks entries := by
  cases v with
  | map entries => cases hentries; exact h
  | named entries => cases hentries; exact h
  | routine r =>
    cases hentries
    simp [routineEntries, entriesSilent, silent, itemsSilent_iff]
  | round home index length previous next =>
    cases hentries
    rw [silent, Bool.and_eq_true] at h
    cases length <;> simp [roundEntries, entriesSilent, silent, count, h.1, h.2]
  | _ => cases hentries

theorem silent_member {v : Value} (h : v.silent asks) (name : String) :
    (v.member name).silent asks := by
  unfold member
  split
  · rename_i entries hentries
    exact silent_getD fun _ => silent_of_findEntry (entriesSilent_of_entries? h hentries)
  · rfl

theorem mem_of_atPosition {α : Type} {items : List α} {position : Int} {a : α}
    (h : atPosition items position = some a) : a ∈ items := by
  unfold atPosition at h
  split at h
  · exact List.mem_of_getElem? h
  · split at h
    · exact List.mem_of_getElem? h
    · cases h

theorem silent_atPosition {items : List Value} (h : itemsSilent asks items) (index : Value) :
    (match index.position? with
      | some n => (atPosition items n).getD .undefined
      | Option.none => Value.undefined).silent asks := by
  split
  · exact silent_getD fun v hv => itemsSilent_iff.1 h v (mem_of_atPosition hv)
  · rfl

theorem silent_item {v : Value} (h : v.silent asks) (index : Value) :
    (v.item index).silent asks := by
  unfold item
  split
  · exact silent_atPosition h index
  · exact silent_atPosition h index
  · split
    · refine silent_getD fun v hv => ?_
      obtain ⟨c, -, rfl⟩ := Option.map_eq_some_iff.1 hv
      rfl
    · rfl
  · split
    · exact silent_member h _
    · rfl

theorem itemsSilent_texts {α : Type} (f : α → String) (as : List α) :
    itemsSilent asks (as.map fun a => .text (f a)) := by
  rw [itemsSilent_iff]
  intro v hv
  obtain ⟨a, -, rfl⟩ := List.mem_map.1 hv
  rfl

theorem itemsSilent_of_items? {v : Value} {items : List Value} (h : v.silent asks)
    (hitems : v.items? = some items) : itemsSilent asks items := by
  unfold items? at hitems
  split at hitems
  · cases hitems; rfl
  · cases hitems; rfl
  · cases hitems; exact itemsSilent_texts ..
  · cases hitems; exact h
  · cases hitems; exact h
  · obtain ⟨entries, -, rfl⟩ := Option.map_eq_some_iff.1 hitems
    exact itemsSilent_texts ..

theorem itemsSilent_of_parts? {v : Value} {items : List Value} (h : v.silent asks)
    (hparts : v.parts? = some items) : itemsSilent asks items := by
  unfold parts? at hparts
  split at hparts
  · cases hparts; exact h
  · cases hparts; exact h
  · obtain ⟨entries, -, rfl⟩ := Option.map_eq_some_iff.1 hparts
    exact itemsSilent_texts ..

/-! ## Arithmetic -/

theorem silent_of_ofInt? {n : Int} {v : Value} (h : ofInt? n = some v) : v.silent asks := by
  unfold ofInt? at h
  split at h
  · cases h; rfl
  · split at h
    · cases h; rfl
    · cases h

theorem silent_of_addNumbers? {a b v : Value} (h : addNumbers? a b = some v) : v.silent asks := by
  unfold addNumbers? at h
  split at h
  · obtain ⟨pair, -, hsum⟩ := Option.bind_eq_some_iff.1 h
    exact silent_of_ofInt? hsum
  · split at h
    · cases h; rfl
    · cases h

theorem itemsSilent_of_sequence? {v : Value} {joints : Nat} {items : List Value}
    (h : v.silent asks) (hsequence : v.sequence? = some (joints, items)) :
    itemsSilent asks items := by
  cases v <;> first | (cases hsequence; exact h) | cases hsequence

theorem silent_of_add? {a b v : Value} (ha : a.silent asks) (hb : b.silent asks)
    (h : a.add? b = some v) : v.silent asks := by
  unfold add? at h
  split at h
  · rename_i as bs has hbs
    cases h
    have hitems : itemsSilent asks (as.2 ++ bs.2) := by
      rw [itemsSilent_iff, List.forall_mem_append]
      exact ⟨itemsSilent_iff.1 (itemsSilent_of_sequence? ha has),
        itemsSilent_iff.1 (itemsSilent_of_sequence? hb hbs)⟩
    unfold concat
    dsimp only
    split <;> exact hitems
  · split at h
    · cases h; rfl
    · exact silent_of_addNumbers? h

theorem silent_of_negate? {a v : Value} (h : a.negate? = some v) : v.silent asks := by
  unfold negate? at h
  split at h
  · split at h
    · cases h; rfl
    · split at h
      · exact silent_of_ofInt? h
      · cases h
  · cases h; rfl
  · cases h

end Value

open Value

theorem Literal.silent_value (l : Literal) : l.value.silent asks := by
  cases l <;> rfl

theorem silent_constantAnd {a b : Value} (hb : b.silent asks) : (constantAnd a b).silent asks := by
  unfold constantAnd
  split
  · exact hb
  · rfl

theorem silent_of_compareConstants? {left v : Value} {links : List (Comparison × Value)}
    (h : compareConstants? left links = some v) : v.silent asks := by
  induction links generalizing left with
  | nil =>
    rw [compareConstants?] at h
    cases h; rfl
  | cons link rest ih =>
    obtain ⟨op, right⟩ := link
    rw [compareConstants?] at h
    split at h
    · cases h
    · cases h; rfl
    · exact ih h

mutual

theorem silent_of_constant? : ∀ {e : Expr} {v : Value}, e.constant? = some v → v.silent asks
  | .literal l, v, h => by
    rw [Expr.constant?] at h
    cases h; exact l.silent_value
  | .list items, v, h => by
    rw [Expr.constant?] at h
    obtain ⟨values, hvalues, rfl⟩ := Option.map_eq_some_iff.1 h
    exact itemsSilent_of_constants? hvalues
  | .negate operand, v, h => by
    rw [Expr.constant?] at h
    obtain ⟨w, -, hw⟩ := Option.bind_eq_some_iff.1 h
    exact silent_of_negate? hw
  | .not operand, v, h => by
    rw [Expr.constant?] at h
    obtain ⟨w, -, rfl⟩ := Option.map_eq_some_iff.1 h
    rfl
  | .and left right, v, h => by
    rw [Expr.constant?] at h
    split at h
    · rename_i b a hb ha
      cases h
      exact silent_constantAnd (silent_of_constant? hb)
    · cases h
  | .or left right, v, h => by
    rw [Expr.constant?] at h
    split at h
    · rename_i b a hb ha
      cases h
      split
      · exact silent_of_constant? ha
      · exact silent_of_constant? hb
    · cases h
  | .add left right, v, h => by
    rw [Expr.constant?] at h
    split at h
    · rename_i b a hb ha
      exact silent_of_add? (silent_of_constant? ha) (silent_of_constant? hb) h
    · cases h
  | .compare first links, v, h => by
    rw [Expr.constant?] at h
    split at h
    · exact silent_of_compareConstants? h
    · cases h
  | .name _, v, h | .member _ _, v, h | .item _ _, v, h | .filter _ _ _, v, h
  | .test _ _ _, v, h | .call _ _, v, h | .named _, v, h => by
    simp [Expr.constant?] at h

theorem itemsSilent_of_constants? :
    ∀ {items : List Expr} {values : List Value}, constants? items = some values →
      itemsSilent asks values
  | [], values, h => by
    rw [constants?] at h
    cases h; rfl
  | e :: rest, values, h => by
    rw [constants?] at h
    split at h
    · rename_i v more hv hmore
      cases h
      rw [itemsSilent, silent_of_constant? hv, itemsSilent_of_constants? hmore]
      rfl
    · cases h

end

/-! ## Filters, tests and functions -/

theorem silent_of_textFilter {f : String → Value} (hf : ∀ s, (f s).silent asks) {subject v : Value}
    {arguments : List Value} (h : textFilter f subject arguments = .ok v) : v.silent asks := by
  unfold textFilter at h
  split at h
  · split at h
    · cases h
    · cases h; exact hf _
  · cases h

theorem silent_of_joinFilter {subject v : Value} {arguments : List Value}
    (h : joinFilter subject arguments = .ok v) : v.silent asks := by
  unfold joinFilter at h
  split at h
  · cases h
  · split at h
    · cases h
    · cases h; rfl

theorem silent_of_lengthFilter {subject v : Value} {arguments : List Value}
    (h : lengthFilter subject arguments = .ok v) : v.silent asks := by
  unfold lengthFilter at h
  split at h
  · split at h
    · cases h
    · cases h; rfl
  · cases h

theorem silent_of_applyFilter {language : Language} {name : String} {subject v : Value}
    {arguments : List Value} (h : applyFilter language name subject arguments = .ok v) :
    v.silent asks := by
  unfold applyFilter at h
  iterate 3
    split at h
    · exact silent_of_textFilter (fun _ => rfl) h
  split at h
  · exact silent_of_joinFilter h
  · split at h
    · exact silent_of_lengthFilter h
    · cases h

theorem silent_of_applyTest {name : String} {subject v : Value} {arguments : List Value}
    (h : applyTest name subject arguments = .ok v) : v.silent asks := by
  unfold applyTest at h
  split at h
  · exact silent_of_textFilter (fun _ => rfl) h
  · cases h

theorem silent_of_unary {f : Value → Except Fault Value}
    (hf : ∀ {v w}, f v = .ok w → w.silent asks) {arguments : List Value} {v : Value}
    (h : unary f arguments = .ok v) : v.silent asks := by
  unfold unary at h
  split at h
  · cases h
  · exact hf h
  · cases h

theorem silent_of_readOption {key default : String} {options v : Value}
    (h : readOption key default options = .ok v) : v.silent asks := by
  unfold readOption at h
  split at h
  · split at h <;> cases h <;> rfl
  · cases h

theorem silent_of_importedTypes {methods v : Value} (h : importedTypes methods = .ok v) :
    v.silent asks := by
  unfold importedTypes at h
  split at h
  · cases h
  · split at h
    · cases h
    · cases h; exact itemsSilent_texts (fun s => s) _

theorem silent_of_rangeValue {low high step : Int} {v : Value}
    (h : rangeValue low high step = .ok v) : v.silent asks := by
  unfold rangeValue at h
  split at h
  · cases h
  · cases h
    rw [silent, itemsSilent_iff]
    intro w hw
    obtain ⟨i, -, rfl⟩ := List.mem_map.1 hw
    rfl

theorem silent_of_rangeOf {arguments : List Value} {v : Value} (h : rangeOf arguments = .ok v) :
    v.silent asks := by
  unfold rangeOf at h
  split at h
  · cases h
  · split at h
    · cases h
    · dsimp only at h
      split at h
      · split at h <;> exact silent_of_rangeValue h
      · cases h
      · cases h
      · cases h

theorem entriesSilent_insertEntry {name : String} {v : Value} {entries : List (String × Value)}
    (hv : v.silent asks) (h : entriesSilent asks entries) :
    entriesSilent asks (SortedMap.insertEntry name v entries) := by
  rw [entriesSilent_iff] at h ⊢
  intro entry hentry
  rcases SortedMap.mem_insertEntry hentry with rfl | hmem
  · exact hv
  · exact h entry hmem

theorem silent_sortedMap {entries : List (String × Value)} (h : entriesSilent asks entries) :
    (sortedMap entries).silent asks := by
  rw [sortedMap, silent]
  refine List.foldlRecOn entries _ (motive := fun sorted => entriesSilent asks sorted = true) rfl ?_
  intro sorted hsorted entry hentry
  exact entriesSilent_insertEntry (entriesSilent_iff.1 h entry hentry) hsorted

theorem silent_splitArguments {arguments : List Value} (h : ∀ v ∈ arguments, v.silent asks) :
    (∀ v ∈ (splitArguments arguments).1, v.silent asks) ∧
      entriesSilent asks (splitArguments arguments).2 := by
  unfold splitArguments
  split
  · rename_i entries hlast
    exact ⟨fun v hv => h v (List.dropLast_subset _ hv), h _ (List.mem_of_getLast? hlast)⟩
  · exact ⟨h, rfl⟩

theorem silent_of_dictOf {arguments : List Value} {v : Value} (h : ∀ w ∈ arguments, w.silent asks)
    (hdict : dictOf arguments = .ok v) : v.silent asks := by
  obtain ⟨hplaced, hnamed⟩ := silent_splitArguments h
  unfold dictOf at hdict
  split at hdict
  · rename_i named hsplit
    rw [hsplit] at hnamed
    cases hdict
    exact silent_sortedMap hnamed
  · rename_i w named hsplit
    rw [hsplit] at hplaced hnamed
    split at hdict
    · cases hdict
      exact silent_sortedMap hnamed
    · split at hdict
      · rename_i entries hentries
        cases hdict
        apply silent_sortedMap
        rw [entriesSilent_iff, List.forall_mem_append, ← entriesSilent_iff, ← entriesSilent_iff]
        exact ⟨entriesSilent_of_entries? (hplaced w List.mem_cons_self) hentries, hnamed⟩
      · cases hdict
  · cases hdict

/-- Functions yield silent values of silent ones, whatever function it is. -/
theorem silent_of_apply {f : Function} {arguments : List Value} {v : Value}
    (h : ∀ w ∈ arguments, w.silent asks) (happly : f.apply arguments = .ok v) : v.silent asks := by
  cases f with
  | serviceMethod => exact silent_of_unary silent_of_readOption happly
  | errorType => exact silent_of_unary silent_of_readOption happly
  | importTypes => exact silent_of_unary silent_of_importedTypes happly
  | range => exact silent_of_rangeOf happly
  | dict => exact silent_of_dictOf h happly
  | namespace_ => cases happly
  | debug => cases happly; rfl

/-! ## Scopes -/

namespace Value

mutual

theorem silent_refreshed {present : Nat → Option Value}
    (hpresent : ∀ home, ∀ v ∈ present home, v.silent asks) :
    ∀ {v : Value}, v.silent asks → (v.refreshed present).silent asks
  | .round home index length previous next, h => by
    rw [refreshed]
    cases hfound : present home with
    | none => exact h
    | some v => exact hpresent home v hfound
  | .list items, h => by
    rw [refreshed]
    exact itemsSilent_refreshedItems hpresent h
  | .chain _ items, h => by
    rw [refreshed]
    exact itemsSilent_refreshedItems hpresent h
  | .map entries, h => by
    rw [refreshed]
    exact entriesSilent_refreshedEntries hpresent h
  | .named entries, h => by
    rw [refreshed]
    exact entriesSilent_refreshedEntries hpresent h
  | .undefined, h | .none, h | .bool _, h | .int _ _, h | .float _, h | .text _, h
  | .function _, h | .routine _, h => by
    rw [refreshed]
    · exact h
    all_goals simp

theorem itemsSilent_refreshedItems {present : Nat → Option Value}
    (hpresent : ∀ home, ∀ v ∈ present home, v.silent asks) :
    ∀ {items : List Value}, itemsSilent asks items → itemsSilent asks (refreshedItems present items)
  | [], _ => rfl
  | v :: rest, h => by
    rw [itemsSilent, Bool.and_eq_true] at h
    rw [refreshedItems, itemsSilent, silent_refreshed hpresent h.1,
      itemsSilent_refreshedItems hpresent h.2]
    rfl

theorem entriesSilent_refreshedEntries {present : Nat → Option Value}
    (hpresent : ∀ home, ∀ v ∈ present home, v.silent asks) :
    ∀ {entries : List (String × Value)}, entriesSilent asks entries →
      entriesSilent asks (refreshedEntries present entries)
  | [], _ => rfl
  | (_, v) :: rest, h => by
    rw [entriesSilent, Bool.and_eq_true] at h
    rw [refreshedEntries, entriesSilent, silent_refreshed hpresent h.1,
      entriesSilent_refreshedEntries hpresent h.2]
    rfl

end

end Value

/-- A frame that binds and remembers only silent values. -/
structure Frame.Silent (asks : Bool) (frame : Frame) : Prop where
  names : entriesSilent asks frame.names
  kept : ∀ kept ∈ frame.kept, entriesSilent asks kept
  round : ∀ v ∈ frame.round, v.silent asks

/-- A scope all of whose frames are silent. -/
def Scope.Silent (asks : Bool) (scope : Scope) : Prop := ∀ frame ∈ scope, frame.Silent asks

/-- A setting whose context holds only silent values. -/
def Setting.Silent (asks : Bool) (setting : Setting) : Prop := entriesSilent asks setting.context

namespace Scope

variable {scope : Scope}

theorem Silent.cons {frame : Frame} (hframe : frame.Silent asks) (h : scope.Silent asks) :
    Scope.Silent asks (frame :: scope) :=
  List.forall_mem_cons.2 ⟨hframe, h⟩

theorem Silent.of_frameAt? (h : scope.Silent asks) {place : Nat} {frame : Frame}
    (hframe : scope.frameAt? place = some frame) : frame.Silent asks := by
  unfold frameAt? at hframe
  split at hframe
  · exact h frame (List.mem_of_getElem? hframe)
  · cases hframe

theorem Silent.present (h : scope.Silent asks) (frame : Frame) {v : Value} (hv : v.silent asks) :
    (scope.present frame v).silent asks := by
  unfold Scope.present
  split
  · refine silent_refreshed (fun home w hw => ?_) hv
    obtain ⟨other, hother, hround⟩ := Option.bind_eq_some_iff.1 hw
    exact (h.of_frameAt? hother).round w hround
  · exact hv

theorem Silent.of_remembered? (h : scope.Silent asks) {name : String} {home : Option Nat}
    {v : Value} (hv : scope.remembered? name home = some v) : v.silent asks := by
  unfold remembered? at hv
  split at hv
  · cases hv
  · split at hv
    · cases hv
    · rename_i frame hframe
      obtain ⟨w, hw, rfl⟩ := Option.map_eq_some_iff.1 hv
      obtain ⟨kept, hkept, hfound⟩ := Option.bind_eq_some_iff.1 hw
      exact h.present frame (silent_of_findEntry ((h.of_frameAt? hframe).kept kept hkept) hfound)

theorem Silent.of_search? (h : scope.Silent asks) {name : String} {v : Value} {frames : List Frame}
    (hframes : Scope.Silent asks frames) (hv : search? scope name frames = some v) :
    v.silent asks := by
  induction frames with
  | nil => cases hv
  | cons frame outer ih =>
    obtain ⟨hframe, houter⟩ := List.forall_mem_cons.1 hframes
    rw [search?] at hv
    split at hv
    · rename_i w hw
      cases hv
      refine h.present frame ?_
      unfold Frame.find? at hw
      split at hw
      · rename_i found hfound
        cases hw
        exact silent_of_findEntry hframe.names hfound
      · split at hw
        · exact hframe.round w hw
        · cases hw
    · split at hv
      · exact ih houter hv
      · exact h.of_remembered? hv

end Scope

theorem Function.name_of_ofName? {name : String} {f : Function} (h : ofName? name = some f) :
    f.name = name := by
  simpa using List.find?_some h

/-- A name that may be read has a silent value. -/
theorem silent_of_lookup? {setting : Setting} (hsetting : setting.Silent asks) {scope : Scope}
    (hscope : scope.Silent asks) {name : String} (hname : quiet asks [name]) {v : Value}
    (hv : lookup? setting scope name = some v) : v.silent asks := by
  unfold lookup? at hv
  split at hv
  · rename_i w hw
    cases hv
    exact hscope.of_search? hscope hw
  · split at hv
    · rename_i w hw
      cases hv
      exact silent_of_findEntry hsetting hw
    · obtain ⟨f, hf, rfl⟩ := Option.map_eq_some_iff.1 hv
      obtain rfl := Function.name_of_ofName? hf
      cases f <;> exact hname

/-! ## Bindings -/

namespace Frame

variable {frame : Frame}

theorem silent_true (frame : Frame) : frame.Silent true :=
  ⟨entriesSilent_true _, fun _ _ => entriesSilent_true _, fun v _ => v.silent_true⟩

theorem silent_opened (origin : Origin) : (opened origin).Silent asks := ⟨rfl, nofun, nofun⟩

theorem Silent.bind (h : frame.Silent asks) (name : String) {v : Value} (hv : v.silent asks) :
    (frame.bind name v).Silent asks where
  names := by
    rw [Frame.bind, Names.bind, entriesSilent, hv, h.names]
    rfl
  kept kept hkept := by
    obtain ⟨before, hbefore, rfl⟩ := Option.map_eq_some_iff.1 hkept
    rw [Names.bind, entriesSilent, hv, h.kept before hbefore]
    rfl
  round := h.round

theorem Silent.keep {setting : Setting} (hsetting : setting.Silent asks) {outer : Scope}
    (houter : outer.Silent asks) (h : frame.Silent asks) {name : String}
    (hname : quiet asks [name]) : (Frame.keep setting outer frame name).Silent asks := by
  have hkept : entriesSilent asks (frame.kept.getD []) := by
    cases hframe : frame.kept with
    | none => rfl
    | some kept => exact h.kept kept hframe
  have hv : ((lookup? setting (frame :: outer) name).getD .undefined).silent asks :=
    silent_getD fun _ => silent_of_lookup? hsetting (.cons h houter) hname
  unfold Frame.keep
  dsimp only
  split
  · refine ⟨h.names, ?_, h.round⟩
    rintro _ ⟨⟩
    exact hkept
  · refine ⟨h.names, ?_, h.round⟩
    rintro _ ⟨⟩
    rw [Names.bind, entriesSilent, hv, hkept]
    rfl

theorem Silent.define {setting : Setting} (hsetting : setting.Silent asks) {outer : Scope}
    (houter : outer.Silent asks) (h : frame.Silent asks) (name : String)
    {parameters : List Parameter} {body : List Stmt}
    (hnames : quiet asks (namesOfDefaults parameters ++ readsOfStmts body)) :
    (frame.define setting outer name parameters body).Silent asks := by
  have hprepared : ((captures parameters body).foldl (Frame.keep setting outer) frame).Silent
      asks := by
    refine List.foldlRecOn _ _ h fun prepared hprepared name hname => ?_
    refine hprepared.keep hsetting houter (quiet_of_subset ?_ hnames)
    exact List.cons_subset.2 ⟨captures_subset parameters body hname, List.nil_subset _⟩
  unfold Frame.define
  exact hprepared.bind name hnames

end Frame

mutual

theorem silent_of_bindTarget : ∀ {target : Target} {frame next : Frame} {v : Value},
    frame.Silent asks → v.silent asks → bindTarget frame v target = .ok next → next.Silent asks
  | .name n, frame, next, v, hframe, hv, h => by
    rw [bindTarget] at h
    cases h
    exact hframe.bind n hv
  | .tuple items, frame, next, v, hframe, hv, h => by
    rw [bindTarget] at h
    split at h
    · cases h
    · rename_i values hvalues
      split at h
      · exact silent_of_bindTargets hframe (itemsSilent_of_parts? hv hvalues) h
      · cases h
  | .member subject name, frame, next, v, hframe, hv, h => by
    rw [bindTarget] at h
    cases h

theorem silent_of_bindTargets :
    ∀ {targets : List Target} {frame next : Frame} {values : List Value},
      frame.Silent asks → itemsSilent asks values → bindTargets frame values targets = .ok next →
      next.Silent asks
  | [], frame, next, values, hframe, hvalues, h => by
    rw [bindTargets] at h
    cases h
    exact hframe
  | target :: rest, frame, next, values, hframe, hvalues, h => by
    rw [bindTargets] at h
    rw [itemsSilent_iff] at hvalues
    split at h
    · cases h
    · rename_i middle hmiddle
      have hhead : (values.head?.getD .undefined).silent asks :=
        silent_getD fun v hv => hvalues v (List.mem_of_head? hv)
      have htail : itemsSilent asks values.tail :=
        itemsSilent_iff.2 fun v hv => hvalues v (List.mem_of_mem_tail hv)
      exact silent_of_bindTargets (silent_of_bindTarget hframe hhead hmiddle) htail h

end

theorem silent_callFrame (r : Routine) {named : Names} (h : entriesSilent asks named) :
    (callFrame r named).Silent asks := by
  have hopened : (Frame.opened (.call r.home)).Silent asks := Frame.silent_opened _
  unfold callFrame
  dsimp only
  split
  · exact hopened.bind _ (silent_getD fun _ => silent_of_findEntry h)
  · exact hopened

theorem silent_of_pairArguments {named : Names} (hnamed : entriesSilent asks named) :
    ∀ {parameters : List Parameter} {placed : List Value} {paired : List (Parameter × Value)},
      (∀ v ∈ placed, v.silent asks) → pairArguments named parameters placed = .ok paired →
      (∀ pair ∈ paired, pair.2.silent asks) ∧ paired.map Prod.fst = parameters
  | [], [], paired, _, h => by
    rw [pairArguments] at h
    cases h
    exact ⟨nofun, rfl⟩
  | [], _ :: _, paired, _, h => by
    rw [pairArguments] at h
    cases h
  | p :: ps, [], paired, hplaced, h => by
    rw [pairArguments] at h
    split at h
    · cases h
    · rename_i rest hrest
      cases h
      obtain ⟨hsilent, hfst⟩ := silent_of_pairArguments hnamed hplaced hrest
      refine ⟨List.forall_mem_cons.2 ⟨?_, hsilent⟩, congrArg (p :: ·) hfst⟩
      exact silent_getD fun _ => silent_of_findEntry hnamed
  | p :: ps, v :: vs, paired, hplaced, h => by
    rw [pairArguments] at h
    obtain ⟨hv, hvs⟩ := List.forall_mem_cons.1 hplaced
    split at h
    · cases h
    · split at h
      · cases h
      · rename_i rest hrest
        cases h
        obtain ⟨hsilent, hfst⟩ := silent_of_pairArguments hnamed hvs hrest
        exact ⟨List.forall_mem_cons.2 ⟨hv, hsilent⟩, congrArg (p :: ·) hfst⟩

end ApiStubs.Template
