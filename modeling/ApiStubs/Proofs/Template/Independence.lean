import ApiStubs.Data.Alike
import ApiStubs.Proofs.Template.Silence

/-!
# What rendering does not depend on

A template that does not ask which templates are held is rendered to the same text whatever they
are, and no template is rendered otherwise with more fuel for its macros.

Both are read off from one comparison.  Two evaluations go side by side over the same tree, in the
same scope; they may differ in the templates held, unless these may be asked for, and in how macros
are run, as long as the two ways agree on calls from the present depth on.  Then they fail with the
same fault or come to the same silent result.  A call of a macro goes deeper, so ways to run macros
agree by induction on their fuel.
-/

namespace ApiStubs.Template

open Value

variable {asks : Bool}

/-! ## Two evaluations -/

/-- Ways to run macros that agree from a depth on. -/
def Invoke.Alike (asks : Bool) (depth : Nat) (invoke other : Invoke) : Prop :=
  ∀ ⦃d scope r arguments⦄, depth ≤ d → Scope.Silent asks scope → Routine.quiet asks r →
    (∀ v ∈ arguments, Value.silent asks v) →
    ApiStubs.Alike (fun v => v.silent asks) (invoke d scope r arguments)
      (other d scope r arguments)

/-- The setting with other templates held. -/
def Setting.among (setting : Setting) (held : List String) : Setting :=
  { setting with held := held }

/-- Two evaluations of one setting, the second one among other templates, unless they may be asked
for, and with another way to run macros. -/
structure Peers (asks : Bool) (setting : Setting) (held : List String) (invoke other : Invoke) :
    Prop where
  held : asks = true → held = setting.held
  context : setting.Silent asks
  invoke : Invoke.Alike asks setting.depth invoke other

section

variable {setting : Setting} {held : List String} {invoke other : Invoke} {scope : Scope}
  (h : Peers asks setting held invoke other) (hscope : scope.Silent asks)

include h hscope

/-! ## Calls -/

theorem alike_callValue {callee : Value} (hcallee : callee.silent asks) {arguments : List Value}
    (harguments : ∀ v ∈ arguments, v.silent asks) :
    Alike (fun v => v.silent asks) (callValue setting invoke scope callee arguments)
      (callValue (setting.among held) other scope callee arguments) := by
  cases callee with
  | function f =>
    unfold callValue
    dsimp only
    split
    · rename_i hasks
      obtain ⟨hf, -⟩ := Bool.and_eq_true_iff.1 hasks
      obtain rfl : f = .debug := of_decide_eq_true hf
      have hsame : held = setting.held := h.held (by simpa [silent] using hcallee)
      rw [hsame]
      exact .pure rfl
    · exact .refl fun happly => silent_of_apply harguments happly
  | routine r => exact h.invoke (Nat.le_refl _) hscope hcallee harguments
  | _ => exact .error _

theorem alike_callName {name : String} (hname : quiet asks [name]) {arguments : List Value}
    (harguments : ∀ v ∈ arguments, v.silent asks) :
    Alike (fun v => v.silent asks) (callName setting invoke scope name arguments)
      (callName (setting.among held) other scope name arguments) := by
  unfold callName
  split
  · exact .error _
  · have hsame : lookup? (setting.among held) scope name = lookup? setting scope name := rfl
    rw [hsame]
    split
    · rename_i v hv
      exact alike_callValue h hscope (silent_of_lookup? h.context hscope hname hv) harguments
    · exact .error _

theorem alike_callMember {subject : Value} (hsubject : subject.silent asks) (name : String)
    {arguments : List Value} (harguments : ∀ v ∈ arguments, v.silent asks) :
    Alike (fun v => v.silent asks) (callMember setting invoke scope subject name arguments)
      (callMember (setting.among held) other scope subject name arguments) := by
  unfold callMember
  split
  · split
    · split
      · rename_i v hv
        exact .pure (harguments v (List.mem_of_getElem? hv))
      · exact .error _
    · exact .error _
  · have hmember := silent_member hsubject name
    split
    · exact .error _
    · exact alike_callValue h hscope hmember harguments

end

/-! ## Expressions -/

section

variable {setting : Setting} {held : List String} {invoke other : Invoke} {scope : Scope}

mutual

/-- An expression that may be read has the same silent value in both evaluations. -/
theorem alike_evalExpr (h : Peers asks setting held invoke other) (hscope : scope.Silent asks) :
    ∀ {e : Expr}, quiet asks e.names →
      Alike (fun v => v.silent asks) (evalExpr setting invoke scope e)
        (evalExpr (setting.among held) other scope e)
  | .literal l, _ => by
    rw [evalExpr, evalExpr]
    exact .pure l.silent_value
  | .name n, hnames => by
    rw [evalExpr_name, evalExpr_name]
    rw [Expr.names] at hnames
    exact .pure (silent_getD fun _ => silent_of_lookup? h.context hscope hnames)
  | .list items, hnames => by
    rw [evalExpr, evalExpr]
    rw [Expr.names] at hnames
    exact (alike_evalExprs h hscope hnames).elim .error fun values hvalues => .pure hvalues
  | .member subject name, hnames => by
    rw [evalExpr, evalExpr]
    rw [Expr.names] at hnames
    refine (alike_evalExpr h hscope hnames).elim .error fun v hv => ?_
    dsimp only
    split
    · exact .error _
    · exact .pure (silent_member hv name)
  | .item subject index, hnames => by
    rw [evalExpr, evalExpr]
    rw [Expr.names, quiet_append] at hnames
    refine (alike_evalExpr h hscope hnames.1).elim .error fun v hv => ?_
    refine (alike_evalExpr h hscope hnames.2).elim .error fun i hi => ?_
    dsimp only
    split
    · exact .error _
    · exact .pure (silent_item hv i)
  | .negate operand, hnames => by
    rw [evalExpr, evalExpr]
    rw [Expr.names] at hnames
    refine (alike_evalExpr h hscope hnames).elim .error fun v hv => ?_
    refine .refl fun hnegated => ?_
    dsimp only [negateValue] at hnegated
    split at hnegated
    · rename_i n hn
      cases hnegated
      exact silent_of_negate? hn
    · cases hnegated
  | .not operand, hnames => by
    rw [evalExpr, evalExpr]
    rw [Expr.names] at hnames
    refine (alike_evalExpr h hscope hnames).elim .error fun v hv => ?_
    dsimp only
    split
    · exact .error _
    · exact .pure rfl
  | .and left right, hnames => by
    rw [evalExpr, evalExpr]
    rw [Expr.names, quiet_append] at hnames
    split
    · rename_i b a hb ha
      exact .pure (silent_constantAnd (silent_of_constant? hb))
    · refine (alike_evalExpr h hscope hnames.1).elim .error fun v hv => ?_
      dsimp only
      split
      · exact .error _
      · exact alike_evalExpr h hscope hnames.2
      · exact .pure hv
  | .or left right, hnames => by
    rw [evalExpr, evalExpr]
    rw [Expr.names, quiet_append] at hnames
    refine (alike_evalExpr h hscope hnames.1).elim .error fun v hv => ?_
    dsimp only
    split
    · exact .error _
    · exact .pure hv
    · exact alike_evalExpr h hscope hnames.2
  | .add left right, hnames => by
    rw [evalExpr, evalExpr]
    rw [Expr.names, quiet_append] at hnames
    refine (alike_evalExpr h hscope hnames.1).elim .error fun a ha => ?_
    refine (alike_evalExpr h hscope hnames.2).elim .error fun b hb => ?_
    refine .refl fun hsum => ?_
    dsimp only [addValues] at hsum
    split at hsum
    · rename_i v hv
      cases hsum
      exact silent_of_add? ha hb hv
    · cases hsum
  | .compare first links, hnames => by
    rw [evalExpr, evalExpr]
    rw [Expr.names, quiet_append] at hnames
    exact (alike_evalExpr h hscope hnames.1).elim .error fun v _ =>
      alike_evalLinks h hscope hnames.2 v
  | .filter subject name arguments, hnames => by
    rw [evalExpr, evalExpr]
    rw [Expr.names, quiet_append] at hnames
    refine (alike_evalExpr h hscope hnames.1).elim .error fun v _ => ?_
    refine (alike_evalExprs h hscope hnames.2).elim .error fun values _ => ?_
    exact .refl silent_of_applyFilter
  | .test subject name arguments, hnames => by
    rw [evalExpr, evalExpr]
    rw [Expr.names, quiet_append] at hnames
    refine (alike_evalExpr h hscope hnames.1).elim .error fun v _ => ?_
    refine (alike_evalExprs h hscope hnames.2).elim .error fun values _ => ?_
    exact .refl silent_of_applyTest
  | .call callee arguments, hnames => by
    rw [Expr.names, quiet_append] at hnames
    obtain ⟨hcallee, hnames⟩ := hnames
    by_cases hplain : (∀ n, callee ≠ .name n) ∧ ∀ subject n, callee ≠ .member subject n
    · rw [evalExpr, evalExpr]
      · refine (alike_evalExpr h hscope hcallee).elim .error fun v hv => ?_
        exact (alike_evalExprs h hscope hnames).elim .error fun values hvalues =>
          alike_callValue h hscope hv (itemsSilent_iff.1 hvalues)
      all_goals first | exact hplain.1 | exact hplain.2 | exact hplain.2 _
    · cases callee with
      | name n =>
        rw [evalExpr, evalExpr]
        rw [Expr.names] at hcallee
        exact (alike_evalExprs h hscope hnames).elim .error fun values hvalues =>
          alike_callName h hscope hcallee (itemsSilent_iff.1 hvalues)
      | member subject n =>
        rw [Expr.names] at hcallee
        by_cases hself : subject = .name "self"
        · rw [hself, evalExpr, evalExpr]
          exact .error _
        · rw [evalExpr, evalExpr]
          · refine (alike_evalExpr h hscope hcallee).elim .error fun v hv => ?_
            exact (alike_evalExprs h hscope hnames).elim .error fun values hvalues =>
              alike_callMember h hscope hv n (itemsSilent_iff.1 hvalues)
          all_goals simpa using hself
      | _ => simp at hplain
  | .named entries, hnames => by
    rw [evalExpr, evalExpr]
    rw [Expr.names] at hnames
    exact (alike_evalEntries h hscope hnames rfl).elim .error fun values hvalues => .pure hvalues

theorem alike_evalExprs (h : Peers asks setting held invoke other) (hscope : scope.Silent asks) :
    ∀ {items : List Expr}, quiet asks (namesOfExprs items) →
      Alike (fun values => itemsSilent asks values) (evalExprs setting invoke scope items)
        (evalExprs (setting.among held) other scope items)
  | [], _ => by
    rw [evalExprs, evalExprs]
    exact .pure rfl
  | e :: rest, hnames => by
    rw [evalExprs, evalExprs]
    rw [namesOfExprs, quiet_append] at hnames
    refine (alike_evalExpr h hscope hnames.1).elim .error fun v hv => ?_
    refine (alike_evalExprs h hscope hnames.2).elim .error fun values hvalues => .pure ?_
    rw [itemsSilent, hv, hvalues]
    rfl

theorem alike_evalLinks (h : Peers asks setting held invoke other) (hscope : scope.Silent asks) :
    ∀ {links : List (Comparison × Expr)}, quiet asks (namesOfLinks links) → ∀ left : Value,
      Alike (fun v => v.silent asks) (evalLinks setting invoke scope left links)
        (evalLinks (setting.among held) other scope left links)
  | [], _, left => by
    rw [evalLinks, evalLinks]
    exact .pure rfl
  | (op, e) :: rest, hnames, left => by
    rw [evalLinks, evalLinks]
    rw [namesOfLinks, quiet_append] at hnames
    refine (alike_evalExpr h hscope hnames.1).elim .error fun right _ => ?_
    dsimp only
    split
    · exact .error _
    · exact .pure rfl
    · exact alike_evalLinks h hscope hnames.2 right

theorem alike_evalEntries (h : Peers asks setting held invoke other) (hscope : scope.Silent asks) :
    ∀ {entries : List (String × Expr)}, quiet asks (namesOfEntries entries) →
      ∀ {done : Names}, entriesSilent asks done →
        Alike (fun values => entriesSilent asks values)
          (evalEntries setting invoke scope done entries)
          (evalEntries (setting.among held) other scope done entries)
  | [], _, done, hdone => by
    rw [evalEntries, evalEntries]
    exact .pure hdone
  | (name, e) :: rest, hnames, done, hdone => by
    rw [evalEntries, evalEntries]
    rw [namesOfEntries, quiet_append] at hnames
    exact (alike_evalExpr h hscope hnames.1).elim .error fun v hv =>
      alike_evalEntries h hscope hnames.2 (entriesSilent_insertEntry hv hdone)

end

/-! ## Statements -/

theorem alike_runFilters (h : Peers asks setting held invoke other) (hscope : scope.Silent asks)
    {filters : List (String × List Expr)}
    (hnames : quiet asks (filters.flatMap fun f => namesOfExprs f.2)) {subject : Value}
    (hsubject : subject.silent asks) :
    Alike (fun v => v.silent asks) (runFilters setting invoke scope subject filters)
      (runFilters (setting.among held) other scope subject filters) := by
  induction filters generalizing subject with
  | nil => exact .pure hsubject
  | cons f rest ih =>
    obtain ⟨name, arguments⟩ := f
    rw [List.flatMap_cons, quiet_append] at hnames
    rw [runFilters, runFilters]
    refine (alike_evalExprs h hscope hnames.1).elim .error fun values _ => ?_
    have hsame : (setting.among held).language = setting.language := rfl
    dsimp only
    rw [hsame]
    split
    · exact .error _
    · rename_i v hv
      exact ih hnames.2 (silent_of_applyFilter hv)

theorem names_of_restartArguments? {e : Expr} {arguments : List Expr}
    (h : restartArguments? e = some arguments) : namesOfExprs arguments ⊆ e.names := by
  unfold restartArguments? at h
  split at h
  · cases h
    simp [Expr.names, namesOfExprs]
  · cases h
  · cases h
    simp [Expr.names, namesOfExprs]
  · cases h

theorem alike_printExpr (h : Peers asks setting held invoke other) (hscope : scope.Silent asks)
    {value : Expr} (hnames : quiet asks value.names) :
    Alike (fun _ => True) (printExpr setting invoke scope value)
      (printExpr (setting.among held) other scope value) := by
  unfold printExpr
  split
  · rename_i arguments harguments
    have hquiet := quiet_of_subset (names_of_restartArguments? harguments) hnames
    exact (alike_evalExprs h hscope hquiet).elim .error fun _ _ => .error _
  · exact (alike_evalExpr h hscope hnames).elim .error fun v _ => .refl fun _ => trivial

/-- Rounds of a loop are alike if its body is. -/
theorem alike_runRounds {target : Target} {home : Nat} {length : Option Nat}
    {body twin : Frame → Except Fault (Frame × String)}
    (hbody : ∀ frame, frame.Silent asks →
      Alike (fun result => result.1.Silent asks) (body frame) (twin frame))
    {items : List Value} (hitems : itemsSilent asks items) {index : Nat} {frame : Frame}
    (hframe : frame.Silent asks) {previous : Value} (hprevious : previous.silent asks) :
    Alike (fun _ => True) (runRounds target home length body index frame previous items)
      (runRounds target home length twin index frame previous items) := by
  induction items generalizing index frame previous with
  | nil => exact .pure trivial
  | cons v rest ih =>
    rw [itemsSilent, Bool.and_eq_true] at hitems
    obtain ⟨hv, hrest⟩ := hitems
    have hnext : (rest.head?.getD .undefined).silent asks :=
      silent_getD fun w hw => itemsSilent_iff.1 hrest w (List.mem_of_head? hw)
    let round := Value.round home index length previous (rest.head?.getD .undefined)
    have hround : round.silent asks := by
      rw [silent, hprevious, hnext]
      rfl
    have hcleared : Frame.Silent asks { frame with names := [], round := some round } :=
      ⟨rfl, hframe.kept, fun w hw => Option.mem_some.1 hw ▸ hround⟩
    rw [runRounds, runRounds]
    split
    · exact .error _
    · rename_i entered hentered
      refine (hbody entered (silent_of_bindTarget hcleared hv hentered)).elim .error ?_
      rintro ⟨left, written⟩ hleft
      dsimp only
      exact (ih hrest hleft hv).elim .error fun more _ => .pure trivial

theorem Peers.inLoop (h : Peers asks setting held invoke other) :
    Peers asks { setting with depth := setting.depth + 1 } held invoke other :=
  ⟨h.held, h.context, fun _ _ _ _ hdepth => h.invoke (Nat.le_of_succ_le hdepth)⟩

mutual

/-- A statement that may be run leaves the same silent frame and writes the same. -/
theorem alike_runStmt {setting : Setting} (h : Peers asks setting held invoke other)
    {scope : Scope} (hscope : scope.Silent asks) {frame : Frame} (hframe : frame.Silent asks) :
    ∀ {stmt : Stmt}, quiet asks stmt.reads →
      Alike (fun result => result.1.Silent asks) (runStmt setting invoke frame scope stmt)
        (runStmt (setting.among held) other frame scope stmt)
  | .text content, _ => by
    rw [runStmt_text, runStmt_text]
    exact .pure hframe
  | .print value, hnames => by
    rw [runStmt, runStmt]
    rw [Stmt.reads] at hnames
    exact (alike_printExpr h (.cons hframe hscope) hnames).elim .error fun _ _ => .pure hframe
  | .branch condition yes no, hnames => by
    rw [runStmt, runStmt]
    rw [Stmt.reads, quiet_append, quiet_append] at hnames
    obtain ⟨hcondition, hyes, hno⟩ := hnames
    refine (alike_evalExpr h (.cons hframe hscope) hcondition).elim .error fun v _ => ?_
    dsimp only
    split
    · exact .error _
    · exact alike_runStmts h hscope hframe hyes
    · exact alike_runStmts h hscope hframe hno
  | .loop target source body alternative, hnames => by
    rw [runStmt, runStmt]
    rw [Stmt.reads, quiet_append, quiet_append] at hnames
    obtain ⟨hsource, hbody, halternative⟩ := hnames
    refine (alike_evalExpr h (.cons hframe hscope) hsource).elim .error fun v hv => ?_
    dsimp only
    split
    · exact .error _
    · split
      · exact .error _
      · rename_i items hitems
        have hdepth : (setting.among held).depth = setting.depth := rfl
        rw [hdepth]
        split
        · exact .error _
        · split
          · exact alike_runStmts h hscope hframe halternative
          · have hinside (inside : Frame) (hinside : inside.Silent asks) :=
              alike_runStmts h.inLoop (Scope.Silent.cons hframe hscope) hinside hbody
            exact (alike_runRounds hinside (itemsSilent_of_items? hv hitems)
              (Frame.silent_opened .inner) rfl).elim .error fun _ _ => .pure hframe
  | .assign target value, hnames => by
    rw [runStmt, runStmt]
    rw [Stmt.reads] at hnames
    refine (alike_evalExpr h (.cons hframe hscope) hnames).elim .error fun v hv => ?_
    dsimp only
    split
    · exact .error _
    · rename_i next hnext
      exact .pure (silent_of_bindTarget hframe hv hnext)
  | .capture target filters body, hnames => by
    rw [runStmt, runStmt]
    rw [Stmt.reads, quiet_append] at hnames
    refine (alike_runStmts h hscope hframe hnames.2).elim .error ?_
    rintro ⟨next, written⟩ hnext
    dsimp only
    refine (alike_runFilters h (.cons hnext hscope) hnames.1 rfl).elim .error fun v hv => ?_
    dsimp only
    split
    · exact .error _
    · rename_i last hlast
      exact .pure (silent_of_bindTarget hnext hv hlast)
  | .define name parameters body, hnames => by
    rw [runStmt, runStmt]
    rw [Stmt.reads] at hnames
    exact .pure (hframe.define h.context hscope name hnames)

theorem alike_runStmts {setting : Setting} (h : Peers asks setting held invoke other)
    {scope : Scope} (hscope : scope.Silent asks) {frame : Frame} (hframe : frame.Silent asks) :
    ∀ {stmts : List Stmt}, quiet asks (readsOfStmts stmts) →
      Alike (fun result => result.1.Silent asks) (runStmts setting invoke frame scope stmts)
        (runStmts (setting.among held) other frame scope stmts)
  | [], _ => by
    rw [runStmts_nil, runStmts_nil]
    exact .pure hframe
  | stmt :: rest, hnames => by
    rw [runStmts, runStmts]
    rw [readsOfStmts, quiet_append] at hnames
    refine (alike_runStmt h hscope hframe hnames.1).elim .error ?_
    rintro ⟨next, written⟩ hnext
    dsimp only
    refine (alike_runStmts h hscope hnext hnames.2).elim .error ?_
    rintro ⟨last, more⟩ hlast
    exact .pure hlast

end

theorem alike_bindParameters (h : Peers asks setting held invoke other)
    (hscope : scope.Silent asks) {frame : Frame} (hframe : frame.Silent asks)
    {paired : List (Parameter × Value)} (hpaired : ∀ pair ∈ paired, pair.2.silent asks)
    (hnames : quiet asks (namesOfDefaults (paired.map Prod.fst))) :
    Alike (fun next => next.Silent asks) (bindParameters setting invoke frame scope paired)
      (bindParameters (setting.among held) other frame scope paired) := by
  induction paired with
  | nil => exact .pure hframe
  | cons pair rest ih =>
    obtain ⟨p, v⟩ := pair
    obtain ⟨hv, hrest⟩ := List.forall_mem_cons.1 hpaired
    rw [List.map_cons, namesOfDefaults, quiet_append] at hnames
    rw [bindParameters, bindParameters]
    refine (ih hrest hnames.2).elim .error fun later hlater => ?_
    dsimp only
    split
    · rename_i e hdefault
      rw [hdefault] at hnames
      refine (alike_evalExpr h (.cons hlater hscope) hnames.1).elim .error fun w hw => ?_
      exact .pure (hlater.bind p.name hw)
    · exact .pure (hlater.bind p.name hv)

end

/-! ## Macros -/

/-- Fuel that calls from a depth on do not use up: they are too deep before. -/
def Suffices (depth fuel : Nat) : Prop := 0 < fuel ∧ depthLimit < depth + callDepth * fuel

theorem Suffices.inCall {depth fuel d : Nat} (h : Suffices depth (fuel + 1)) (hd : depth ≤ d)
    (hlimit : ¬ depthLimit < d + callDepth) : Suffices (d + callDepth) fuel := by
  obtain ⟨-, h⟩ := h
  rw [Nat.mul_succ] at h
  refine ⟨Nat.pos_of_ne_zero ?_, by omega⟩
  rintro rfl
  omega

/-- Macros run alike with the same fuel, and with any fuel that suffices. -/
theorem alike_invokeMacro {setting : Setting} {held : List String}
    (hheld : asks = true → held = setting.held) (hcontext : setting.Silent asks)
    {depth fuel fuel' : Nat}
    (hfuel : fuel = fuel' ∨ Suffices depth fuel ∧ Suffices depth fuel') :
    Invoke.Alike asks depth (invokeMacro setting fuel)
      (invokeMacro (setting.among held) fuel') := by
  induction fuel generalizing depth fuel' with
  | zero =>
    rcases hfuel with rfl | ⟨⟨hpos, -⟩, -⟩
    · exact fun _ _ _ _ _ _ _ _ => .error _
    · cases hpos
  | succ fuel ih =>
    cases fuel' with
    | zero =>
      rcases hfuel with hfuel | ⟨-, hpos, -⟩
      · cases hfuel
      · cases hpos
    | succ fuel' =>
      intro d scope r arguments hdepth hscope hr harguments
      obtain ⟨hplaced, hnamed⟩ := silent_splitArguments harguments
      rw [Routine.quiet, quiet_append] at hr
      rw [invokeMacro, invokeMacro]
      dsimp only
      split
      · exact .error _
      · rename_i paired hpaired
        split
        · exact .error _
        · split
          · exact .error _
          · rename_i hlimit
            obtain ⟨hsilent, hparameters⟩ := silent_of_pairArguments hnamed hplaced hpaired
            have hinner : Invoke.Alike asks (d + callDepth) (invokeMacro setting fuel)
                (invokeMacro (setting.among held) fuel') := by
              refine ih (hfuel.imp Nat.succ.inj fun hboth => ?_)
              exact ⟨hboth.1.inCall hdepth hlimit, hboth.2.inCall hdepth hlimit⟩
            have hpeers : Peers asks { setting with depth := d + callDepth } held
                (invokeMacro setting fuel) (invokeMacro (setting.among held) fuel') :=
              ⟨hheld, hcontext, hinner⟩
            refine (alike_bindParameters hpeers hscope (silent_callFrame r hnamed) hsilent
              (hparameters ▸ hr.1)).elim .error fun frame hframe => ?_
            dsimp only
            refine (alike_runStmts hpeers hscope hframe hr.2).elim .error ?_
            rintro ⟨last, written⟩ -
            exact .pure rfl

/-! ## Rendering -/

/-- A template that does not name `debug`, rendered against a context in which nothing asks, writes
the same whatever templates are held. -/
theorem render_held_irrelevant {stmts : List Stmt}
    (hstmts : Function.debug.name ∉ readsOfStmts stmts) {context : Names}
    (hcontext : entriesSilent false context) (language : Language) (name : String)
    (held other : List String) :
    render language name held context stmts = render language name other context stmts := by
  have hquiet : quiet false (readsOfStmts stmts) := by simpa [quiet] using hstmts
  have hnone : Scope.Silent false [] := nofun
  let setting : Setting := ⟨language, name, held, context, 1⟩
  have hsilent : setting.Silent false := hcontext
  let macros : Invoke := invokeMacro setting (depthLimit / callDepth + 1)
  let twins : Invoke := invokeMacro (setting.among other) (depthLimit / callDepth + 1)
  have hmacros : Invoke.Alike false 1 macros twins :=
    alike_invokeMacro (by simp) hsilent (.inl rfl)
  have hpeers : Peers false setting other macros twins := ⟨by simp, hsilent, hmacros⟩
  have heq : runStmts setting macros (Frame.opened .inner) [] stmts =
      runStmts (setting.among other) twins (Frame.opened .inner) [] stmts :=
    (alike_runStmts hpeers hnone (Frame.silent_opened .inner) hquiet).eq
  unfold render
  dsimp only
  rw [heq]
  rfl

/-- More fuel than `render` gives makes no difference, whatever the template. -/
theorem runStmts_fuel_irrelevant {setting : Setting} (hdepth : 1 ≤ setting.depth) {fuel : Nat}
    (hfuel : depthLimit / callDepth + 1 ≤ fuel) (frame : Frame) (scope : Scope)
    (stmts : List Stmt) :
    runStmts setting (invokeMacro setting (depthLimit / callDepth + 1)) frame scope stmts =
      runStmts setting (invokeMacro setting fuel) frame scope stmts := by
  have hsuffices {n : Nat} (hn : depthLimit / callDepth + 1 ≤ n) : Suffices setting.depth n := by
    unfold Suffices depthLimit callDepth at *
    omega
  have hpeers : Peers true setting setting.held
      (invokeMacro setting (depthLimit / callDepth + 1)) (invokeMacro setting fuel) :=
    ⟨fun _ => rfl, entriesSilent_true _, alike_invokeMacro (fun _ => rfl) (entriesSilent_true _)
      (.inr ⟨hsuffices (Nat.le_refl _), hsuffices hfuel⟩)⟩
  exact (alike_runStmts hpeers (fun frame _ => frame.silent_true) frame.silent_true rfl).eq

end ApiStubs.Template
