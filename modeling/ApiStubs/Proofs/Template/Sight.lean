import ApiStubs.Proofs.Template.Recognition
import ApiStubs.Template.Eval
import Mathlib.Data.List.Forall2

/-!
# Rules for rendering

What a part of a template writes depends on its surroundings only through a few things: what names
stand for, the target language, what macros answer and how many loops may still be opened.  A
`Sight` holds these, and the rules below say what each kind of statement writes wherever a sight
holds.  A rule never mentions frames or scopes, so what a body writes is shown once, wherever the
body stands.
-/

namespace ApiStubs.Template

/-- What a part of a template relies on. -/
structure Sight where
  language : Language
  names : String → Option Value
  /-- what calls of macros answer -/
  answers : Routine → List Value → Value → Prop
  /-- how many loops may still be opened inside each other -/
  room : Nat

/-- What a name stands for where no frame binds it. -/
def Setting.background (setting : Setting) (name : String) : Option Value :=
  (findEntry name setting.context).or ((Function.ofName? name).map .function)

theorem lookup?_eq_or (setting : Setting) (scope : Scope) (name : String) :
    lookup? setting scope name = (scope.search? name scope).or (setting.background name) := by
  unfold lookup? Scope.find? Setting.background
  cases Scope.search? scope name scope <;> cases findEntry name setting.context <;> rfl

/-- The printed form of a value that is defined. -/
def Value.printed? (v : Value) : Option String :=
  if v.isUndefined then Option.none else some v.print

theorem Value.printed?_eq_some {v : Value} {text : String} (h : v.printed? = some text) :
    v.isUndefined = false ∧ v.print = text := by
  unfold Value.printed? at h
  split at h
  · cases h
  · rename_i hdefined
    exact ⟨by simpa using hdefined, Option.some.inj h⟩

namespace Sight

variable {sight : Sight} {setting : Setting} {invoke : Invoke} {frame : Frame} {outer : Scope}

/-- The sight with a name bound. -/
def bind (sight : Sight) (name : String) (v : Value) : Sight :=
  { sight with names := fun n => if name = n then some v else sight.names n }

/-- The sight in a round of a loop. -/
def enter (sight : Sight) (name : String) (v round : Value) : Sight :=
  { sight with
    names := fun n => if name = n then some v else if n = "loop" then some round else sight.names n
    room := sight.room - 1 }

@[simp]
theorem names_bind (name n : String) (v : Value) :
    (sight.bind name v).names n = if name = n then some v else sight.names n := rfl

theorem names_bind_self (name : String) (v : Value) : (sight.bind name v).names name = some v :=
  if_pos rfl

@[simp]
theorem language_bind (name : String) (v : Value) :
    (sight.bind name v).language = sight.language := rfl

@[simp]
theorem answers_bind (name : String) (v : Value) :
    (sight.bind name v).answers = sight.answers := rfl

@[simp]
theorem room_bind (name : String) (v : Value) : (sight.bind name v).room = sight.room := rfl

@[simp]
theorem names_enter (name n : String) (v round : Value) :
    (sight.enter name v round).names n =
      if name = n then some v else if n = "loop" then some round else sight.names n := rfl

theorem names_enter_self (name : String) (v round : Value) :
    (sight.enter name v round).names name = some v := if_pos rfl

theorem names_enter_loop {name : String} (h : name ≠ "loop") (v round : Value) :
    (sight.enter name v round).names "loop" = some round := by simp [h]

@[simp]
theorem language_enter (name : String) (v round : Value) :
    (sight.enter name v round).language = sight.language := rfl

@[simp]
theorem answers_enter (name : String) (v round : Value) :
    (sight.enter name v round).answers = sight.answers := rfl

@[simp]
theorem room_enter (name : String) (v round : Value) :
    (sight.enter name v round).room = sight.room - 1 := rfl

/-- An evaluation in a frame has what a sight relies on.  Names are found whichever scope rounds
would be refreshed from, since no value in sight holds one. -/
structure Holds (sight : Sight) (setting : Setting) (invoke : Invoke) (frame : Frame)
    (outer : Scope) : Prop where
  language : setting.language = sight.language
  names : ∀ whole n,
    (Scope.search? whole n (frame :: outer)).or (setting.background n) = sight.names n
  answers : ∀ ⦃depth scope r arguments v⦄, depth + callDepth ≤ depthLimit →
    sight.answers r arguments v → invoke depth scope r arguments = .ok v
  room : setting.depth + sight.room ≤ depthLimit
  kept : frame.kept = none
  live : frame.live = false

theorem Holds.lookup? (h : sight.Holds setting invoke frame outer) (n : String) :
    lookup? setting (frame :: outer) n = sight.names n := by
  rw [lookup?_eq_or, h.names]

/-- The frame of a round of a loop. -/
def roundFrame (name : String) (v round : Value) : Frame :=
  ⟨.inner, [(name, v)], none, some round, false⟩

theorem find?_roundFrame (name n : String) (v round : Value) :
    (roundFrame name v round).find? n =
      if name = n then some v else if n = "loop" then some round else none := by
  unfold Frame.find? roundFrame
  by_cases hname : name = n <;> simp [findEntry, hname]

/-- A name is looked up in a frame first and then outside. -/
theorem search?_cons_inner (whole : Scope) (n : String) {inside : Frame}
    (hlive : inside.live = false) (horigin : inside.origin = .inner) (scope : Scope) :
    Scope.search? whole n (inside :: scope) =
      (inside.find? n).or (Scope.search? whole n scope) := by
  cases hfind : inside.find? n <;> simp [Scope.search?, Scope.present, hfind, hlive, horigin]

/-- A name that is bound hides what it stood for, and no other name. -/
theorem search?_bind (whole : Scope) (n name : String) {v : Value} (hlive : frame.live = false)
    (hv : v.holdsRound = false) :
    Scope.search? whole n (frame.bind name v :: outer) =
      if name = n then some v else Scope.search? whole n (frame :: outer) := by
  by_cases hname : name = n <;>
    simp [Scope.search?, Scope.present, Frame.find?, Frame.bind, Names.bind, findEntry,
      hname, hlive, hv]

theorem Holds.enter (h : sight.Holds setting invoke frame outer) (hroom : 0 < sight.room)
    (name : String) (v round : Value) :
    (sight.enter name v round).Holds { setting with depth := setting.depth + 1 } invoke
      (roundFrame name v round) (frame :: outer) where
  language := h.language
  names := by
    intro whole n
    have houter : (Scope.search? whole n (frame :: outer)).or (setting.background n) =
        sight.names n :=
      h.names whole n
    rw [search?_cons_inner whole n rfl rfl, find?_roundFrame, Option.or_assoc]
    dsimp only [Sight.enter]
    split
    · rfl
    · split
      · rfl
      · exact houter
  answers := h.answers
  room := by
    have hbound := h.room
    simp only [Sight.enter]
    omega
  kept := rfl
  live := rfl

theorem Holds.bind (h : sight.Holds setting invoke frame outer) {v : Value}
    (hv : v.holdsRound = false) (name : String) :
    (sight.bind name v).Holds setting invoke (frame.bind name v) outer where
  language := h.language
  names := by
    intro whole n
    rw [search?_bind whole n name h.live hv]
    dsimp only [Sight.bind]
    split
    · rfl
    · exact h.names whole n
  answers := h.answers
  room := h.room
  kept := by simp [Frame.bind, h.kept]
  live := by simp [Frame.bind, h.live, hv]

/-! ## Expressions -/

/-- An expression has a value wherever the sight holds. -/
def Gives (sight : Sight) (e : Expr) (v : Value) : Prop :=
  ∀ ⦃setting invoke frame outer⦄, sight.Holds setting invoke frame outer →
    evalExpr setting invoke (frame :: outer) e = .ok v

/-- A condition is defined, and true where a proposition holds. -/
def Decides (sight : Sight) (e : Expr) (p : Prop) : Prop :=
  ∃ v, sight.Gives e v ∧ v.isUndefined = false ∧ (v.isTrue = true ↔ p)

theorem gives_name {n : String} {v : Value} (h : sight.names n = some v) :
    sight.Gives (.name n) v := by
  intro setting invoke frame outer hh
  simp [evalExpr, hh.lookup?, h]

theorem gives_dot {n m : String} {v w : Value} (h : sight.names n = some v)
    (hm : v.member m = w) (hw : w.isUndefined = false) : sight.Gives (.dot n m) w := by
  intro setting invoke frame outer hh
  have hv : v.isUndefined = false := by
    cases v <;> first | rfl | (subst hm; exact hw)
  simp [Expr.dot, evalExpr, hh.lookup?, h, hv, hm]

theorem Decides.of_bool {e : Expr} {b : Bool} {p : Prop} (h : sight.Gives e (.bool b))
    (hb : b = true ↔ p) : sight.Decides e p := ⟨.bool b, h, rfl, hb⟩

theorem Decides.of_iff {e : Expr} {p q : Prop} (h : sight.Decides e p) (hpq : p ↔ q) :
    sight.Decides e q := by
  obtain ⟨v, hv, hdefined, htrue⟩ := h
  exact ⟨v, hv, hdefined, htrue.trans hpq⟩

theorem decides_text {e : Expr} {s : String} (h : sight.Gives e (.text s)) :
    sight.Decides e (s ≠ "") := ⟨.text s, h, rfl, by simp [Value.isTrue]⟩

theorem decides_list {e : Expr} {items : List Value} (h : sight.Gives e (.list items)) :
    sight.Decides e (items ≠ []) := ⟨.list items, h, rfl, by simp [Value.isTrue]⟩

theorem truth_of_defined {v : Value} (h : v.isUndefined = false) : truth v = .ok v.isTrue := by
  simp [truth, h]

theorem Decides.not {e : Expr} {p : Prop} (h : sight.Decides e p) :
    sight.Decides (.not e) (¬p) := by
  obtain ⟨v, hv, hdefined, htrue⟩ := h
  refine Decides.of_bool (b := !v.isTrue) ?_ (by simp [← htrue])
  intro setting invoke frame outer hh
  simp [evalExpr, hv hh, truth_of_defined hdefined]

/-- A conjunction that is not decided beforehand yields the operand that decides it. -/
theorem Decides.and {a b : Expr} {p q : Prop} (hb : b.constant? = none) (h : sight.Decides a p)
    (h' : sight.Decides b q) : sight.Decides (.and a b) (p ∧ q) := by
  obtain ⟨v, hv, hdefined, htrue⟩ := h
  obtain ⟨w, hw, hdefined', htrue'⟩ := h'
  cases hfirst : v.isTrue with
  | true =>
      refine ⟨w, ?_, hdefined', by simp [htrue', ← htrue, hfirst]⟩
      intro setting invoke frame outer hh
      simp [evalExpr, hb, hv hh, hw hh, truth_of_defined hdefined, hfirst]
  | false =>
      refine ⟨v, ?_, hdefined, by simp [← htrue, hfirst]⟩
      intro setting invoke frame outer hh
      simp [evalExpr, hb, hv hh, truth_of_defined hdefined, hfirst]

theorem Decides.or {a b : Expr} {p q : Prop} (h : sight.Decides a p) (h' : sight.Decides b q) :
    sight.Decides (.or a b) (p ∨ q) := by
  obtain ⟨v, hv, hdefined, htrue⟩ := h
  obtain ⟨w, hw, hdefined', htrue'⟩ := h'
  cases hfirst : v.isTrue with
  | true =>
      refine ⟨v, ?_, hdefined, by simp [← htrue, hfirst]⟩
      intro setting invoke frame outer hh
      simp [evalExpr, hv hh, truth_of_defined hdefined, hfirst]
  | false =>
      refine ⟨w, ?_, hdefined', by simp [htrue', ← htrue, hfirst]⟩
      intro setting invoke frame outer hh
      simp [evalExpr, hv hh, hw hh, truth_of_defined hdefined, hfirst]

theorem same_text (a b : String) : (Value.text a).same (.text b) = (a == b) := by
  simp [Value.same, Value.outward, Value.sameOutward]

theorem decides_equal {e : Expr} {s : String} (h : sight.Gives e (.text s)) (t : String) :
    sight.Decides (.compare e [(.equal, .literal (.text t))]) (s = t) := by
  refine Decides.of_bool (b := s == t) ?_ beq_iff_eq
  intro setting invoke frame outer hh
  cases hst : s == t <;>
    simp [evalExpr, evalLinks, h hh, Literal.value, Comparison.holds, equals, Value.isUndefined,
      same_text, hst]

theorem decides_unequal {e : Expr} {s : String} (h : sight.Gives e (.text s)) (t : String) :
    sight.Decides (.compare e [(.unequal, .literal (.text t))]) (s ≠ t) := by
  refine Decides.of_bool (b := s != t) ?_ bne_iff_ne
  intro setting invoke frame outer hh
  cases hst : s == t <;>
    simp [evalExpr, evalLinks, h hh, Literal.value, Comparison.holds, equals, Value.isUndefined,
      same_text, hst, opposite, bne]

/-- A text is looked for among texts. -/
theorem contains_texts (names : List String) (s : String) :
    contains (.list (names.map .text)) (.text s) = .ok (decide (s ∈ names)) := by
  have hany : (names.map Value.text).any (fun item => item.same (.text s)) =
      decide (s ∈ names) := by
    rw [List.any_map]
    simp only [Function.comp_def, same_text, List.any_beq', List.elem_eq_mem]
  simp [contains, Value.isUndefined, Value.containedIn?, hany]

theorem decides_contained {e l : Expr} {s : String} {names : List String}
    (h : sight.Gives e (.text s)) (hl : sight.Gives l (.list (names.map .text))) :
    sight.Decides (.compare e [(.contained, l)]) (s ∈ names) := by
  refine Decides.of_bool (b := decide (s ∈ names)) ?_ decide_eq_true_iff
  intro setting invoke frame outer hh
  by_cases hs : s ∈ names <;>
    simp [evalExpr, evalLinks, h hh, hl hh, Comparison.holds, contains_texts, hs]

theorem decides_notContained {e l : Expr} {s : String} {names : List String}
    (h : sight.Gives e (.text s)) (hl : sight.Gives l (.list (names.map .text))) :
    sight.Decides (.compare e [(.notContained, l)]) (s ∉ names) := by
  refine Decides.of_bool (b := !decide (s ∈ names)) ?_ (by simp)
  intro setting invoke frame outer hh
  by_cases hs : s ∈ names <;>
    simp [evalExpr, evalLinks, h hh, hl hh, Comparison.holds, contains_texts, opposite, hs]

theorem decides_scalar {e : Expr} {s : String} (h : sight.Gives e (.text s)) :
    sight.Decides (.test e "scalar" []) (isScalarName s = true) := by
  refine Decides.of_bool (b := isScalarName s) ?_ Iff.rfl
  intro setting invoke frame outer hh
  simp [evalExpr, evalExprs, h hh, applyTest, textFilter, textArgument, Value.print]

theorem gives_nativeType {e : Expr} {s : String} (h : sight.Gives e (.text s)) :
    sight.Gives (.filter e "target_type" []) (.text (sight.language.nativeType s)) := by
  intro setting invoke frame outer hh
  simp [evalExpr, evalExprs, h hh, applyFilter, textFilter, textArgument, Value.print, hh.language]

theorem gives_capitalize {e : Expr} {s : String} (h : sight.Gives e (.text s)) :
    sight.Gives (.filter e "upper_first" []) (.text (Text.capitalize s)) := by
  intro setting invoke frame outer hh
  simp [evalExpr, evalExprs, h hh, applyFilter, textFilter, textArgument, Value.print]

/-- A call of a function with one argument. -/
theorem gives_function {n : String} {f : Function} {e : Expr} {v w : Value}
    (hn : n ≠ uncallableName) (h : sight.names n = some (.function f)) (he : sight.Gives e v)
    (hw : f.apply [v] = .ok w) :
    sight.Gives (.call (.name n) [e]) w := by
  intro setting invoke frame outer hh
  simp [evalExpr, evalExprs, he hh, callName, hn, hh.lookup?, h, callValue, hw]

/-- A call of a macro with one argument. -/
theorem gives_routine {n : String} {r : Routine} {e : Expr} {v w : Value} (hn : n ≠ uncallableName)
    (h : sight.names n = some (.routine r)) (he : sight.Gives e v) (hw : sight.answers r [v] w)
    (hroom : callDepth ≤ sight.room) : sight.Gives (.call (.name n) [e]) w := by
  intro setting invoke frame outer hh
  have hdepth : setting.depth + callDepth ≤ depthLimit :=
    Nat.le_trans (Nat.add_le_add_left hroom _) hh.room
  simp [evalExpr, evalExprs, he hh, callName, hn, hh.lookup?, h, callValue, hh.answers hdepth hw]

/-! ## Statements -/

/-- A statement writes a text and binds nothing. -/
def Prints (sight : Sight) (stmt : Stmt) (text : String) : Prop :=
  ∀ ⦃setting invoke frame outer⦄, sight.Holds setting invoke frame outer →
    runStmt setting invoke frame outer stmt = .ok (frame, text)

/-- Statements write a text and bind nothing. -/
def PrintsAll (sight : Sight) (stmts : List Stmt) (text : String) : Prop :=
  ∀ ⦃setting invoke frame outer⦄, sight.Holds setting invoke frame outer →
    runStmts setting invoke frame outer stmts = .ok (frame, text)

/-- Statements write a text; they may bind names in the innermost frame. -/
def Writes (sight : Sight) (stmts : List Stmt) (text : String) : Prop :=
  ∀ ⦃setting invoke frame outer⦄, sight.Holds setting invoke frame outer →
    ∃ names, runStmts setting invoke frame outer stmts = .ok ({ frame with names := names }, text)

/-- Statements run one part after the other. -/
theorem runStmts_append (setting : Setting) (invoke : Invoke) (frame : Frame) (outer : Scope)
    (stmts more : List Stmt) :
    runStmts setting invoke frame outer (stmts ++ more) =
      match runStmts setting invoke frame outer stmts with
      | .error e => .error e
      | .ok (next, written) =>
        match runStmts setting invoke next outer more with
        | .error e => .error e
        | .ok (last, rest) => .ok (last, written ++ rest) := by
  induction stmts generalizing frame with
  | nil =>
      simp only [List.nil_append, runStmts_nil]
      cases runStmts setting invoke frame outer more <;> simp
  | cons stmt stmts ih =>
      simp only [List.cons_append, runStmts, ih]
      cases runStmt setting invoke frame outer stmt with
      | error e => rfl
      | ok first =>
          cases hrest : runStmts setting invoke first.1 outer stmts with
          | error e => simp [hrest]
          | ok second =>
              cases hmore : runStmts setting invoke second.1 outer more <;>
                simp [hrest, hmore, String.append_assoc]

/-- Statements write what each of them writes. -/
theorem printsAll_concat {stmts : List Stmt} {texts : List String}
    (h : List.Forall₂ sight.Prints stmts texts) : sight.PrintsAll stmts (Text.concat texts) := by
  intro setting invoke frame outer hh
  induction h with
  | nil => simp [Text.concat]
  | cons hstmt _ ih => simp [runStmts, hstmt hh, ih, Text.concat]

theorem printsAll_single {stmt : Stmt} {text : String} (h : sight.Prints stmt text) :
    sight.PrintsAll [stmt] text := by
  have hone := printsAll_concat (.cons h .nil)
  simpa [Text.concat] using hone

theorem PrintsAll.append {stmts more : List Stmt} {text rest : String}
    (h : sight.PrintsAll stmts text) (h' : sight.PrintsAll more rest) :
    sight.PrintsAll (stmts ++ more) (text ++ rest) := by
  intro setting invoke frame outer hh
  rw [runStmts_append, h hh]
  simp [h' hh]

theorem PrintsAll.writes {stmts : List Stmt} {text : String} (h : sight.PrintsAll stmts text) :
    sight.Writes stmts text := by
  intro setting invoke frame outer hh
  exact ⟨frame.names, h hh⟩

theorem Writes.cons {stmt : Stmt} {stmts : List Stmt} {text more : String}
    (h : sight.Prints stmt text) (hrest : sight.Writes stmts more) :
    sight.Writes (stmt :: stmts) (text ++ more) := by
  intro setting invoke frame outer hh
  obtain ⟨names, hnames⟩ := hrest hh
  exact ⟨names, by simp [runStmts, h hh, hnames]⟩

/-- Statements that run once a name is bound leave the rest of the frame as it was before. -/
theorem Writes.after_bind {name : String} {v : Value} {stmts : List Stmt} {text : String}
    (h : (sight.bind name v).Writes stmts text) (hv : v.holdsRound = false)
    (hh : sight.Holds setting invoke frame outer) :
    ∃ names, runStmts setting invoke (frame.bind name v) outer stmts =
      .ok ({ frame with names := names }, text) := by
  obtain ⟨names, hnames⟩ := h (hh.bind hv name)
  have hframe : { frame.bind name v with names := names } = { frame with names := names } := by
    simp [Frame.bind, hh.kept, hh.live, hv]
  exact ⟨names, hframe ▸ hnames⟩

/-- After a binding, statements see the name bound. -/
theorem Writes.assign {name : String} {e : Expr} {v : Value} {stmts : List Stmt} {text : String}
    (h : sight.Gives e v) (hv : v.holdsRound = false)
    (hrest : (sight.bind name v).Writes stmts text) :
    sight.Writes (.assign (.name name) e :: stmts) text := by
  intro setting invoke frame outer hh
  obtain ⟨names, hnames⟩ := hrest.after_bind hv hh
  exact ⟨names, by simp [runStmts, runStmt, h hh, bindTarget, hnames]⟩

/-- After the definition of a macro that remembers nothing, statements see it under its name. -/
theorem Writes.define {name : String} {parameters : List Parameter} {body stmts : List Stmt}
    {text : String} (hcaptures : captures parameters body = [])
    (hrest : (sight.bind name (.routine ⟨name, parameters, body, none⟩)).Writes stmts text) :
    sight.Writes (.define name parameters body :: stmts) text := by
  intro setting invoke frame outer hh
  obtain ⟨names, hnames⟩ := hrest.after_bind (by simp [Value.holdsRound]) hh
  exact ⟨names, by simp [runStmts, runStmt, Frame.define, hcaptures, hh.kept, hnames]⟩

@[simp]
theorem prints_say (content : String) : sight.Prints (.say content) content := by
  intro setting invoke frame outer _
  simp [Stmt.say, octetChars_eq]

theorem prints_print {e : Expr} {v : Value} (he : restartArguments? e = none) (h : sight.Gives e v)
    (hv : v.isUndefined = false) : sight.Prints (.print e) v.print := by
  intro setting invoke frame outer hh
  simp [runStmt, printExpr, he, h hh, printValue, hv]

theorem prints_name {n text : String} (h : (sight.names n).bind Value.printed? = some text) :
    sight.Prints (.print (.name n)) text := by
  obtain ⟨v, hv, hprinted⟩ := Option.bind_eq_some_iff.1 h
  obtain ⟨hdefined, rfl⟩ := Value.printed?_eq_some hprinted
  exact prints_print rfl (gives_name hv) hdefined

theorem prints_put {n m text : String}
    (h : (sight.names n).bind (fun v => (v.member m).printed?) = some text) :
    sight.Prints (.put n m) text := by
  obtain ⟨v, hv, hprinted⟩ := Option.bind_eq_some_iff.1 h
  obtain ⟨hdefined, rfl⟩ := Value.printed?_eq_some hprinted
  exact prints_print rfl (gives_dot hv rfl hdefined) hdefined

theorem prints_branch {e : Expr} {yes no : List Stmt} {text other : String} {p : Prop} [Decidable p]
    (h : sight.Decides e p) (hyes : sight.PrintsAll yes text) (hno : sight.PrintsAll no other) :
    sight.Prints (.branch e yes no) (if p then text else other) := by
  intro setting invoke frame outer hh
  obtain ⟨v, hv, hdefined, htrue⟩ := h
  by_cases hp : p
  · simp [runStmt, hv hh, truth_of_defined hdefined, htrue.2 hp, hyes hh, hp]
  · have hfalse : v.isTrue = false := by simpa [hp] using htrue
    simp [runStmt, hv hh, truth_of_defined hdefined, hfalse, hno hh, hp]

theorem prints_when {e : Expr} {body : List Stmt} {text : String} {p : Prop} [Decidable p]
    (h : sight.Decides e p) (hbody : sight.PrintsAll body text) :
    sight.Prints (.when e body) (if p then text else "") :=
  prints_branch h hbody (printsAll_concat .nil)

theorem prints_branch_not {e : Expr} {yes no : List Stmt} {text other : String} {p : Prop}
    [Decidable p] (h : sight.Decides e (¬p)) (hyes : sight.PrintsAll yes text)
    (hno : sight.PrintsAll no other) :
    sight.Prints (.branch e yes no) (if p then other else text) := by
  have hprints := prints_branch h hyes hno
  rwa [ite_not] at hprints

theorem prints_when_not {e : Expr} {body : List Stmt} {text : String} {p : Prop} [Decidable p]
    (h : sight.Decides e (¬p)) (hbody : sight.PrintsAll body text) :
    sight.Prints (.when e body) (if p then "" else text) :=
  prints_branch_not h hbody (printsAll_concat .nil)

theorem prints_when_false {e : Expr} {body : List Stmt} (h : sight.Decides e False) :
    sight.Prints (.when e body) "" := by
  intro setting invoke frame outer hh
  obtain ⟨v, hv, hdefined, htrue⟩ := h
  have hfalse : v.isTrue = false := by simpa using htrue
  simp [Stmt.when, runStmt, hv hh, truth_of_defined hdefined, hfalse]

/-! ## Loops -/

/-- The rounds of a loop write what each of them writes, in order. -/
theorem runRounds_map {α : Type} {name : String} {home : Nat} {length : Option Nat}
    {body : Frame → Except Fault (Frame × String)} {view : α → Value}
    (hview : ∀ a, (view a).holdsRound = false) (items : List α) (i : Nat) (text : Nat → α → String)
    (hbody : ∀ j a, items[j]? = some a → ∀ previous next, ∃ names,
      body (roundFrame name (view a) (.round home (i + j) length previous next)) =
        .ok ({ roundFrame name (view a) (.round home (i + j) length previous next)
          with names := names }, text j a))
    (names : Names) (round : Option Value) (previous : Value) :
    runRounds (.name name) home length body i ⟨.inner, names, none, round, false⟩ previous
      (items.map view) = .ok (Text.concat (items.mapIdx text)) := by
  induction items generalizing i text names round previous with
  | nil => rfl
  | cons a rest ih =>
      obtain ⟨left, hleft⟩ := hbody 0 a rfl previous ((rest.head?.map view).getD .undefined)
      have hrest := ih (i + 1) (fun j => text (j + 1))
        (fun j b hb => by simpa [Nat.add_assoc, Nat.add_comm 1] using hbody (j + 1) b hb)
      simp only [Nat.add_zero, roundFrame] at hleft
      simp [runRounds, bindTarget, Frame.bind, Names.bind, hview, hleft, hrest, Text.concat,
        List.mapIdx_cons]

/-- A loop over a list writes what its rounds write. -/
theorem prints_rounds {α : Type} {name : String} {source : Expr} {body : List Stmt} {items : List α}
    {view : α → Value} {text : Nat → α → String} (hroom : 0 < sight.room)
    (hsource : sight.Gives source (.list (items.map view)))
    (hview : ∀ a, (view a).holdsRound = false)
    (hbody : ∀ i a, items[i]? = some a → ∀ home previous next,
      (sight.enter name (view a) (.round home i (some items.length) previous next)).Writes body
        (text i a)) :
    sight.Prints (.forEach name source body) (Text.concat (items.mapIdx text)) := by
  intro setting invoke frame outer hh
  have hdepth : ¬ depthLimit < setting.depth := by
    have hbound := hh.room
    omega
  have hrounds : runRounds (.name name) (outer.length + 1) (some items.length)
      (fun inside =>
        runStmts { setting with depth := setting.depth + 1 } invoke inside (frame :: outer) body)
      0 (Frame.opened .inner) .undefined (items.map view) = .ok (Text.concat (items.mapIdx text)) :=
    runRounds_map hview items 0 text
      (fun j a ha previous next => by
        simpa using hbody j a ha (outer.length + 1) previous next (hh.enter hroom _ _ _))
      [] none .undefined
  cases items with
  | nil =>
      simp [Stmt.forEach, runStmt, hsource hh, Value.isUndefined, Value.items?, hdepth, Text.concat]
  | cons a rest =>
      simp only [List.map_cons, List.length_cons] at hrounds
      simp [Stmt.forEach, runStmt, hsource hh, Value.isUndefined, Value.items?, hdepth,
        Value.rounds?, hrounds]

/-- A loop whose rounds do not depend on their number. -/
theorem prints_forEach {α : Type} {name : String} {source : Expr} {body : List Stmt}
    {items : List α} {view : α → Value} {text : α → String} (hroom : 0 < sight.room)
    (hsource : sight.Gives source (.list (items.map view)))
    (hview : ∀ a, (view a).holdsRound = false)
    (hbody : ∀ a ∈ items, ∀ round, (sight.enter name (view a) round).Writes body (text a)) :
    sight.Prints (.forEach name source body) (Text.concat (items.map text)) := by
  have hrounds : sight.Prints (.forEach name source body)
      (Text.concat (items.mapIdx fun _ => text)) :=
    prints_rounds hroom hsource hview fun i a ha _ _ _ => hbody a (List.mem_of_getElem? ha) _
  have hmap : items.mapIdx (fun _ => text) = items.map text := by
    ext1 i
    simp
  exact hmap ▸ hrounds

/-! ## Macros and whole templates -/

/-- The sight in a call of a macro that remembers nothing. -/
def ofCall (setting : Setting) (parameter : String) (v : Value) : Sight :=
  ⟨setting.language, fun n => if parameter = n then some v else setting.background n,
    fun _ _ _ => False, 0⟩

/-- A macro with one parameter answers what its body writes. -/
theorem invokeMacro_eq {setting : Setting} {name parameter : String} {body : List Stmt} {v : Value}
    {text : String} (hround : v.holdsRound = false) (hplaced : splitArguments [v] = ([v], []))
    (hcaller : asksCaller [⟨parameter, none⟩] body = false)
    (h : (ofCall setting parameter v).Writes body text) (fuel : Nat) {depth : Nat} {scope : Scope}
    (hdepth : depth + callDepth ≤ depthLimit) :
    invokeMacro setting (fuel + 1) depth scope ⟨name, [⟨parameter, none⟩], body, none⟩ [v] =
      .ok (.text text) := by
  have hholds : (ofCall setting parameter v).Holds { setting with depth := depth + callDepth }
      (invokeMacro setting fuel) ((Frame.opened (.call none)).bind parameter v) scope := by
    refine ⟨rfl, ?_, fun _ _ _ _ _ _ hfalse => hfalse.elim, hdepth, rfl, ?_⟩
    · intro whole n
      rw [search?_bind whole n parameter rfl hround]
      dsimp only [ofCall]
      split
      · rfl
      · simp [Scope.search?, Frame.find?, Frame.opened, findEntry, Scope.remembered?,
          Setting.background]
    · simp [Frame.bind, Frame.opened, hround]
  obtain ⟨names, hnames⟩ := h hholds
  simp [invokeMacro, hplaced, pairArguments, findEntry, Routine.takes, Nat.not_lt.2 hdepth,
    callFrame, hcaller, bindParameters, hnames]

/-- The sight of a whole template, with what its macros answer. -/
def ofContext (language : Language) (context : Names)
    (answers : Routine → List Value → Value → Prop) : Sight :=
  ⟨language, fun n => (findEntry n context).or ((Function.ofName? n).map .function), answers,
    depthLimit - 1⟩

@[simp]
theorem names_ofContext (language : Language) (context : Names)
    (answers : Routine → List Value → Value → Prop) (n : String) :
    (ofContext language context answers).names n =
      (findEntry n context).or ((Function.ofName? n).map .function) := rfl

@[simp]
theorem room_ofContext (language : Language) (context : Names)
    (answers : Routine → List Value → Value → Prop) :
    (ofContext language context answers).room = 499 := rfl

end Sight

/-- A template renders to a text, whatever it is called and whichever templates are held beside
it. -/
structure Renders (language : Language) (context : Names) (stmts : List Stmt) (text : String) :
    Prop where
  render_eq : ∀ name held, render language name held context stmts = .ok text

namespace Sight

/-- A template renders to what its statements write. -/
theorem renders {language : Language} {context : Names}
    {answers : Routine → List Value → Value → Prop} {stmts : List Stmt} {text : String}
    (hanswers : ∀ ⦃name held fuel depth scope r arguments v⦄, depth + callDepth ≤ depthLimit →
      answers r arguments v →
      invokeMacro ⟨language, name, held, context, 1⟩ (fuel + 1) depth scope r arguments = .ok v)
    (h : (ofContext language context answers).Writes stmts text) :
    Renders language context stmts text := by
  refine ⟨fun name held => ?_⟩
  have hholds : (ofContext language context answers).Holds ⟨language, name, held, context, 1⟩
      (invokeMacro ⟨language, name, held, context, 1⟩ (depthLimit / callDepth + 1))
      (Frame.opened .inner) [] := by
    refine ⟨rfl, ?_, fun _ _ _ _ _ hdepth h => hanswers hdepth h, Nat.le_refl depthLimit, rfl, rfl⟩
    intro whole n
    simp [Scope.search?, Frame.find?, Frame.opened, findEntry, ofContext, Setting.background]
  obtain ⟨names, hnames⟩ := h hholds
  simp [render, hnames]

/-- A template without macros renders to what its statements write. -/
theorem renders_of_writes {language : Language} {context : Names} {stmts : List Stmt}
    {text : String} (h : (ofContext language context fun _ _ _ => False).Writes stmts text) :
    Renders language context stmts text :=
  renders (fun _ _ _ _ _ _ _ _ _ hfalse => hfalse.elim) h

end Sight

end ApiStubs.Template
