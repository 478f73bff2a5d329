import ApiStubs.Data.Alike
import ApiStubs.Template.Parser

/-!
# Parsing with more fuel

No source uses up the fuel that it is parsed with.  Every part of a template is parsed with one unit
less than what it is a part of, so it is enough to see how many units a part may need: sixteen for
each of its tokens, and a few more for the parts that start where it starts.  A part that stands
behind some token of the whole has sixteen units to spare for that token.

Said of two amounts of fuel, one not below the other: if the smaller one is enough for a part, both
make the same of it.  With a part goes how many tokens are left after it, which tells what there is
to spare for the parts that follow.  The proof is by induction on the smaller amount, one lemma for
each function of the parser.
-/

namespace ApiStubs.Template

/-! ## Steps that agree -/

/-- Two steps of parsing with the same fault, or with the same result and the same tokens after it,
of which there are fewer than a bound. -/
abbrev Agrees {α : Type} (bound : Nat) (x y : Parse α) : Prop :=
  Alike (fun result => result.2.length < bound) x y

namespace Agrees

variable {α : Type} {bound : Nat} {x y : Parse α}

theorem pure (a : α) {rest : List Token} (h : rest.length < bound) :
    Agrees bound (.ok (a, rest)) (.ok (a, rest)) := Alike.pure h

theorem mono {more : Nat} (h : Agrees bound x y) (hmore : bound ≤ more) : Agrees more x y :=
  Alike.imp h fun _ hresult => Nat.lt_of_lt_of_le hresult hmore

@[elab_as_elim]
theorem elim {motive : Parse α → Parse α → Prop} (h : Agrees bound x y)
    (error : ∀ e, motive (.error e) (.error e))
    (ok : ∀ a rest, rest.length < bound → motive (.ok (a, rest)) (.ok (a, rest))) :
    motive x y :=
  Alike.elim h error fun result hresult => ok result.1 result.2 hresult

end Agrees

/-! ## Tokens that are due -/

@[elab_as_elim]
theorem expect_elim {motive : Except SyntaxFault (List Token) → Prop} (token : Token)
    (expected : String) (tokens : List Token) (error : ∀ e, motive (.error e))
    (ok : ∀ rest, rest.length < tokens.length → motive (.ok rest)) :
    motive (expect token expected tokens) := by
  cases tokens with
  | nil => exact error _
  | cons t rest =>
    rw [expect]
    split
    · exact ok rest (Nat.lt_succ_self _)
    · exact error _

/-- The first of several parts stands at once, a later one after a separator. -/
@[elab_as_elim]
theorem start_elim {motive : Except SyntaxFault (List Token) → Prop} (first : Bool) (token : Token)
    (expected : String) (tokens : List Token) (error : ∀ e, motive (.error e))
    (ok : ∀ start, start.length ≤ tokens.length → motive (.ok start)) :
    motive (if first then .ok tokens else expect token expected tokens) := by
  split
  · exact ok tokens (Nat.le_refl _)
  · exact expect_elim token expected tokens error fun rest hrest => ok rest (Nat.le_of_lt hrest)

theorem expectName_fewer (tokens : List Token) :
    Agrees tokens.length (expectName tokens) (expectName tokens) := by
  unfold expectName
  split
  · exact .error _
  · exact .pure _ (Nat.lt_succ_self _)
  · exact .error _

theorem targetName_fewer (tokens : List Token) :
    Agrees tokens.length (targetName tokens) (targetName tokens) := by
  unfold targetName
  refine (expectName_fewer tokens).elim .error fun n rest hrest => ?_
  dsimp only
  split
  · exact .error _
  · exact .pure n hrest

theorem memberTarget_fewer (subject : Target) (tokens : List Token) :
    Agrees (tokens.length + 1) (memberTarget subject tokens) (memberTarget subject tokens) := by
  fun_induction memberTarget subject tokens with
  | case1 subject n rest ih => exact ih.mono (by simp)
  | case2 => exact .error _
  | case3 subject tokens => exact .pure subject (Nat.lt_succ_self _)

theorem dottedName_fewer (name : String) (tokens : List Token) :
    Agrees (tokens.length + 1) (dottedName name tokens) (dottedName name tokens) := by
  fun_induction dottedName name tokens with
  | case1 name more rest ih => exact ih.mono (by simp)
  | case2 => exact .error _
  | case3 name tokens => exact .pure name (Nat.lt_succ_self _)

theorem callableName_fewer (tokens : List Token) :
    Agrees tokens.length (callableName tokens) (callableName tokens) := by
  unfold callableName
  refine (expectName_fewer tokens).elim .error fun n rest hrest => ?_
  exact (dottedName_fewer n rest).mono hrest

theorem joinTexts_length_le (content : String) (tokens : List Token) :
    (joinTexts content tokens).2.length ≤ tokens.length := by
  fun_induction joinTexts content tokens with
  | case1 content more rest ih => exact Nat.le_succ_of_le ih
  | case2 => exact Nat.le_refl _

theorem fewer_of_comparison? {tokens rest : List Token} {op : Comparison}
    (h : comparison? tokens = some (op, rest)) : rest.length < tokens.length := by
  unfold comparison? at h
  split at h <;> cases h <;> simp only [List.length_cons] <;> omega

theorem nextArgument_fewer (first : Bool) (tokens : List Token) :
    Agrees (tokens.length + 1) (nextArgument first tokens) (nextArgument first tokens) := by
  unfold nextArgument
  split
  · exact .pure true (by simp only [List.length_cons]; omega)
  · split
    · exact .pure false (Nat.lt_succ_self _)
    · refine expect_elim _ _ tokens .error fun rest hrest => ?_
      split
      · contradiction
      · rename_i more hmore
        cases hmore
        exact .pure true (by simp at hrest; omega)
      · rename_i more _ hmore
        cases hmore
        exact .pure false (by omega)

/-! ## Expressions -/

/-- What two amounts of fuel make of expressions and their parts, if the smaller one is enough.  A
part that starts with another one needs more units than that one beyond those for its tokens. -/
structure ExprsAgree (n f : Nat) : Prop where
  expr : ∀ depth tokens, 16 * tokens.length + 8 ≤ n →
    Agrees tokens.length (parseExpr n depth tokens) (parseExpr f depth tokens)
  or : ∀ depth tokens, 16 * tokens.length + 7 ≤ n →
    Agrees tokens.length (parseOr n depth tokens) (parseOr f depth tokens)
  orTail : ∀ depth left tokens, 16 * tokens.length + 1 ≤ n →
    Agrees (tokens.length + 1) (parseOrTail n depth left tokens) (parseOrTail f depth left tokens)
  and : ∀ depth tokens, 16 * tokens.length + 6 ≤ n →
    Agrees tokens.length (parseAnd n depth tokens) (parseAnd f depth tokens)
  andTail : ∀ depth left tokens, 16 * tokens.length + 1 ≤ n →
    Agrees (tokens.length + 1) (parseAndTail n depth left tokens) (parseAndTail f depth left tokens)
  not : ∀ depth tokens, 16 * tokens.length + 5 ≤ n →
    Agrees tokens.length (parseNot n depth tokens) (parseNot f depth tokens)
  links : ∀ depth tokens, 16 * tokens.length + 1 ≤ n →
    Agrees (tokens.length + 1) (parseLinks n depth tokens) (parseLinks f depth tokens)
  sum : ∀ depth tokens, 16 * tokens.length + 4 ≤ n →
    Agrees tokens.length (parseSum n depth tokens) (parseSum f depth tokens)
  sumTail : ∀ depth left tokens, 16 * tokens.length + 1 ≤ n →
    Agrees (tokens.length + 1) (parseSumTail n depth left tokens) (parseSumTail f depth left tokens)
  unary : ∀ depth tokens, 16 * tokens.length + 3 ≤ n →
    Agrees tokens.length (parseUnary n depth tokens) (parseUnary f depth tokens)
  signed : ∀ depth tokens, 16 * tokens.length + 2 ≤ n →
    Agrees tokens.length (parseSigned n depth tokens) (parseSigned f depth tokens)
  primary : ∀ depth tokens, 16 * tokens.length + 1 ≤ n →
    Agrees tokens.length (parsePrimary n depth tokens) (parsePrimary f depth tokens)
  bracket : ∀ depth tokens, 16 * tokens.length + 9 ≤ n →
    Agrees tokens.length (parseBracket n depth tokens) (parseBracket f depth tokens)
  items : ∀ depth close first tokens, 16 * tokens.length + 9 ≤ n →
    Agrees tokens.length (parseItems n depth close first tokens)
      (parseItems f depth close first tokens)
  arguments : ∀ depth tokens, 16 * tokens.length + 10 ≤ n →
    Agrees (tokens.length + 1) (parseArguments n depth tokens) (parseArguments f depth tokens)
  placed : ∀ depth first tokens, 16 * tokens.length + 9 ≤ n →
    Agrees (tokens.length + 1) (parsePlaced n depth first tokens) (parsePlaced f depth first tokens)
  named : ∀ depth tokens, 16 * tokens.length + 9 ≤ n →
    Agrees (tokens.length + 1) (parseNamed n depth tokens) (parseNamed f depth tokens)
  trailers : ∀ depth subject tokens, 16 * tokens.length + 1 ≤ n →
    Agrees (tokens.length + 1) (parseTrailers n depth subject tokens)
      (parseTrailers f depth subject tokens)
  filters : ∀ depth subject tokens, 16 * tokens.length + 1 ≤ n →
    Agrees (tokens.length + 1) (parseFilters n depth subject tokens)
      (parseFilters f depth subject tokens)
  testArguments : ∀ depth tokens, 16 * tokens.length + 3 ≤ n →
    Agrees (tokens.length + 1) (parseTestArguments n depth tokens)
      (parseTestArguments f depth tokens)

namespace ExprsAgree

variable {n f : Nat} (h : ExprsAgree n f) (depth : Nat) {tokens : List Token}

include h

theorem parseExpr (hn : 16 * tokens.length + 8 ≤ n + 1) :
    Agrees tokens.length (parseExpr (n + 1) depth tokens) (parseExpr (f + 1) depth tokens) := by
  rw [Template.parseExpr, Template.parseExpr]
  split
  · exact .error _
  · exact h.or _ tokens (by omega)

theorem parseOr (hn : 16 * tokens.length + 7 ≤ n + 1) :
    Agrees tokens.length (parseOr (n + 1) depth tokens) (parseOr (f + 1) depth tokens) := by
  rw [Template.parseOr, Template.parseOr]
  refine (h.and depth tokens (by omega)).elim .error fun left rest hrest => ?_
  exact (h.orTail depth left rest (by omega)).mono hrest

theorem parseOrTail (left : Expr) (hn : 16 * tokens.length + 1 ≤ n + 1) :
    Agrees (tokens.length + 1) (parseOrTail (n + 1) depth left tokens)
      (parseOrTail (f + 1) depth left tokens) := by
  unfold Template.parseOrTail
  split
  · rename_i rest
    rw [List.length_cons] at hn ⊢
    refine (h.and depth rest (by omega)).elim .error fun right more hmore => ?_
    exact (h.orTail depth _ more (by omega)).mono (by omega)
  · exact .pure left (Nat.lt_succ_self _)

theorem parseAnd (hn : 16 * tokens.length + 6 ≤ n + 1) :
    Agrees tokens.length (parseAnd (n + 1) depth tokens) (parseAnd (f + 1) depth tokens) := by
  rw [Template.parseAnd, Template.parseAnd]
  refine (h.not depth tokens (by omega)).elim .error fun left rest hrest => ?_
  exact (h.andTail depth left rest (by omega)).mono hrest

theorem parseAndTail (left : Expr) (hn : 16 * tokens.length + 1 ≤ n + 1) :
    Agrees (tokens.length + 1) (parseAndTail (n + 1) depth left tokens)
      (parseAndTail (f + 1) depth left tokens) := by
  unfold Template.parseAndTail
  split
  · rename_i rest
    rw [List.length_cons] at hn ⊢
    refine (h.not depth rest (by omega)).elim .error fun right more hmore => ?_
    exact (h.andTail depth _ more (by omega)).mono (by omega)
  · exact .pure left (Nat.lt_succ_self _)

theorem parseNot (hn : 16 * tokens.length + 5 ≤ n + 1) :
    Agrees tokens.length (parseNot (n + 1) depth tokens) (parseNot (f + 1) depth tokens) := by
  unfold Template.parseNot
  split
  · rename_i rest
    rw [List.length_cons] at hn ⊢
    refine (h.not depth rest (by omega)).elim .error fun operand more hmore => ?_
    exact .pure _ (by omega)
  · refine (h.sum depth tokens (by omega)).elim .error fun first rest hrest => ?_
    dsimp only
    refine (h.links depth rest (by omega)).elim .error fun links more hmore => ?_
    cases links with
    | nil => exact .pure first (by omega)
    | cons link links => exact .pure _ (by omega)

theorem parseLinks (hn : 16 * tokens.length + 1 ≤ n + 1) :
    Agrees (tokens.length + 1) (parseLinks (n + 1) depth tokens)
      (parseLinks (f + 1) depth tokens) := by
  rw [Template.parseLinks, Template.parseLinks]
  split
  · exact .pure _ (Nat.lt_succ_self _)
  · rename_i op rest hop
    have hrest := fewer_of_comparison? hop
    refine (h.sum depth rest (by omega)).elim .error fun right more hmore => ?_
    dsimp only
    refine (h.links depth more (by omega)).elim .error fun links last hlast => ?_
    exact .pure _ (by omega)

theorem parseSum (hn : 16 * tokens.length + 4 ≤ n + 1) :
    Agrees tokens.length (parseSum (n + 1) depth tokens) (parseSum (f + 1) depth tokens) := by
  rw [Template.parseSum, Template.parseSum]
  refine (h.unary depth tokens (by omega)).elim .error fun left rest hrest => ?_
  exact (h.sumTail depth left rest (by omega)).mono hrest

theorem parseSumTail (left : Expr) (hn : 16 * tokens.length + 1 ≤ n + 1) :
    Agrees (tokens.length + 1) (parseSumTail (n + 1) depth left tokens)
      (parseSumTail (f + 1) depth left tokens) := by
  unfold Template.parseSumTail
  split
  · rename_i rest
    rw [List.length_cons] at hn ⊢
    refine (h.unary depth rest (by omega)).elim .error fun right more hmore => ?_
    exact (h.sumTail depth _ more (by omega)).mono (by omega)
  · exact .pure left (Nat.lt_succ_self _)

theorem parseUnary (hn : 16 * tokens.length + 3 ≤ n + 1) :
    Agrees tokens.length (parseUnary (n + 1) depth tokens) (parseUnary (f + 1) depth tokens) := by
  rw [Template.parseUnary, Template.parseUnary]
  refine (h.signed depth tokens (by omega)).elim .error fun subject rest hrest => ?_
  dsimp only
  refine (h.trailers depth subject rest (by omega)).elim .error fun subject more hmore => ?_
  exact (h.filters depth subject more (by omega)).mono (by omega)

theorem parseSigned (hn : 16 * tokens.length + 2 ≤ n + 1) :
    Agrees tokens.length (parseSigned (n + 1) depth tokens) (parseSigned (f + 1) depth tokens) := by
  unfold Template.parseSigned
  split
  · rename_i rest
    rw [List.length_cons] at hn ⊢
    refine (h.signed depth rest (by omega)).elim .error fun operand more hmore => ?_
    exact .pure _ (by omega)
  · exact h.primary depth tokens (by omega)

theorem parsePrimary (hn : 16 * tokens.length + 1 ≤ n + 1) :
    Agrees tokens.length (parsePrimary (n + 1) depth tokens)
      (parsePrimary (f + 1) depth tokens) := by
  rw [Template.parsePrimary, Template.parsePrimary]
  split
  · exact .error _
  · split
    · exact .error _
    · exact .pure _ (Nat.lt_succ_self _)
    · rename_i s rest
      exact .pure _ (Nat.lt_succ_of_le (joinTexts_length_le s rest))
    · exact .pure _ (Nat.lt_succ_self _)
    · exact .pure _ (Nat.lt_succ_self _)
    · rename_i rest
      rw [List.length_cons] at hn ⊢
      exact (h.bracket _ rest (by omega)).mono (by omega)
    · rename_i rest
      rw [List.length_cons] at hn ⊢
      refine (h.items _ _ _ rest (by omega)).elim .error fun items more hmore => ?_
      exact .pure _ (by omega)
    · exact .error _

theorem parseBracket (hn : 16 * tokens.length + 9 ≤ n + 1) :
    Agrees tokens.length (parseBracket (n + 1) depth tokens)
      (parseBracket (f + 1) depth tokens) := by
  unfold Template.parseBracket
  split
  · exact .pure _ (Nat.lt_succ_self _)
  · refine (h.expr depth tokens (by omega)).elim .error fun inner rest hrest => ?_
    split
    · contradiction
    · rename_i more heq
      cases heq
      refine (h.items depth _ _ (_ :: more) (by omega)).elim .error fun items last hlast => ?_
      exact .pure _ (by omega)
    · rename_i heq
      cases heq
      refine expect_elim _ _ rest .error fun last hlast => ?_
      exact .pure _ (by omega)

theorem parseItems (close : String) (first : Bool) (hn : 16 * tokens.length + 9 ≤ n + 1) :
    Agrees tokens.length (parseItems (n + 1) depth close first tokens)
      (parseItems (f + 1) depth close first tokens) := by
  unfold Template.parseItems
  split
  · exact .error _
  · rename_i t rest
    split
    · exact .pure _ (Nat.lt_succ_self _)
    · refine start_elim first _ _ (t :: rest) .error fun start hstart => ?_
      dsimp only
      split
      · exact .error _
      · rename_i u more
        split
        · exact .pure _ hstart
        · refine (h.expr depth (u :: more) (by omega)).elim .error fun item rest hrest => ?_
          dsimp only
          refine (h.items depth close false rest (by omega)).elim .error fun items last hlast => ?_
          exact .pure _ (by omega)

theorem parseArguments (hn : 16 * tokens.length + 10 ≤ n + 1) :
    Agrees (tokens.length + 1) (parseArguments (n + 1) depth tokens)
      (parseArguments (f + 1) depth tokens) := by
  rw [Template.parseArguments, Template.parseArguments]
  refine (h.placed depth true tokens (by omega)).elim .error ?_
  rintro ⟨items, entries⟩ rest hrest
  dsimp only
  split
  · exact .error _
  · split
    · exact .pure _ hrest
    · exact .pure _ hrest

theorem parsePlaced (first : Bool) (hn : 16 * tokens.length + 9 ≤ n + 1) :
    Agrees (tokens.length + 1) (parsePlaced (n + 1) depth first tokens)
      (parsePlaced (f + 1) depth first tokens) := by
  rw [Template.parsePlaced, Template.parsePlaced]
  refine (nextArgument_fewer first tokens).elim .error fun ends start hstart => ?_
  cases ends with
  | true => exact .pure _ hstart
  | false =>
    dsimp only
    refine (h.expr depth start (by omega)).elim .error fun item rest hrest => ?_
    split
    · contradiction
    · rename_i name more heq
      cases heq
      rw [List.length_cons] at hrest
      refine (h.expr depth more (by omega)).elim .error fun value last hlast => ?_
      dsimp only
      refine (h.named depth last (by omega)).elim .error fun entries final hfinal => ?_
      exact .pure _ (by omega)
    · rename_i heq
      cases heq
      refine (h.placed depth false rest (by omega)).elim .error ?_
      rintro ⟨items, entries⟩ last hlast
      exact .pure _ (by omega)

theorem parseNamed (hn : 16 * tokens.length + 9 ≤ n + 1) :
    Agrees (tokens.length + 1) (parseNamed (n + 1) depth tokens)
      (parseNamed (f + 1) depth tokens) := by
  rw [Template.parseNamed, Template.parseNamed]
  refine (nextArgument_fewer false tokens).elim .error fun ends start hstart => ?_
  cases ends with
  | true => exact .pure _ hstart
  | false =>
    dsimp only
    refine (h.expr depth start (by omega)).elim .error fun item rest hrest => ?_
    split
    · contradiction
    · rename_i name more heq
      cases heq
      rw [List.length_cons] at hrest
      refine (h.expr depth more (by omega)).elim .error fun value last hlast => ?_
      dsimp only
      refine (h.named depth last (by omega)).elim .error fun entries final hfinal => ?_
      exact .pure _ (by omega)
    · exact .error _

theorem parseTrailers (subject : Expr) (hn : 16 * tokens.length + 1 ≤ n + 1) :
    Agrees (tokens.length + 1) (parseTrailers (n + 1) depth subject tokens)
      (parseTrailers (f + 1) depth subject tokens) := by
  unfold Template.parseTrailers
  split
  · rename_i m rest
    simp only [List.length_cons] at hn ⊢
    split
    · exact (h.trailers depth _ rest (by omega)).mono (by omega)
    · exact .error _
  · rename_i rest _
    rw [List.length_cons] at hn ⊢
    refine (expectName_fewer rest).elim .error fun name more hmore => ?_
    exact (h.trailers depth _ more (by omega)).mono (by omega)
  · rename_i rest
    rw [List.length_cons] at hn ⊢
    refine (h.expr depth rest (by omega)).elim .error fun index more hmore => ?_
    dsimp only
    refine expect_elim _ _ more .error fun last hlast => ?_
    exact (h.trailers depth _ last (by omega)).mono (by omega)
  · rename_i rest
    rw [List.length_cons] at hn ⊢
    refine (h.arguments depth rest (by omega)).elim .error fun arguments more hmore => ?_
    exact (h.trailers depth _ more (by omega)).mono (by omega)
  · exact .pure subject (Nat.lt_succ_self _)

theorem parseFilters (subject : Expr) (hn : 16 * tokens.length + 1 ≤ n + 1) :
    Agrees (tokens.length + 1) (parseFilters (n + 1) depth subject tokens)
      (parseFilters (f + 1) depth subject tokens) := by
  unfold Template.parseFilters
  split
  · rename_i rest
    rw [List.length_cons] at hn ⊢
    refine (callableName_fewer rest).elim .error fun name more hmore => ?_
    split
    · contradiction
    · rename_i last heq
      cases heq
      rw [List.length_cons] at hmore
      refine (h.arguments depth last (by omega)).elim .error fun arguments final hfinal => ?_
      exact (h.filters depth _ final (by omega)).mono (by omega)
    · rename_i heq
      cases heq
      exact (h.filters depth _ more (by omega)).mono (by omega)
  · rename_i rest
    rw [List.length_cons] at hn ⊢
    split
    rename_i negated start hnegated
    have hstart : start.length ≤ rest.length := by
      split at hnegated <;> cases hnegated <;> simp
    refine (callableName_fewer start).elim .error fun name more hmore => ?_
    dsimp only
    refine (h.testArguments depth more (by omega)).elim .error fun arguments last hlast => ?_
    exact (h.filters depth _ last (by omega)).mono (by omega)
  · exact .pure subject (Nat.lt_succ_self _)

theorem parseTestArguments (hn : 16 * tokens.length + 3 ≤ n + 1) :
    Agrees (tokens.length + 1) (parseTestArguments (n + 1) depth tokens)
      (parseTestArguments (f + 1) depth tokens) := by
  unfold Template.parseTestArguments
  split
  · rename_i rest
    rw [List.length_cons] at hn ⊢
    exact (h.arguments depth rest (by omega)).mono (by omega)
  · rename_i t rest _
    split
    · refine (h.signed depth (t :: rest) (by omega)).elim .error fun argument more hmore => ?_
      dsimp only
      refine (h.trailers depth argument more (by omega)).elim .error fun argument last hlast => ?_
      exact .pure _ (by omega)
    · exact .pure _ (Nat.lt_succ_self _)
  · exact .pure _ (Nat.lt_succ_self _)

end ExprsAgree

/-- Fuel beyond what an expression may need makes no difference to it. -/
theorem exprsAgree : ∀ {n f : Nat}, n ≤ f → ExprsAgree n f
  | 0, f, _ => by constructor <;> intros <;> omega
  | n + 1, 0, h => by cases h
  | n + 1, f + 1, h => by
    have hless : ExprsAgree n f := exprsAgree (Nat.le_of_succ_le_succ h)
    exact {
      expr depth _ := hless.parseExpr depth
      or depth _ := hless.parseOr depth
      orTail depth left _ := hless.parseOrTail depth left
      and depth _ := hless.parseAnd depth
      andTail depth left _ := hless.parseAndTail depth left
      not depth _ := hless.parseNot depth
      links depth _ := hless.parseLinks depth
      sum depth _ := hless.parseSum depth
      sumTail depth left _ := hless.parseSumTail depth left
      unary depth _ := hless.parseUnary depth
      signed depth _ := hless.parseSigned depth
      primary depth _ := hless.parsePrimary depth
      bracket depth _ := hless.parseBracket depth
      items depth close first _ := hless.parseItems depth close first
      arguments depth _ := hless.parseArguments depth
      placed depth first _ := hless.parsePlaced depth first
      named depth _ := hless.parseNamed depth
      trailers depth subject _ := hless.parseTrailers depth subject
      filters depth subject _ := hless.parseFilters depth subject
      testArguments depth _ := hless.parseTestArguments depth }

/-! ## Targets and parameters -/

/-- What two amounts of fuel make of targets. -/
structure TargetsAgree (n f : Nat) : Prop where
  target : ∀ members tokens, 16 * tokens.length + 3 ≤ n →
    Agrees (tokens.length + 1) (parseTarget n members tokens) (parseTarget f members tokens)
  targets : ∀ members tokens, 16 * tokens.length + 2 ≤ n →
    Agrees (tokens.length + 1) (parseTargets n members tokens) (parseTargets f members tokens)
  one : ∀ members tokens, 16 * tokens.length + 1 ≤ n →
    Agrees tokens.length (parseOneTarget n members tokens) (parseOneTarget f members tokens)

namespace TargetsAgree

variable {n f : Nat} (h : TargetsAgree n f) (members : Bool) {tokens : List Token}

include h

theorem parseTarget (hn : 16 * tokens.length + 3 ≤ n + 1) :
    Agrees (tokens.length + 1) (parseTarget (n + 1) members tokens)
      (parseTarget (f + 1) members tokens) := by
  rw [Template.parseTarget, Template.parseTarget]
  refine (h.targets members tokens (by omega)).elim .error ?_
  rintro ⟨comma, targets⟩ rest hrest
  exact .pure _ hrest

theorem parseTargets (hn : 16 * tokens.length + 2 ≤ n + 1) :
    Agrees (tokens.length + 1) (parseTargets (n + 1) members tokens)
      (parseTargets (f + 1) members tokens) := by
  rw [Template.parseTargets, Template.parseTargets]
  split
  · exact .pure _ (Nat.lt_succ_self _)
  · refine (h.one members tokens (by omega)).elim .error fun target rest hrest => ?_
    split
    · contradiction
    · rename_i more heq
      cases heq
      rw [List.length_cons] at hrest
      refine (h.targets members more (by omega)).elim .error ?_
      rintro ⟨comma, targets⟩ last hlast
      exact .pure _ (by omega)
    · rename_i heq
      cases heq
      exact .pure _ (by omega)

theorem parseOneTarget (hn : 16 * tokens.length + 1 ≤ n + 1) :
    Agrees tokens.length (parseOneTarget (n + 1) members tokens)
      (parseOneTarget (f + 1) members tokens) := by
  unfold Template.parseOneTarget
  split
  · rename_i rest
    rw [List.length_cons] at hn ⊢
    refine (h.target false rest (by omega)).elim .error fun target more hmore => ?_
    dsimp only
    refine expect_elim _ _ more .error fun last hlast => ?_
    exact .pure _ (by omega)
  · refine (targetName_fewer tokens).elim .error fun name rest hrest => ?_
    dsimp only
    split
    · exact (memberTarget_fewer _ rest).mono hrest
    · exact .pure _ hrest

end TargetsAgree

/-- Fuel beyond what targets may need makes no difference to them. -/
theorem targetsAgree : ∀ {n f : Nat}, n ≤ f → TargetsAgree n f
  | 0, f, _ => by constructor <;> intros <;> omega
  | n + 1, 0, h => by cases h
  | n + 1, f + 1, h => by
    have hless : TargetsAgree n f := targetsAgree (Nat.le_of_succ_le_succ h)
    exact {
      target members _ := hless.parseTarget members
      targets members _ := hless.parseTargets members
      one members _ := hless.parseOneTarget members }

theorem parseParameters_agrees :
    ∀ {n f : Nat}, n ≤ f → ∀ depth first defaulted tokens, 16 * tokens.length + 1 ≤ n →
      Agrees (tokens.length + 1) (parseParameters n depth first defaulted tokens)
        (parseParameters f depth first defaulted tokens)
  | 0, _, _, _, _, _, _, hn => by omega
  | n + 1, 0, h, _, _, _, _, _ => by cases h
  | n + 1, f + 1, h, depth, first, defaulted, tokens, hn => by
    have hless : n ≤ f := Nat.le_of_succ_le_succ h
    unfold parseParameters
    split
    · exact .pure _ (by simp only [List.length_cons]; omega)
    · refine start_elim first _ _ tokens .error fun start hstart => ?_
      split
      · contradiction
      · rename_i rest heq
        cases heq
        rw [List.length_cons] at hstart
        split
        · exact .error _
        · exact .pure _ (by omega)
      · rename_i heq
        cases heq
        refine (targetName_fewer start).elim .error fun name rest hrest => ?_
        split
        · contradiction
        · rename_i more heq
          cases heq
          rw [List.length_cons] at hrest
          refine ((exprsAgree hless).expr depth more (by omega)).elim .error ?_
          intro value last hlast
          dsimp only
          refine (parseParameters_agrees hless depth false true last (by omega)).elim .error ?_
          intro parameters final hfinal
          exact .pure _ (by omega)
        · rename_i heq
          cases heq
          split
          · exact .error _
          · refine (parseParameters_agrees hless depth false false rest (by omega)).elim .error ?_
            intro parameters final hfinal
            exact .pure _ (by omega)

/-! ## Statements -/

theorem Agrees.followedBy {bound : Nat} {x y : Parse (List Stmt × Option String)}
    (h : Agrees bound x y) (stmt : Stmt) :
    Agrees bound (followedBy stmt x) (followedBy stmt y) := by
  refine h.elim .error ?_
  rintro ⟨stmts, stop⟩ rest hrest
  exact .pure _ hrest

/-- What two amounts of fuel make of statements and their parts. -/
structure StmtsAgree (n f : Nat) : Prop where
  le : n ≤ f
  body : ∀ depth stops tokens, 16 * tokens.length + 1 ≤ n →
    Agrees (tokens.length + 1) (parseBody n depth stops tokens) (parseBody f depth stops tokens)
  stmt : ∀ depth word tokens, 16 * tokens.length + 9 ≤ n →
    Agrees (tokens.length + 1) (parseStmt n depth word tokens) (parseStmt f depth word tokens)
  set : ∀ depth tokens, 16 * tokens.length + 4 ≤ n →
    Agrees (tokens.length + 1) (parseSet n depth tokens) (parseSet f depth tokens)
  binding : ∀ depth target tokens, 16 * tokens.length + 1 ≤ n →
    Agrees (tokens.length + 1) (parseBinding n depth target tokens)
      (parseBinding f depth target tokens)
  moreValues : ∀ depth tokens, 16 * tokens.length + 1 ≤ n →
    Agrees (tokens.length + 1) (parseMoreValues n depth tokens) (parseMoreValues f depth tokens)
  filterChain : ∀ depth first tokens, 16 * tokens.length + 1 ≤ n →
    Agrees (tokens.length + 1) (parseFilterChain n depth first tokens)
      (parseFilterChain f depth first tokens)
  capture : ∀ depth target filters tokens, 16 * tokens.length + 2 ≤ n →
    Agrees (tokens.length + 1) (parseCapture n depth target filters tokens)
      (parseCapture f depth target filters tokens)
  branch : ∀ depth tokens, 16 * tokens.length + 8 ≤ n →
    Agrees (tokens.length + 1) (parseBranch n depth tokens) (parseBranch f depth tokens)
  loop : ∀ depth target source tokens, 16 * tokens.length + 1 ≤ n →
    Agrees (tokens.length + 1) (parseLoop n depth target source tokens)
      (parseLoop f depth target source tokens)

namespace StmtsAgree

variable {n f : Nat} (h : StmtsAgree n f) (depth : Nat) {tokens : List Token}

include h

theorem parseBody (stops : List String) (hn : 16 * tokens.length + 1 ≤ n + 1) :
    Agrees (tokens.length + 1) (parseBody (n + 1) depth stops tokens)
      (parseBody (f + 1) depth stops tokens) := by
  unfold Template.parseBody
  split
  · exact .pure _ (Nat.lt_succ_self _)
  · rename_i content rest
    rw [List.length_cons] at hn ⊢
    exact ((h.body depth stops rest (by omega)).followedBy _).mono (by omega)
  · rename_i rest
    rw [List.length_cons] at hn ⊢
    refine ((exprsAgree h.le).expr depth rest (by omega)).elim .error fun value more hmore => ?_
    dsimp only
    refine expect_elim _ _ more .error fun last hlast => ?_
    exact ((h.body depth stops last (by omega)).followedBy _).mono (by omega)
  · rename_i word rest
    simp only [List.length_cons] at hn ⊢
    split
    · exact .pure _ (by omega)
    · split
      · exact .error _
      · rename_i inner _
        refine (h.stmt inner word rest (by omega)).elim .error fun stmt more hmore => ?_
        dsimp only
        refine expect_elim _ _ more .error fun last hlast => ?_
        exact ((h.body depth stops last (by omega)).followedBy _).mono (by omega)
  · exact .error _

theorem parseStmt (word : String) (hn : 16 * tokens.length + 9 ≤ n + 1) :
    Agrees (tokens.length + 1) (parseStmt (n + 1) depth word tokens)
      (parseStmt (f + 1) depth word tokens) := by
  rw [Template.parseStmt, Template.parseStmt]
  split
  · exact h.branch depth tokens (by omega)
  split
  · refine ((targetsAgree h.le).target false tokens (by omega)).elim .error ?_
    intro target rest hrest
    dsimp only
    refine expect_elim _ _ rest .error fun start hstart => ?_
    dsimp only
    refine ((exprsAgree h.le).or depth start (by omega)).elim .error fun source more hmore => ?_
    exact (h.loop depth target source more (by omega)).mono (by omega)
  split
  · exact h.set depth tokens (by omega)
  split
  · refine (expectName_fewer tokens).elim .error fun name rest hrest => ?_
    dsimp only
    refine expect_elim _ _ rest .error fun start hstart => ?_
    dsimp only
    refine (parseParameters_agrees h.le depth true false start (by omega)).elim .error ?_
    intro parameters more hmore
    dsimp only
    refine expect_elim _ _ more .error fun last hlast => ?_
    dsimp only
    refine (h.body depth _ last (by omega)).elim .error ?_
    rintro ⟨body, stop⟩ final hfinal
    cases stop with
    | none => exact .error _
    | some stop => exact .pure _ (by omega)
  · exact .error _

theorem parseSet (hn : 16 * tokens.length + 4 ≤ n + 1) :
    Agrees (tokens.length + 1) (parseSet (n + 1) depth tokens)
      (parseSet (f + 1) depth tokens) := by
  rw [Template.parseSet, Template.parseSet]
  refine ((targetsAgree h.le).target true tokens (by omega)).elim .error ?_
  intro target rest hrest
  dsimp only
  split
  · exact (h.binding depth target rest (by omega)).mono hrest
  · split
    · rename_i more
      rw [List.length_cons] at hrest
      exact (h.capture depth target [] more (by omega)).mono (by omega)
    · rename_i more
      rw [List.length_cons] at hrest
      refine (h.filterChain depth true more (by omega)).elim .error fun filters last hlast => ?_
      cases filters with
      | nil => exact .error _
      | cons filter filters => exact (h.capture depth target _ last (by omega)).mono (by omega)
    · exact (h.binding depth target rest (by omega)).mono hrest

theorem parseBinding (target : Target) (hn : 16 * tokens.length + 1 ≤ n + 1) :
    Agrees (tokens.length + 1) (parseBinding (n + 1) depth target tokens)
      (parseBinding (f + 1) depth target tokens) := by
  rw [Template.parseBinding, Template.parseBinding]
  refine expect_elim _ _ tokens .error fun rest hrest => ?_
  dsimp only
  refine ((exprsAgree h.le).expr depth rest (by omega)).elim .error fun value more hmore => ?_
  split
  · contradiction
  · rename_i last heq
    cases heq
    refine (h.moreValues depth (_ :: last) (by omega)).elim .error fun values final hfinal => ?_
    exact .pure _ (by omega)
  · rename_i heq
    cases heq
    exact .pure _ (by omega)

theorem parseMoreValues (hn : 16 * tokens.length + 1 ≤ n + 1) :
    Agrees (tokens.length + 1) (parseMoreValues (n + 1) depth tokens)
      (parseMoreValues (f + 1) depth tokens) := by
  unfold Template.parseMoreValues
  split
  · exact .pure _ (by simp only [List.length_cons]; omega)
  · rename_i rest _
    rw [List.length_cons] at hn ⊢
    refine ((exprsAgree h.le).expr depth rest (by omega)).elim .error fun value more hmore => ?_
    dsimp only
    refine (h.moreValues depth more (by omega)).elim .error fun values last hlast => ?_
    exact .pure _ (by omega)
  · exact .pure _ (Nat.lt_succ_self _)

theorem parseFilterChain (first : Bool) (hn : 16 * tokens.length + 1 ≤ n + 1) :
    Agrees (tokens.length + 1) (parseFilterChain (n + 1) depth first tokens)
      (parseFilterChain (f + 1) depth first tokens) := by
  unfold Template.parseFilterChain
  split
  · exact .pure _ (by simp only [List.length_cons]; omega)
  · refine start_elim first _ _ tokens .error fun start hstart => ?_
    dsimp only
    refine (callableName_fewer start).elim .error fun name rest hrest => ?_
    split
    · contradiction
    · rename_i more heq
      cases heq
      rw [List.length_cons] at hrest
      refine ((exprsAgree h.le).arguments depth more (by omega)).elim .error ?_
      intro arguments last hlast
      dsimp only
      refine (h.filterChain depth false last (by omega)).elim .error fun filters final hfinal => ?_
      exact .pure _ (by omega)
    · rename_i heq
      cases heq
      refine (h.filterChain depth false rest (by omega)).elim .error fun filters final hfinal => ?_
      exact .pure _ (by omega)

theorem parseCapture (target : Target) (filters : List (String × List Expr))
    (hn : 16 * tokens.length + 2 ≤ n + 1) :
    Agrees (tokens.length + 1) (parseCapture (n + 1) depth target filters tokens)
      (parseCapture (f + 1) depth target filters tokens) := by
  rw [Template.parseCapture, Template.parseCapture]
  refine (h.body depth _ tokens (by omega)).elim .error ?_
  rintro ⟨body, stop⟩ rest hrest
  cases stop with
  | none => exact .error _
  | some stop => exact .pure _ hrest

theorem parseBranch (hn : 16 * tokens.length + 8 ≤ n + 1) :
    Agrees (tokens.length + 1) (parseBranch (n + 1) depth tokens)
      (parseBranch (f + 1) depth tokens) := by
  rw [Template.parseBranch, Template.parseBranch]
  refine ((exprsAgree h.le).or depth tokens (by omega)).elim .error fun condition rest hrest => ?_
  dsimp only
  refine expect_elim _ _ rest .error fun start hstart => ?_
  dsimp only
  refine (h.body depth _ start (by omega)).elim .error ?_
  rintro ⟨yes, stop⟩ more hmore
  split
  · contradiction
  · rename_i heq
    cases heq
    exact .pure _ (by omega)
  · rename_i heq
    cases heq
    refine (h.branch depth more (by omega)).elim .error fun next last hlast => ?_
    exact .pure _ (by omega)
  · rename_i heq
    cases heq
    refine expect_elim _ _ more .error fun other hother => ?_
    dsimp only
    refine (h.body depth _ other (by omega)).elim .error ?_
    rintro ⟨no, stop⟩ last hlast
    cases stop with
    | none => exact .error _
    | some stop => exact .pure _ (by omega)
  · exact .error _

theorem parseLoop (target : Target) (source : Expr) (hn : 16 * tokens.length + 1 ≤ n + 1) :
    Agrees (tokens.length + 1) (parseLoop (n + 1) depth target source tokens)
      (parseLoop (f + 1) depth target source tokens) := by
  rw [Template.parseLoop, Template.parseLoop]
  refine expect_elim _ _ tokens .error fun start hstart => ?_
  dsimp only
  refine (h.body depth _ start (by omega)).elim .error ?_
  rintro ⟨body, stop⟩ more hmore
  split
  · contradiction
  · rename_i heq
    cases heq
    exact .pure _ (by omega)
  · rename_i heq
    cases heq
    refine expect_elim _ _ more .error fun other hother => ?_
    dsimp only
    refine (h.body depth _ other (by omega)).elim .error ?_
    rintro ⟨alternative, stop⟩ last hlast
    cases stop with
    | none => exact .error _
    | some stop => exact .pure _ (by omega)
  · exact .error _

end StmtsAgree

/-- Fuel beyond what statements may need makes no difference to them. -/
theorem stmtsAgree : ∀ {n f : Nat}, n ≤ f → StmtsAgree n f
  | 0, f, _ => by constructor <;> intros <;> omega
  | n + 1, 0, h => by cases h
  | n + 1, f + 1, h => by
    have hagree : StmtsAgree n f := stmtsAgree (Nat.le_of_succ_le_succ h)
    exact {
      le := h
      body depth stops _ := hagree.parseBody depth stops
      stmt depth word _ := hagree.parseStmt depth word
      set depth _ := hagree.parseSet depth
      binding depth target _ := hagree.parseBinding depth target
      moreValues depth _ := hagree.parseMoreValues depth
      filterChain depth first _ := hagree.parseFilterChain depth first
      capture depth target filters _ := hagree.parseCapture depth target filters
      branch depth _ := hagree.parseBranch depth
      loop depth target source _ := hagree.parseLoop depth target source }

/-! ## Sources -/

/-- A source is parsed as with any larger amount of fuel: whether it is a template, and which one,
does not depend on the fuel that `parse` sets out with. -/
theorem parse_fuel_irrelevant {source : List Char} {tokens : List Token}
    (htokens : tokenize source = .ok tokens) {fuel : Nat}
    (hfuel : 16 * (tokens.length + 1) ≤ fuel) :
    parse source = (parseBody fuel 0 [] tokens).map fun result => result.1.1 := by
  rw [← ((stmtsAgree hfuel).body 0 [] tokens (by omega)).eq]
  unfold parse
  rw [htokens]
  dsimp only
  cases parseBody (16 * (tokens.length + 1)) 0 [] tokens with
  | error e => rfl
  | ok result => rfl

end ApiStubs.Template
