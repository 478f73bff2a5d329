import ApiStubs.Asset.Builtin
import ApiStubs.Proofs.Text.Utf8
import ApiStubs.Template.Parser

/-!
# Recognising a compiled template

Trees are compared by a function, so what a fixed source compiles to can be checked by computing.
The characters of its lines are taken from their octets, which computes faster.  The shapes that
trees are mostly made of have short forms.
-/

namespace ApiStubs.Template

/-! ## Characters from octets -/

/-- The characters of a text, read from its octets. -/
def octetChars (s : String) : List Char := (Utf8.chars? s.toByteArray.data.toList).getD []

theorem octetChars_eq (s : String) : octetChars s = s.toList := by
  have hoctets : s.toByteArray.data.toList = s.toList.flatMap String.utf8EncodeChar := by
    rw [← String.utf8Encode_toList, List.utf8Encode, List.data_toByteArray]
  rw [octetChars, hoctets, Utf8.chars?_flatMap]
  rfl

/-- The characters of lines, each with its end, read from octets. -/
def octetLines (lines : List String) : List Char :=
  lines.flatMap fun line => octetChars line ++ ['\n']

theorem octetLines_eq (lines : List String) : octetLines lines = Asset.linesChars lines := by
  simp only [octetLines, Asset.linesChars, octetChars_eq]

/-! ## Shorthand for trees -/

/-- A member of what a name stands for. -/
def Expr.dot (subject name : String) : Expr := .member (.name subject) name

/-- Whether a member is a text. -/
def Expr.is (subject name text : String) : Expr :=
  .compare (.dot subject name) [(.equal, .literal (.text text))]

/-- Whether a member is another value than a text. -/
def Expr.isNot (subject name text : String) : Expr :=
  .compare (.dot subject name) [(.unequal, .literal (.text text))]

/-- Write a text, given by its octets. -/
def Stmt.say (content : String) : Stmt := .text (octetChars content)

/-- Print a member of what a name stands for. -/
def Stmt.put (subject name : String) : Stmt := .print (.dot subject name)

/-- Statements that run where a condition holds. -/
def Stmt.when (condition : Expr) (body : List Stmt) : Stmt := .branch condition body []

/-- Statements that run once per item. -/
def Stmt.forEach (name : String) (source : Expr) (body : List Stmt) : Stmt :=
  .loop (.name name) source body []

/-! ## Comparing trees -/

mutual

/-- Whether two expressions are the same. -/
def Expr.alike : Expr → Expr → Bool
  | .literal a, .literal b => a == b
  | .name a, .name b => a == b
  | .list as, .list bs => Expr.allAlike as bs
  | .member a n, .member b m => a.alike b && n == m
  | .item a i, .item b j => a.alike b && i.alike j
  | .negate a, .negate b => a.alike b
  | .not a, .not b => a.alike b
  | .and a c, .and b d => a.alike b && c.alike d
  | .or a c, .or b d => a.alike b && c.alike d
  | .add a c, .add b d => a.alike b && c.alike d
  | .compare a ls, .compare b ms => a.alike b && Expr.linksAlike ls ms
  | .filter a n as, .filter b m bs => a.alike b && n == m && Expr.allAlike as bs
  | .test a n as, .test b m bs => a.alike b && n == m && Expr.allAlike as bs
  | .call a as, .call b bs => a.alike b && Expr.allAlike as bs
  | .named es, .named fs => Expr.entriesAlike es fs
  | _, _ => false

/-- Whether two lists hold the same expressions. -/
def Expr.allAlike : List Expr → List Expr → Bool
  | [], [] => true
  | a :: as, b :: bs => a.alike b && Expr.allAlike as bs
  | _, _ => false

/-- Whether two lists hold the same comparisons. -/
def Expr.linksAlike : List (Comparison × Expr) → List (Comparison × Expr) → Bool
  | [], [] => true
  | (o, a) :: as, (p, b) :: bs => o == p && a.alike b && Expr.linksAlike as bs
  | _, _ => false

/-- Whether two lists hold the same arguments under the same names. -/
def Expr.entriesAlike : List (String × Expr) → List (String × Expr) → Bool
  | [], [] => true
  | (n, a) :: as, (m, b) :: bs => n == m && a.alike b && Expr.entriesAlike as bs
  | _, _ => false

end

mutual

theorem Expr.eq_of_alike : ∀ {a b : Expr}, a.alike b = true → a = b
  | .literal a, b, h => by cases b <;> simp_all [alike]
  | .name a, b, h => by cases b <;> simp_all [alike]
  | .list as, b, h => by
      cases b <;> simp only [alike, Bool.false_eq_true] at h
      rw [Expr.eq_of_allAlike h]
  | .member a n, b, h => by
      cases b <;> simp only [alike, Bool.and_eq_true, beq_iff_eq, Bool.false_eq_true] at h
      rw [Expr.eq_of_alike h.1, h.2]
  | .item a i, b, h => by
      cases b <;> simp only [alike, Bool.and_eq_true, Bool.false_eq_true] at h
      rw [Expr.eq_of_alike h.1, Expr.eq_of_alike h.2]
  | .negate a, b, h => by
      cases b <;> simp only [alike, Bool.false_eq_true] at h
      rw [Expr.eq_of_alike h]
  | .not a, b, h => by
      cases b <;> simp only [alike, Bool.false_eq_true] at h
      rw [Expr.eq_of_alike h]
  | .and a c, b, h => by
      cases b <;> simp only [alike, Bool.and_eq_true, Bool.false_eq_true] at h
      rw [Expr.eq_of_alike h.1, Expr.eq_of_alike h.2]
  | .or a c, b, h => by
      cases b <;> simp only [alike, Bool.and_eq_true, Bool.false_eq_true] at h
      rw [Expr.eq_of_alike h.1, Expr.eq_of_alike h.2]
  | .add a c, b, h => by
      cases b <;> simp only [alike, Bool.and_eq_true, Bool.false_eq_true] at h
      rw [Expr.eq_of_alike h.1, Expr.eq_of_alike h.2]
  | .compare a ls, b, h => by
      cases b <;> simp only [alike, Bool.and_eq_true, Bool.false_eq_true] at h
      rw [Expr.eq_of_alike h.1, Expr.eq_of_linksAlike h.2]
  | .filter a n as, b, h => by
      cases b <;> simp only [alike, Bool.and_eq_true, beq_iff_eq, Bool.false_eq_true] at h
      rw [Expr.eq_of_alike h.1.1, h.1.2, Expr.eq_of_allAlike h.2]
  | .test a n as, b, h => by
      cases b <;> simp only [alike, Bool.and_eq_true, beq_iff_eq, Bool.false_eq_true] at h
      rw [Expr.eq_of_alike h.1.1, h.1.2, Expr.eq_of_allAlike h.2]
  | .call a as, b, h => by
      cases b <;> simp only [alike, Bool.and_eq_true, Bool.false_eq_true] at h
      rw [Expr.eq_of_alike h.1, Expr.eq_of_allAlike h.2]
  | .named es, b, h => by
      cases b <;> simp only [alike, Bool.false_eq_true] at h
      rw [Expr.eq_of_entriesAlike h]

theorem Expr.eq_of_allAlike : ∀ {as bs : List Expr}, Expr.allAlike as bs = true → as = bs
  | [], bs, h => by cases bs <;> simp_all [Expr.allAlike]
  | a :: as, bs, h => by
      cases bs <;> simp only [Expr.allAlike, Bool.and_eq_true, Bool.false_eq_true] at h
      rw [Expr.eq_of_alike h.1, Expr.eq_of_allAlike h.2]

theorem Expr.eq_of_linksAlike : ∀ {as bs : List (Comparison × Expr)},
    Expr.linksAlike as bs = true → as = bs
  | [], [], _ => rfl
  | [], _ :: _, h => by simp only [Expr.linksAlike, Bool.false_eq_true] at h
  | _ :: _, [], h => by simp only [Expr.linksAlike, Bool.false_eq_true] at h
  | (o, a) :: as, (p, b) :: bs, h => by
      simp only [Expr.linksAlike, Bool.and_eq_true, beq_iff_eq] at h
      rw [h.1.1, Expr.eq_of_alike h.1.2, Expr.eq_of_linksAlike h.2]

theorem Expr.eq_of_entriesAlike : ∀ {as bs : List (String × Expr)},
    Expr.entriesAlike as bs = true → as = bs
  | [], [], _ => rfl
  | [], _ :: _, h => by simp only [Expr.entriesAlike, Bool.false_eq_true] at h
  | _ :: _, [], h => by simp only [Expr.entriesAlike, Bool.false_eq_true] at h
  | (n, a) :: as, (m, b) :: bs, h => by
      simp only [Expr.entriesAlike, Bool.and_eq_true, beq_iff_eq] at h
      rw [h.1.1, Expr.eq_of_alike h.1.2, Expr.eq_of_entriesAlike h.2]

end

mutual

/-- Whether two targets are the same. -/
def Target.alike : Target → Target → Bool
  | .name a, .name b => a == b
  | .tuple as, .tuple bs => Target.allAlike as bs
  | .member a n, .member b m => a.alike b && n == m
  | _, _ => false

/-- Whether two lists hold the same targets. -/
def Target.allAlike : List Target → List Target → Bool
  | [], [] => true
  | a :: as, b :: bs => a.alike b && Target.allAlike as bs
  | _, _ => false

end

mutual

theorem Target.eq_of_alike : ∀ {a b : Target}, a.alike b = true → a = b
  | .name a, b, h => by cases b <;> simp_all [alike]
  | .tuple as, b, h => by
      cases b <;> simp only [alike, Bool.false_eq_true] at h
      rw [Target.eq_of_allAlike h]
  | .member a n, b, h => by
      cases b <;> simp only [alike, Bool.and_eq_true, beq_iff_eq, Bool.false_eq_true] at h
      rw [Target.eq_of_alike h.1, h.2]

theorem Target.eq_of_allAlike : ∀ {as bs : List Target}, Target.allAlike as bs = true → as = bs
  | [], [], _ => rfl
  | a :: as, b :: bs, h => by
      simp only [Target.allAlike, Bool.and_eq_true] at h
      rw [Target.eq_of_alike h.1, Target.eq_of_allAlike h.2]

end

/-- Whether two defaults are the same. -/
def defaultsAlike : Option Expr → Option Expr → Bool
  | none, none => true
  | some a, some b => a.alike b
  | _, _ => false

theorem eq_of_defaultsAlike : ∀ {a b : Option Expr}, defaultsAlike a b = true → a = b
  | none, none, _ => rfl
  | some _, some _, h => congrArg some (Expr.eq_of_alike h)

/-- Whether two lists hold the same parameters. -/
def parametersAlike : List Parameter → List Parameter → Bool
  | [], [] => true
  | p :: ps, q :: qs => p.name == q.name && defaultsAlike p.default q.default &&
    parametersAlike ps qs
  | _, _ => false

theorem eq_of_parametersAlike : ∀ {ps qs : List Parameter}, parametersAlike ps qs = true → ps = qs
  | [], [], _ => rfl
  | ⟨n, d⟩ :: ps, ⟨m, e⟩ :: qs, h => by
      simp only [parametersAlike, Bool.and_eq_true, beq_iff_eq] at h
      rw [h.1.1, eq_of_defaultsAlike h.1.2, eq_of_parametersAlike h.2]

/-- Whether two lists hold the same filters. -/
def filtersAlike : List (String × List Expr) → List (String × List Expr) → Bool
  | [], [] => true
  | (n, as) :: fs, (m, bs) :: gs => n == m && Expr.allAlike as bs && filtersAlike fs gs
  | _, _ => false

theorem eq_of_filtersAlike :
    ∀ {fs gs : List (String × List Expr)}, filtersAlike fs gs = true → fs = gs
  | [], [], _ => rfl
  | (n, as) :: fs, (m, bs) :: gs, h => by
      simp only [filtersAlike, Bool.and_eq_true, beq_iff_eq] at h
      rw [h.1.1, Expr.eq_of_allAlike h.1.2, eq_of_filtersAlike h.2]

mutual

/-- Whether two statements are the same. -/
def Stmt.alike : Stmt → Stmt → Bool
  | .text a, .text b => a == b
  | .print a, .print b => a.alike b
  | .branch a ys ns, .branch b zs ms => a.alike b && Stmt.allAlike ys zs && Stmt.allAlike ns ms
  | .loop t a xs ys, .loop u b zs ws =>
    t.alike u && a.alike b && Stmt.allAlike xs zs && Stmt.allAlike ys ws
  | .assign t a, .assign u b => t.alike u && a.alike b
  | .capture t fs xs, .capture u gs ys => t.alike u && filtersAlike fs gs && Stmt.allAlike xs ys
  | .define n ps xs, .define m qs ys => n == m && parametersAlike ps qs && Stmt.allAlike xs ys
  | _, _ => false

/-- Whether two lists hold the same statements. -/
def Stmt.allAlike : List Stmt → List Stmt → Bool
  | [], [] => true
  | a :: as, b :: bs => a.alike b && Stmt.allAlike as bs
  | _, _ => false

end

mutual

theorem Stmt.eq_of_alike : ∀ {a b : Stmt}, a.alike b = true → a = b
  | .text a, b, h => by cases b <;> simp_all [alike]
  | .print a, b, h => by
      cases b <;> simp only [alike, Bool.false_eq_true] at h
      rw [Expr.eq_of_alike h]
  | .branch a ys ns, b, h => by
      cases b <;> simp only [alike, Bool.and_eq_true, Bool.false_eq_true] at h
      rw [Expr.eq_of_alike h.1.1, Stmt.eq_of_allAlike h.1.2, Stmt.eq_of_allAlike h.2]
  | .loop t a xs ys, b, h => by
      cases b <;> simp only [alike, Bool.and_eq_true, Bool.false_eq_true] at h
      rw [Target.eq_of_alike h.1.1.1, Expr.eq_of_alike h.1.1.2, Stmt.eq_of_allAlike h.1.2,
        Stmt.eq_of_allAlike h.2]
  | .assign t a, b, h => by
      cases b <;> simp only [alike, Bool.and_eq_true, Bool.false_eq_true] at h
      rw [Target.eq_of_alike h.1, Expr.eq_of_alike h.2]
  | .capture t fs xs, b, h => by
      cases b <;> simp only [alike, Bool.and_eq_true, Bool.false_eq_true] at h
      rw [Target.eq_of_alike h.1.1, eq_of_filtersAlike h.1.2, Stmt.eq_of_allAlike h.2]
  | .define n ps xs, b, h => by
      cases b <;> simp only [alike, Bool.and_eq_true, beq_iff_eq, Bool.false_eq_true] at h
      rw [h.1.1, eq_of_parametersAlike h.1.2, Stmt.eq_of_allAlike h.2]

theorem Stmt.eq_of_allAlike : ∀ {as bs : List Stmt}, Stmt.allAlike as bs = true → as = bs
  | [], [], _ => rfl
  | a :: as, b :: bs, h => by
      simp only [Stmt.allAlike, Bool.and_eq_true] at h
      rw [Stmt.eq_of_alike h.1, Stmt.eq_of_allAlike h.2]

end

/-! ## Compiling -/

/-- Whether a source is parsed into statements. -/
def yields (source : List Char) (stmts : List Stmt) : Bool :=
  match parse source with
  | .ok found => Stmt.allAlike found stmts
  | .error _ => false

/-- What a source is parsed into, once it has been computed. -/
theorem parse_of_yields {source : List Char} {stmts : List Stmt} (h : yields source stmts = true) :
    parse source = .ok stmts := by
  unfold yields at h
  split at h
  · rename_i found hfound
    rw [hfound, Stmt.eq_of_allAlike h]
  · cases h

/-- Whether lines compile to statements. -/
def compilesTo (lines : List String) (stmts : List Stmt) : Bool := yields (octetLines lines) stmts

/-- What lines compile to, once it has been computed. -/
theorem parse_of_compilesTo {lines : List String} {stmts : List Stmt}
    (h : compilesTo lines stmts = true) : parse (Asset.linesText lines).toList = .ok stmts := by
  rw [Asset.toList_linesText, ← octetLines_eq]
  exact parse_of_yields h

/-! ## Sources without tags -/

/-- Whether lines are text without a tag. -/
def isTagless (lines : List String) : Bool :=
  match octetLines lines with
  | [] => false
  | source => (nextTag source).isNone

/-- Text without a tag compiles to itself. -/
theorem parse_of_isTagless {lines : List String} (h : isTagless lines = true) :
    parse (Asset.linesText lines).toList = .ok [.say (Asset.linesText lines)] := by
  have hchars : octetLines lines = (Asset.linesText lines).toList := by
    rw [octetLines_eq, Asset.toList_linesText]
  rw [isTagless, hchars] at h
  split at h
  · cases h
  · rename_i hne
    have hempty : Asset.linesText lines ≠ "" := fun h => hne (by rw [h]; rfl)
    have htokens : tokenize (Asset.linesText lines).toList =
        .ok [.data (Asset.linesText lines).toList] := by
      simp [tokenize, tokensFrom, Option.isNone_iff_eq_none.1 h, dataToken, hempty]
    simp [parse, htokens, parseBody, followedBy, Stmt.say, octetChars_eq]

end ApiStubs.Template
