import ApiStubs.Template.Eval
import ApiStubs.Template.Parser

/-!
# Template libraries

An engine leaves templates to a library: it opens environments, adds sources to them under names,
and renders what is found under a name.  Rendering is given the whole environment, so a template may
look at the others.  Here is what an engine asks of a library, and the library for the part of the
Jinja language that is read and interpreted in this development.

That part has text, comments and raw text; printing, conditions, loops, bindings and macros;
attributes, items, calls, filters and tests, `+`, the unary minus, `==`, `!=`, `in`, `not`, `and`
and `or`.  Of the rest of the language, the other operators (`-` between operands, `*`, `/`, `~`,
`<` and the like, the inline `if`), maps written out, slices, loops with a condition, and the
statements `with`, `filter`, `call`, `do`, `autoescape`, `block`, `include`, `import`, `from` and
`extends` are refused as sources, while the built-in filters other than `join` and `length` and all
built-in tests are unknown when a template is rendered, and `namespace` cannot be called.  So no
template of this part brings in another one; `debug` lets it see which others there are.
-/

namespace ApiStubs.Template

/-- What an engine asks of a template library. -/
structure Library where
  /-- templates under names, with the helpers for a target language -/
  Environment : Type
  /-- a template as an environment hands it out -/
  Entry : Type
  /-- what a template is rendered against -/
  Context : Type
  /-- the environment for a language, before any source is added -/
  opened : Language → Environment
  /-- add a source under a name: how that went, and the environment afterwards -/
  add : Environment → String → String → Except SyntaxFault Unit × Environment
  /-- the template under a name -/
  find : Environment → String → Except Fault Entry
  /-- render a template of an environment -/
  render : Environment → Entry → Context → Except Fault String

/-! ## The library of this development -/

/-- A template and the name it was compiled under. -/
structure Compiled where
  name : String
  stmts : List Stmt
  deriving Repr, Inhabited

/-- The templates compiled for a language. -/
structure Environment where
  language : Language
  templates : SortedMap (List Stmt)
  deriving Repr, Inhabited

namespace Environment

/-- The environment with a source compiled under a name; one that is refused leaves it as it was. -/
def add (environment : Environment) (name source : String) :
    Except SyntaxFault Unit × Environment :=
  match parse source.toList with
  | .error e => (.error e, environment)
  | .ok stmts => (.ok (), { environment with templates := environment.templates.insert name stmts })

/-- The template under a name. -/
def find (environment : Environment) (name : String) : Except Fault Compiled :=
  match environment.templates.get? name with
  | none => .error (.unknownTemplate name)
  | some stmts => .ok ⟨name, stmts⟩

/-- A template rendered among the others. -/
def render (environment : Environment) (template : Compiled) (context : Names) :
    Except Fault String :=
  Template.render environment.language template.name environment.templates.keys context
    template.stmts

end Environment

/-- The library that reads and interprets templates here. -/
abbrev jinja : Library where
  Environment := Environment
  Entry := Compiled
  Context := Names
  opened language := ⟨language, SortedMap.empty⟩
  add := Environment.add
  find := Environment.find
  render := Environment.render

end ApiStubs.Template
