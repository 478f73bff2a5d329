import ApiStubs.Proofs.Builtin.Typescript
import ApiStubs.Proofs.OutputFiles.Runs

/-!
# The options of a method, read in two ways

A method knows its verb and its error type from the map of its options.  A template gets them in
another way: from functions that look into a value, which may hold anything, or from members that
were worked out for it.  All ways lead to the same texts, so every backend sees one verb and one
error type of a method.
-/

namespace ApiStubs

open Template

/-- What options say under a key: the text that is given there, or else a default. -/
def SortedMap.Says (options : Options) (key fallback text : String) : Prop :=
  (key, text) ∈ options.toList ∨ text = fallback ∧ ∀ other, (key, other) ∉ options.toList

/-- Options say one thing under a key. -/
theorem SortedMap.says_iff {options : Options} {key fallback text : String} :
    options.Says key fallback text ↔ text = (options.get? key).getD fallback := by
  simp only [Says, mem_toList_iff]
  cases options.get? key with
  | none => simp
  | some given =>
    constructor
    · rintro (hgiven | ⟨-, hnone⟩)
      · exact (Option.some.inj hgiven).symm
      · exact absurd rfl (hnone given)
    · rintro rfl
      exact .inl rfl

/-- What the function under a name answers for a value. -/
def Template.answer? (name : String) (v : Value) : Option (Except Fault Value) :=
  (Function.ofName? name).map fun f => f.apply [v]

namespace Method

/-- However a template reads the verb and the error type of a method off a value, it finds those of
the method: by the functions, given the options, and by the members that hold them, if the value has
any. -/
structure SeenIn (m : Method) (v : Value) : Prop where
  verb_answer : answer? "service_method" (v.member "options") = some (.ok (.text m.verb))
  error_answer : answer? "error_type" (v.member "options") = some (.ok (.text m.errorType))
  verb_member : v.member "service_type" = .text m.verb ∨ v.member "service_type" = .undefined
  error_member : v.member "error_type" = .text m.errorType ∨ v.member "error_type" = .undefined

variable (m : Method)

theorem answer?_verb :
    answer? "service_method" (optionsView m.options) = some (.ok (.text m.verb)) :=
  congrArg some (Typescript.readOption_optionsView verbOption defaultVerb m.options)

theorem answer?_errorType :
    answer? "error_type" (optionsView m.options) = some (.ok (.text m.errorType)) :=
  congrArg some (Typescript.readOption_optionsView errorOption "" m.options)

theorem seenIn_view : m.SeenIn m.view where
  verb_answer := m.answer?_verb
  error_answer := m.answer?_errorType
  verb_member := .inr rfl
  error_member := .inr rfl

theorem seenIn_routeView (service : String) : m.SeenIn (m.routeView service) where
  verb_answer := m.answer?_verb
  error_answer := m.answer?_errorType
  verb_member := .inl rfl
  error_member := .inl rfl

end Method

/-! ## What backends show -/

/-- The template of a file sees the methods of the service as these values. -/
def Sheet.ShowsMethods (sheet : Sheet) (items : List Value) : Prop :=
  ("functions", .list items) ∈ sheet.context ∨ ("methods", .list items) ∈ sheet.context

/-- Every backend writes some file whose template sees the methods. -/
theorem exists_showsMethods (backend : Backend) (request : Request) (s : Service) :
    ∃ sheet ∈ backend.plan request (some s), ∃ items, sheet.ShowsMethods items := by
  cases backend with
  | axios => exact ⟨_, List.mem_cons_self, _, .inl (.tail _ (.tail _ (.tail _ (.head _))))⟩
  | fetch => exact ⟨_, List.mem_cons_self, _, .inl (.tail _ (.tail _ (.tail _ (.head _))))⟩
  | echo => exact ⟨_, List.mem_cons_self, _, .inr (.tail _ (.head _))⟩
  | spring => exact ⟨_, List.mem_cons_self, _, .inr (.tail _ (.head _))⟩
  | php => exact ⟨_, List.mem_cons_self, _, .inr (.tail _ (.tail _ (.tail _ (.tail _ (.head _)))))⟩

section

variable {request : Request} {s : Service} {sheet : Sheet} {items : List Value}
  (hitems : sheet.ShowsMethods items)

include hitems

theorem items_of_typescriptPlan {client : String}
    (h : sheet ∈ Backend.typescriptPlan client request (some s)) :
    items = s.methods.map Method.view := by
  -- all files are written from the same names
  have hcontext : ∃ messages shown, sheet.context =
      Backend.typescriptContext request (some s) messages shown := by
    simp only [Backend.typescriptPlan, List.mem_append, List.mem_cons, List.not_mem_nil, or_false]
      at h
    rcases h with rfl | rfl | rfl <;> exact ⟨_, _, rfl⟩
  obtain ⟨messages, shown, hcontext⟩ := hcontext
  simpa [Sheet.ShowsMethods, hcontext, Backend.typescriptContext] using hitems

theorem items_of_echoPlan (h : sheet ∈ Backend.echoPlan request (some s)) :
    items = s.methods.map (·.routeView s.name) := by
  simp only [Backend.echoPlan, List.mem_append, List.mem_cons, List.not_mem_nil, or_false] at h
  rcases h with rfl | rfl
  · simpa [Sheet.ShowsMethods, Service.routes] using hitems
  · simp [Sheet.ShowsMethods] at hitems

theorem items_of_springPlan (h : sheet ∈ Backend.springPlan request (some s)) :
    items = s.methods.map (·.routeView s.name) := by
  simp only [Backend.springPlan, List.mem_append, List.mem_cons, List.not_mem_nil, or_false,
    List.mem_map] at h
  rcases h with (rfl | ⟨m, -, rfl⟩) | ⟨e, -, rfl⟩
  · simpa [Sheet.ShowsMethods, Service.routes] using hitems
  · simp [Sheet.ShowsMethods] at hitems
  · simp [Sheet.ShowsMethods] at hitems

theorem items_of_phpPlan (h : sheet ∈ Backend.phpPlan request (some s)) :
    items = s.methods.map (·.routeView s.name) := by
  obtain rfl := List.mem_singleton.1 h
  simpa [Sheet.ShowsMethods, Service.routes] using hitems

end

/-- Wherever a backend shows the methods of a service, it shows them in order, each with its verb
and its error type. -/
theorem seenIn_of_showsMethods {backend : Backend} {request : Request} {s : Service} {sheet : Sheet}
    (h : sheet ∈ backend.plan request (some s)) {items : List Value}
    (hitems : sheet.ShowsMethods items) :
    List.Forall₂ Method.SeenIn s.methods items := by
  have hviews : items = s.methods.map Method.view ∨ items = s.methods.map (·.routeView s.name) := by
    cases backend with
    | axios => exact .inl (items_of_typescriptPlan hitems h)
    | fetch => exact .inl (items_of_typescriptPlan hitems h)
    | echo => exact .inr (items_of_echoPlan hitems h)
    | spring => exact .inr (items_of_springPlan hitems h)
    | php => exact .inr (items_of_phpPlan hitems h)
  rcases hviews with rfl | rfl
  · exact List.forall₂_map_right_iff.2 (List.forall₂_same.2 fun m _ => m.seenIn_view)
  · exact List.forall₂_map_right_iff.2 (List.forall₂_same.2 fun m _ => m.seenIn_routeView s.name)

/-- The verb of a method is what its options say under `service_method`, or else POST, and its error
type what they say under `error`, or else nothing.  The functions of templates answer just that for
the options as a value, and the members of the method in any service hold it.  So every backend
shows every method of a service with its verb and its error type, in whichever way a template reads
them. -/
theorem option_readers_agree :
    (∀ m : Method,
      m.options.Says "service_method" "POST" m.verb ∧ m.options.Says "error" "" m.errorType ∧
      answer? "service_method" (optionsView m.options) = some (.ok (.text m.verb)) ∧
      answer? "error_type" (optionsView m.options) = some (.ok (.text m.errorType)) ∧
      ∀ service, (m.routeView service).member "service_type" = .text m.verb ∧
        (m.routeView service).member "error_type" = .text m.errorType) ∧
    ∀ (backend : Backend) (request : Request) (s : Service),
      (∃ sheet ∈ backend.plan request (some s), ∃ items, sheet.ShowsMethods items) ∧
      ∀ sheet ∈ backend.plan request (some s), ∀ items, sheet.ShowsMethods items →
        List.Forall₂ Method.SeenIn s.methods items := by
  refine ⟨fun m => ?_, fun backend request s => ?_⟩
  · exact ⟨SortedMap.says_iff.2 rfl, SortedMap.says_iff.2 rfl, m.answer?_verb, m.answer?_errorType,
      fun _ => ⟨rfl, rfl⟩⟩
  · exact ⟨exists_showsMethods backend request s, fun sheet hsheet items hitems =>
      seenIn_of_showsMethods hsheet hitems⟩

/-- A verb that is given as an empty text is kept as it is, and other options do not matter. -/
theorem option_readers_agree_blank :
    let find : Method :=
      ⟨"find", "Query", "Item", SortedMap.ofList [("service_method", ""), ("auth", "none")]⟩
    let shop : Service := ⟨"Shop", [find], SortedMap.empty⟩
    find.options.Says "service_method" "POST" "" ∧
    answer? "service_method" (optionsView find.options) = some (.ok (.text "")) ∧
    answer? "error_type" (optionsView find.options) = some (.ok (.text "")) ∧
    ∀ backend : Backend, ∃ sheet ∈ backend.plan Request.empty (some shop), ∃ items,
      sheet.ShowsMethods items ∧
      List.Forall₂ Method.SeenIn [find] items := by
  intro find shop
  obtain ⟨hmethods, hbackends⟩ := option_readers_agree
  obtain ⟨hverbOption, -, hverb, herror, -⟩ := hmethods find
  refine ⟨hverbOption, hverb, herror, fun backend => ?_⟩
  obtain ⟨⟨sheet, hsheet, items, hitems⟩, hseen⟩ := hbackends backend Request.empty shop
  exact ⟨sheet, hsheet, items, hitems, hseen sheet hsheet items hitems⟩

end ApiStubs
