import ApiStubs.Data.Lists
import ApiStubs.Template.Callable

/-!
# The types that methods mention

The function `import_types` reads two members of every method, the input type before the output
type, and lists the names that it finds, each where it is mentioned first.  What has been listed at
any time are the names read so far without their repetitions.  The first member that is no text ends
the reading, whatever comes after it.
-/

namespace ApiStubs.Template

/-- The names read so far, without repetitions, stay so with one more name. -/
theorem addNew_eraseDups (read : List String) (name : String) :
    addNew read.eraseDups name = (read ++ [name]).eraseDups := by
  simp only [Lists.eraseDups_append_singleton, addNew, List.contains_iff_mem, List.mem_eraseDups]

/-! ## Reading members -/

/-- The members of methods that name types, in the order in which they are read. -/
def typeMembers (methods : List Value) : List (String × Value) :=
  methods.flatMap fun method =>
    [("input_type", method.member "input_type"), ("output_type", method.member "output_type")]

theorem typeMembers_cons (method : Value) (rest : List Value) :
    typeMembers (method :: rest) = ("input_type", method.member "input_type") ::
      ("output_type", method.member "output_type") :: typeMembers rest := rfl

theorem isUndefined_of_map {v : Value} (h : v.kind = .map) : v.isUndefined = false := by
  cases v <;> first | rfl | cases h

section

variable {method : Value} (hmap : method.kind = .map) {name : String}

include hmap

theorem methodText_of_text {s : String} (h : method.member name = .text s) :
    methodText method name = .ok s := by
  rw [methodText, isUndefined_of_map hmap, h]
  rfl

theorem methodText_of_not_text (h : ∀ s, method.member name ≠ .text s) :
    methodText method name = .error (.methodWithout name) := by
  rw [methodText, isUndefined_of_map hmap]
  split
  · contradiction
  · split
    · rename_i s hs
      exact absurd hs (h s)
    · rfl

end

/-- From methods that name all their types the names are listed after those read before. -/
theorem collectTypes_names {methods : List Value} (hmaps : ∀ method ∈ methods, method.kind = .map)
    {names : List String} (h : (typeMembers methods).map Prod.snd = names.map .text)
    (read : List String) :
    collectTypes read.eraseDups methods = .ok (read ++ names).eraseDups := by
  induction methods generalizing names read with
  | nil =>
    obtain rfl : names = [] := by simpa [typeMembers] using h
    rw [collectTypes, List.append_nil]
  | cons method rest ih =>
    obtain ⟨hmap, hrest⟩ := List.forall_mem_cons.1 hmaps
    rw [typeMembers_cons, List.map_cons, List.map_cons] at h
    obtain ⟨input, others, rfl, hinput, hothers⟩ := List.map_eq_cons_iff.1 h.symm
    obtain ⟨output, more, rfl, houtput, hmore⟩ := List.map_eq_cons_iff.1 hothers
    rw [collectTypes, methodText_of_text hmap hinput.symm, methodText_of_text hmap houtput.symm]
    show collectTypes (addNew (addNew read.eraseDups input) output) rest = _
    rw [addNew_eraseDups, addNew_eraseDups, ih hrest hmore.symm, List.append_assoc,
      List.append_assoc]
    rfl

/-- The first member that is no text is reported, whatever comes after it. -/
theorem collectTypes_without {methods : List Value} (hmaps : ∀ method ∈ methods, method.kind = .map)
    {before after : List (String × Value)} {name : String} {value : Value}
    (h : typeMembers methods = before ++ (name, value) :: after)
    (hbefore : ∀ member ∈ before, ∃ s, member.2 = .text s) (hvalue : ∀ s, value ≠ .text s)
    (read : List String) (later : List Value) :
    collectTypes read (methods ++ later) = .error (.methodWithout name) := by
  induction methods generalizing before read with
  | nil => simp [typeMembers] at h
  | cons method rest ih =>
    obtain ⟨hmap, hrest⟩ := List.forall_mem_cons.1 hmaps
    rw [typeMembers_cons] at h
    rw [List.cons_append, collectTypes]
    -- the member stands first, second or among those of the methods after this one
    match before, h, hbefore with
    | [], h, _ =>
      obtain ⟨⟨rfl, rfl⟩, -⟩ : (_ = name ∧ _ = value) ∧ _ := by simpa using h
      rw [methodText_of_not_text hmap hvalue]
    | [_], h, hbefore =>
      obtain ⟨rfl, ⟨rfl, rfl⟩, -⟩ : _ = _ ∧ (_ = name ∧ _ = value) ∧ _ := by simpa using h
      obtain ⟨input, hinput⟩ := hbefore _ List.mem_cons_self
      rw [methodText_of_text hmap hinput, methodText_of_not_text hmap hvalue]
    | _ :: _ :: more, h, hbefore =>
      simp only [List.cons_append, List.cons.injEq] at h
      obtain ⟨rfl, rfl, hmore⟩ := h
      obtain ⟨⟨input, hinput⟩, ⟨output, houtput⟩, htexts⟩ :
          (∃ s, _) ∧ (∃ s, _) ∧ ∀ member ∈ more, ∃ s, _ := by
        simpa only [List.forall_mem_cons] using hbefore
      rw [methodText_of_text hmap hinput, methodText_of_text hmap houtput]
      exact ih hrest hmore htexts _

/-- For methods that are maps the function `import_types` looks at their input and output types in
order.  If all are texts, it lists each name where it is mentioned first, so no name twice, all that
are mentioned, in the order in which they come first.  Otherwise it fails over the first one that is
no text and says which of the two it is, whatever methods or other values come after. -/
theorem importTypes_first_mentions {methods : List Value}
    (hmaps : ∀ method ∈ methods, method.kind = .map) :
    (∀ names : List String, (typeMembers methods).map Prod.snd = names.map .text →
      Function.importTypes.apply [.list methods] = .ok (.list (names.eraseDups.map .text)) ∧
      names.eraseDups.Nodup ∧ (∀ name, name ∈ names.eraseDups ↔ name ∈ names) ∧
      names.eraseDups.Pairwise fun first second => names.idxOf first < names.idxOf second) ∧
    ∀ before name value after later, typeMembers methods = before ++ (name, value) :: after →
      (∀ member ∈ before, ∃ s, member.2 = .text s) → (∀ s, value ≠ .text s) →
      ∃ fault, Function.importTypes.apply [.list (methods ++ later)] = .error fault ∧
        fault.detail? = some ("method has no string " ++ name) := by
  refine ⟨fun names hnames => ?_, fun before name value after later hmembers hbefore hvalue => ?_⟩
  · refine ⟨?_, Lists.nodup_eraseDups names, fun _ => List.mem_eraseDups,
      Lists.pairwise_eraseDups names⟩
    have hcollect : collectTypes [] methods = .ok names.eraseDups :=
      collectTypes_names hmaps hnames []
    rw [Function.apply, unary, importedTypes, Value.items?]
    simp only [hcollect]
  · refine ⟨.methodWithout name, ?_, rfl⟩
    have hcollect := collectTypes_without hmaps hmembers hbefore hvalue [] later
    rw [Function.apply, unary, importedTypes, Value.items?]
    simp only [hcollect]

/-- A method whose types are given by values. -/
def typedMethod (input output : Value) :
    Value := .map [("output_type", output), ("input_type", input)]

/-- A name that is mentioned again, in the same method or later, is listed once.  Of two methods
that lack something the first is reported, and an undefined value after it does not matter. -/
theorem importTypes_first_mentions_repeated :
    let query := typedMethod (.text "Query") (.text "Item")
    let same := typedMethod (.text "Item") (.text "Item")
    let count := typedMethod (.text "Query") (.int .signed64 3)
    let blank := typedMethod .none .none
    (∀ method ∈ [query, same, count, blank], method.kind = .map) ∧
    Function.importTypes.apply [.list [query, same, query]] =
      .ok (.list [.text "Query", .text "Item"]) ∧
    ∃ fault, Function.importTypes.apply [.list [query, count, blank, .undefined]] = .error fault ∧
      fault.detail? = some "method has no string output_type" := by
  intro query same count blank
  have hmaps : ∀ method ∈ [query, same, count, blank], method.kind = .map := by decide
  have hrepeated : ∀ method ∈ [query, same, query], method.kind = .map := by decide
  have hfirst : ∀ method ∈ [query, count], method.kind = .map := by decide
  refine ⟨hmaps, ?_, ?_⟩
  · have hnames :=
      (importTypes_first_mentions hrepeated).1 ["Query", "Item", "Item", "Item", "Query", "Item"]
        rfl
    exact hnames.1
  · exact (importTypes_first_mentions hfirst).2
      [("input_type", .text "Query"), ("output_type", .text "Item"), ("input_type", .text "Query")]
      "output_type" (.int .signed64 3) [] [blank, .undefined] rfl (by simp) (by simp)

end ApiStubs.Template
