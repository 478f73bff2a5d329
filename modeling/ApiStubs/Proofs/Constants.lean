import ApiStubs.Proofs.Imports
import ApiStubs.Proofs.Json.Place
import ApiStubs.Proofs.Json.Writing
import ApiStubs.Proofs.Schema.Respelling

/-!
# Constants from the request to the files

The value of a constant is read from a number of the request and written into the declaration of the
constant.  A number is accepted there exactly if it is the plain decimal text of a 32-bit integer,
and that text is what every backend writes.
-/

namespace ApiStubs

open Json

/-! ## Places for values -/

/-- A place for the value of a constant, by the indices of the enumeration in the request and of the
constant in the enumeration.  Each record around it is an object or a list. -/
inductive Request.ValuePlace (i j : Nat) : (Tree → Tree) → Prop where
  | intro {enums enumeration fields constant value : Tree → Tree} :
    Request.layout.Place "enums" enums → ItemPlace i enumeration →
    Enumeration.layout.Place "fields" fields → ItemPlace j constant →
    EnumValue.layout.Place "value" value →
    ValuePlace i j (enums ∘ enumeration ∘ fields ∘ constant ∘ value)

/-- If anything in the place gives a request, then the rest of the request is settled, and it has
the integer from the place as the value of the constant. -/
theorem Request.ValuePlace.exists_carries {i j : Nat} {place : Tree → Tree}
    (h : ValuePlace i j place) {t : Tree} {r : Request}
    (ht : Request.layout.view (place t) = some r) :
    ∃ build, Carries Request.layout.view place Tree.int32? build ∧
      ∀ n, ∃ e v, (build n).enums[i]? = some e ∧ e.values[j]? = some v ∧ v.value = n := by
  obtain ⟨henums, henumeration, hfields, hconstant, hvalue⟩ := h
  have hconstants := EnumValue.layout.reads EnumValue.wellFormed.lawful
  have henumerations := Enumeration.layout.reads Enumeration.wellFormed.lawful
  obtain ⟨request, houter⟩ := henums.exists_carries wellFormed (reads_list henumerations)
    (.tail _ (.tail _ (.tail _ (.tail _ (.head _))))) ht
  obtain ⟨es, hes⟩ := houter.exists_inner ht
  obtain ⟨list, hitem, hi⟩ := henumeration.exists_carries hes
  obtain ⟨e, he⟩ := hitem.exists_inner hes
  obtain ⟨enumeration, hinner⟩ :=
    hfields.exists_carries Enumeration.wellFormed (reads_list hconstants)
    (.tail _ (.head _)) he
  obtain ⟨vs, hvs⟩ := hinner.exists_inner he
  obtain ⟨constants, helement, hj⟩ := hconstant.exists_carries hvs
  obtain ⟨v, hv⟩ := helement.exists_inner hvs
  obtain ⟨constant, hcore⟩ :=
    hvalue.exists_carries EnumValue.wellFormed reads_int32 (.tail _ (.head _)) hv
  exact ⟨_, houter.comp (hitem.comp (hinner.comp (helement.comp hcore))), fun n =>
    ⟨{ enumeration with values := constants { constant with value := n } },
      { constant with value := n }, hi _, hj _, rfl⟩⟩

/-! ## Declarations -/

namespace Backend

/-- The file that declares an enumeration. -/
def enumFile (backend : Backend) (request : Request) (e : Enumeration) : String :=
  match backend with
  | .axios | .fetch => base ++ "Objs.ts"
  | .echo => base ++ "Objs.go"
  | .spring => classPath request e.name
  | .php => base ++ ".php"
where
  /-- What the names of files start with. -/
  base : String := request.baseNameOf request.services.head?

/-- What stands in front of the constants of an enumeration. -/
def enumOpening (backend : Backend) (e : Enumeration) : String :=
  match backend with
  | .axios | .fetch => Text.concat ["\nexport enum ", e.name, " \x7b\n"]
  | .echo => Text.concat ["\ntype ", e.name, " int\n\nconst (\n"]
  | .spring => Text.concat ["\npublic enum ", e.name, " \x7b\n"]
  | .php => Text.concat ["\nfinal class ", e.name, "\n\x7b\n"]

/-- The declaration of a constant with its number as a text.  In Java the declarations make up a
list, which the last one ends. -/
def constantText (backend : Backend) (e : Enumeration) (last : Bool)
    (name number : String) : String :=
  match backend with
  | .axios | .fetch => Text.concat ["    ", name, " = ", number, ",\n"]
  | .echo => Text.concat ["\t", name, " ", e.name, " = ", number, "\n"]
  | .spring => Text.concat ["    ", name, "(", number, ")", if last = true then ";" else ",", "\n"]
  | .php => Text.concat ["    const ", name, " = ", number, ";\n"]

/-- What stands behind the constants of an enumeration. -/
def enumClosing : Backend → String
  | .axios | .fetch | .php => "\x7d\n"
  | .echo => ")\n"
  | .spring => "\n"

/-- The declarations of the constants of an enumeration. -/
def constantTexts (backend : Backend) (e : Enumeration) : List String :=
  e.values.mapIdx fun k v =>
    backend.constantText e (k + 1 == e.values.length) v.name (Text.decimal v.value.toInt)

/-- The constants of an enumeration, between what opens and what closes them. -/
def enumText (backend : Backend) (e : Enumeration) : String :=
  Text.concat (backend.enumOpening e :: (backend.constantTexts e ++ [backend.enumClosing]))

theorem occurs_enumText_typescript {e : Enumeration} {backend : Backend}
    (hbackend : backend = .axios ∨ backend = .fetch) :
    Text.Occurs (backend.enumText e) (Typescript.enumBlock e) := by
  have htexts : backend.constantTexts e = e.values.map Typescript.constantLine := by
    rcases hbackend with rfl | rfl
    · exact Lists.mapIdx_eq_map _ _
    · exact Lists.mapIdx_eq_map _ _
  refine ⟨"", "", ?_⟩
  rcases hbackend with rfl | rfl <;>
    simp [enumText, htexts, enumOpening, enumClosing, Typescript.enumBlock, Text.concat,
      Text.concat_append, String.append_assoc]

theorem occurs_enumText_go (e : Enumeration) :
    Text.Occurs (Backend.echo.enumText e) (Go.enumBlock e) := by
  have htexts : Backend.echo.constantTexts e = e.values.map (Go.constantLine e) :=
    Lists.mapIdx_eq_map _ _
  refine ⟨"", Text.concat ["\nfunc (code ", e.name, ") String() string \x7b\n\tnames := map[",
    e.name, "]string\x7b\n", Text.concat (e.values.map Go.labelLine),
    "\t\x7d\n\n\treturn names[code]\n\x7d\n"], ?_⟩
  simp only [enumText, htexts, enumOpening, enumClosing, Go.enumBlock, Text.concat,
    Text.concat_append, String.append_assoc, String.append_empty, String.empty_append]
  simp only [Text.append_literals, String.reduceEq, not_false_eq_true, String.reduceAppend]

theorem occurs_enumText_java (package : String) {e : Enumeration} (h : e.values ≠ []) :
    Text.Occurs (Backend.spring.enumText e) (Java.enumText package e) := by
  have htexts : Backend.spring.constantTexts e =
      e.values.mapIdx fun k v => Java.constantLine (k + 1 == e.values.length) v := rfl
  have hopen : Java.enumImports = "\nimport com.fasterxml.jackson.annotation.JsonValue;\n" ++
      "\npublic enum " := by decide +kernel
  refine ⟨Text.concat [Java.heading, Java.packageLine package,
      "\nimport com.fasterxml.jackson.annotation.JsonValue;\n"],
    Text.concat ["    private final int value;\n\n    ", e.name, Java.enumEnd], ?_⟩
  simp only [enumText, htexts, enumOpening, enumClosing, Java.enumText, Text.concat,
    Text.concat_append, hopen, h, if_false, String.append_assoc, String.append_empty,
    String.empty_append]
  simp only [Text.append_literals, String.reduceEq, not_false_eq_true, String.reduceAppend]

theorem occurs_enumText_php (e : Enumeration) :
    Text.Occurs (Backend.php.enumText e) (Php.enumBlock e) := by
  have htexts : Backend.php.constantTexts e = e.values.map Php.constantLine :=
    Lists.mapIdx_eq_map _ _
  refine ⟨"", "", ?_⟩
  simp [enumText, htexts, enumOpening, enumClosing, Php.enumBlock, Text.concat, Text.concat_append,
    String.append_assoc]

/-- Every enumeration with constants is declared on the page of its file. -/
theorem exists_page_of_enum (backend : Backend) {request : Request} {e : Enumeration}
    (he : e ∈ request.enums) (hvalues : e.values ≠ []) :
    ∃ text, (backend.enumFile request e, text) ∈ backend.pages request request.services.head? ∧
      Text.Occurs (backend.enumText e) text := by
  have htypescript (hbackend : backend = .axios ∨ backend = .fetch) :
      Text.Occurs (backend.enumText e) (typesOf request request.services.head?) :=
    .concat_of_mem (.tail _ (.head _))
      (.concat_of_mem (List.mem_map_of_mem he) (occurs_enumText_typescript hbackend))
  cases backend with
  | axios => exact ⟨_, types_mem, htypescript (.inl rfl)⟩
  | fetch => exact ⟨_, types_mem, htypescript (.inr rfl)⟩
  | echo =>
      refine ⟨_, List.mem_append_right _ List.mem_cons_self, ?_⟩
      exact .concat_of_mem (.tail _ (.tail _ (.tail _ (.head _))))
        (.concat_of_mem (List.mem_map_of_mem he) (occurs_enumText_go e))
  | spring =>
      refine ⟨_, List.mem_append_right _ (List.mem_map.2 ⟨e, he, ?_⟩),
        occurs_enumText_java request.packageName hvalues⟩
      rw [classFile_eq_classPath]
      rfl
  | php =>
      refine ⟨_, List.mem_cons_self, ?_⟩
      exact .concat_of_mem (.tail _ (.tail _ (.tail _ (.tail _ (.head _)))))
        (.concat_of_mem (List.mem_map_of_mem he) (occurs_enumText_php e))

end Backend

/-- A run that ends with files has one service at most and the name of a standard backend. -/
theorem exists_backend_of_generate {name : String} {request : Request} {files : OutputFiles}
    (h : (Generator.standard .builtin).generate name request = .ok files) :
    ∃ backend, (name, backend) ∈ standardBackends ∧
      request.services = request.services.head?.toList := by
  by_cases hmany : 1 < request.services.length
  · simp [Generator.generate, hmany] at h
  · by_cases hname : name ∈ standardBackends.map (·.1)
    · obtain ⟨entry, hentry, rfl⟩ := List.mem_map.1 hname
      exact ⟨entry.2, hentry, services_eq_toList_head? (Nat.le_of_not_lt hmany)⟩
    · simp [Generator.generate, Generator.standard, hmany, find_other hname] at h

/-- A run that ends with files declares every constant with the decimal text of its value. -/
theorem declares_constant_of_generate {name : String} {request : Request} {files : OutputFiles}
    (h : (Generator.standard .builtin).generate name request = .ok files) {i j : Nat}
    {e : Enumeration} {v : EnumValue} (he : request.enums[i]? = some e)
    (hv : e.values[j]? = some v) :
    ∃ backend text, (name, backend) ∈ standardBackends ∧
      files.get? (backend.enumFile request e) = some text ∧ Text.Occurs (backend.enumText e) text ∧
      (backend.constantTexts e)[j]? = some (backend.constantText e (j + 1 == e.values.length) v.name
        (Text.decimal v.value.toInt)) := by
  obtain ⟨backend, hname, hservice⟩ := exists_backend_of_generate h
  obtain ⟨text, hpage, hoccurs⟩ := backend.exists_page_of_enum (List.mem_of_getElem? he)
    (List.ne_nil_of_mem (List.mem_of_getElem? hv))
  rw [generate_builtin_of_found (find_standard hname) hservice] at h
  have hget := OutputFiles.get?_addAll h hpage
  refine ⟨backend, text, hname, hget, hoccurs, ?_⟩
  rw [Backend.constantTexts, List.getElem?_mapIdx, hv]
  rfl

/-! ## Values from text to text -/

/-- Let a number stand for the value of a constant in the text of a request that would be accepted
with something else in its place.  The text is accepted exactly if the number has neither fraction
nor exponent, is not a zero with a minus sign, and is in the range of 32 bits.  Then the constant
has that value, and every run that ends with files declares the constant with the number as the
request writes it. -/
theorem constant_values_kept {i j : Nat} {place : Tree → Tree}
    (hplace : Request.ValuePlace i j place)
    (hrest : ∃ t bytes r, Spells (place t) bytes ∧ Request.decode bytes = .ok r)
    {literal : NumberLiteral} {bytes : Bytes} (hbytes : Spells (place (.number literal)) bytes) :
    ((∃ r, Request.decode bytes = .ok r) ↔
      literal.fraction = none ∧ literal.exponent = none ∧ literal.bytes ≠ Utf8.encode "-0" ∧
        -2147483648 ≤ literal.integer ∧ literal.integer ≤ 2147483647) ∧
    ∀ r, Request.decode bytes = .ok r →
      ∃ e v number, r.enums[i]? = some e ∧ e.values[j]? = some v ∧ v.value.toInt = literal.integer ∧
        Utf8.encode number = literal.bytes ∧
        ∀ name files, (Generator.standard .builtin).generate name r = .ok files →
          ∃ backend text, (name, backend) ∈ standardBackends ∧
            files.get? (backend.enumFile r e) = some text ∧ Text.Occurs (backend.enumText e) text ∧
            (backend.constantTexts e)[j]? =
              some (backend.constantText e (j + 1 == e.values.length) v.name number) := by
  obtain ⟨t, bytes', r', ht, hr'⟩ := hrest
  obtain ⟨build, hcarries, hvalue⟩ := hplace.exists_carries ((Request.decode_eq_ok ht).1 hr')
  have hdecode : ∀ r, Request.decode bytes = .ok r ↔ ∃ n, literal.int32? = some n ∧
      build n = r := by
    intro r
    rw [Request.decode_eq_ok hbytes, hcarries.eq_some_iff]
    rfl
  refine ⟨?_, fun r hr => ?_⟩
  · rw [← NumberLiteral.exists_int32?_iff]
    constructor
    · rintro ⟨r, hr⟩
      obtain ⟨n, hn, -⟩ := (hdecode r).1 hr
      exact ⟨n, hn⟩
    · rintro ⟨n, hn⟩
      exact ⟨build n, (hdecode _).2 ⟨n, hn, rfl⟩⟩
  · obtain ⟨n, hn, rfl⟩ := (hdecode r).1 hr
    obtain ⟨hinteger, htext⟩ := NumberLiteral.encode_decimal_of_int32? hn
    obtain ⟨e, v, he, hv, rfl⟩ := hvalue n
    refine ⟨e, v, Text.decimal literal.integer, he, hv, hinteger, htext,
      fun name files hfiles => ?_⟩
    rw [← hinteger]
    exact declares_constant_of_generate hfiles he hv

/-- The lowest integer of 32 bits is accepted as the second constant of an enumeration and declared
as it is written.  A zero with a minus sign is refused in the same place. -/
theorem constant_values_kept_lowest :
    let text (number : String) : Bytes := Utf8.encode (Text.concat [
      "\x7b\"enums\":[\x7b\"name\":\"Level\",\"fields\":[[\"MID\",0],[\"LOW\",", number,
      "]]\x7d]\x7d"])
    let level : Enumeration := ⟨"Level", [⟨"MID", 0⟩, ⟨"LOW", -2147483648⟩]⟩
    let request : Request := { Request.empty with enums := [level] }
    Request.decode (text "-2147483648") = .ok request ∧
    (∃ files java, (Generator.standard .builtin).generate "spring" request = .ok files ∧
      files.get? (classPath request "Level") = some java ∧
      Text.Occurs (Backend.spring.enumText level) java ∧
      (Backend.spring.constantTexts level)[1]? =
        some (Backend.spring.constantText level true "LOW" "-2147483648")) ∧
    ¬ ∃ r, Request.decode (text "-0") = .ok r := by
  intro text level request
  let place (t : Tree) : Tree := .object [(Request.spelt "enums", .list [.object [
    (Request.spelt "name", .text (Request.spelt "Level")),
    (Request.spelt "fields", .list [
      .list [.text (Request.spelt "MID"), .number (decimalLiteral false 0)],
      .list [.text (Request.spelt "LOW"), t]])]])]
  have hplace : Request.ValuePlace 0 1 place :=
    .intro (.member [] [] (by decide +kernel)) (.intro [] [] rfl)
      (.member [_] [] (by decide +kernel))
      (.intro [_] [] rfl) (.position [_] [] rfl rfl)
  have hlowest : text "-2147483648" =
      (place (.number (decimalLiteral true 2147483648))).tokens.flatten := by
    decide +kernel
  have hzero : text "-0" = (place (.number (decimalLiteral true 0))).tokens.flatten := by
    decide +kernel
  have hread : Request.decode (text "-2147483648") = .ok request := by decide +kernel
  have hspells : Spells (place (.number (decimalLiteral true 2147483648)))
      (text "-2147483648") := by
    rw [hlowest]
    exact .flatten _
  refine ⟨hread, ?_, ?_⟩
  · obtain ⟨files, hfiles⟩ : ∃ files, (Generator.standard .builtin).generate "spring" request =
        .ok files := by
      have hservice : request.services = (none : Option Service).toList := rfl
      rw [exists_files_iff spring_mem_standardBackends hservice, nodup_spring_iff]
      decide
    obtain ⟨e, v, number, he, hv, -, hnumber, hruns⟩ :=
      (constant_values_kept hplace ⟨_, _, _, hspells, hread⟩ hspells).2 request hread
    obtain ⟨backend, java, hbackend, hget, hoccurs, htexts⟩ := hruns "spring" files hfiles
    cases he
    cases hv
    have hspring : backend = .spring := by simpa [standardBackends] using hbackend
    have hdigits : number = "-2147483648" := by
      have hbytes : Utf8.encode number = Utf8.encode "-2147483648" := by
        rw [hnumber]
        decide +kernel
      have hdecoded := Utf8.decode?_encode number
      rw [hbytes, Utf8.decode?_encode] at hdecoded
      exact (Option.some.inj hdecoded).symm
    subst hspring hdigits
    exact ⟨files, java, hfiles, hget, hoccurs, htexts⟩
  · have hspelt : Spells (place (.number (decimalLiteral true 0))) (text "-0") := by
      rw [hzero]
      exact .flatten _
    rw [(constant_values_kept hplace ⟨_, _, _, hspells, hread⟩ hspelt).1]
    rintro ⟨-, -, hbytes, -⟩
    exact hbytes (by decide +kernel)

end ApiStubs
