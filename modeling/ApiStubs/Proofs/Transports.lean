import ApiStubs.Proofs.Generation

/-!
# The two TypeScript clients

A TypeScript client sends its calls with axios or with fetch.  Nothing but the file of the client
depends on which: a run for one ends as a run for the other does, and its other files are the same
to the byte.
-/

namespace ApiStubs

/-- The files of the two clients: the same names, the same types and the same shared file, and no
difference outside the file of the client. -/
structure SharesFiles (request : Request) (shared : String) (axios fetch : OutputFiles) : Prop where
  names : axios.names = fetch.names
  types : ∃ text, axios.get? (request.baseNameOf request.services.head? ++ "Objs.ts") = some text ∧
    fetch.get? (request.baseNameOf request.services.head? ++ "Objs.ts") = some text
  helper : axios.get? "helper.ts" = some shared ∧ fetch.get? "helper.ts" = some shared
  others : ∀ file, (∀ service ∈ request.services, file ≠ service.name ++ ".ts") →
    axios.get? file = fetch.get? file

/-! ## Runs -/

/-- Collecting the pages of either client ends the same way. -/
theorem sharesFiles_addAll {request : Request} {service : Option Service}
    (hservice : request.services = service.toList)
    (client other : String → String → List Method → Union.Summary → String) :
    OutputFiles.SameOutcome (SharesFiles request (Asset.linesText Asset.Builtin.Typescript.helper))
      (OutputFiles.empty.addAll (Backend.typescriptPages client request service))
      (OutputFiles.empty.addAll (Backend.typescriptPages other request service)) := by
  have hhead : request.services.head? = service := by
    rw [hservice]
    cases service <;> rfl
  have hnames : (Backend.typescriptPages client request service).map (·.1) =
      (Backend.typescriptPages other request service).map (·.1) := by
    simp [Backend.typescriptPages_eq, Backend.clientPage, Function.comp_def]
  have hends := OutputFiles.addAll_sameOutcome hnames (Eq.refl OutputFiles.empty.names)
  generalize hleft : OutputFiles.empty.addAll (Backend.typescriptPages client request service) =
    left at hends ⊢
  generalize hright : OutputFiles.empty.addAll (Backend.typescriptPages other request service) =
    right at hends ⊢
  cases hends with
  | failed failure => exact .failed failure
  | files hsame =>
      refine .files ⟨hsame, ⟨Backend.typesOf request service, ?_, ?_⟩, ⟨?_, ?_⟩,
        fun file hfile => ?_⟩
      · rw [hhead]
        exact OutputFiles.get?_addAll hleft Backend.types_mem
      · rw [hhead]
        exact OutputFiles.get?_addAll hright Backend.types_mem
      · exact OutputFiles.get?_addAll hleft Backend.helper_mem
      · exact OutputFiles.get?_addAll hright Backend.helper_mem
      · refine OutputFiles.get?_eq_of_addAll hleft hright hsame fun page hpage hname => ?_
        refine Backend.mem_typescriptPages hpage fun s hs => hname ▸ hfile s ?_
        rw [hservice]
        exact Option.mem_toList.2 hs

/-- A run reads the name of its backend only to look the backend up. -/
theorem Generator.generate_eq_of_find (generator : Generator) {name other : String}
    (h : generator.registry.find name = generator.registry.find other) (request : Request) :
    generator.generate name request = generator.generate other request := by
  unfold Generator.generate
  rw [h]

/-- The two clients differ in one file.  For every description the run for axios and the run for
fetch fail alike or leave files of the same names, of which only the client may differ; the shared
file has the text of its template whatever the description.  The short name stands for axios with
the templates of any store. -/
theorem transports_share_files :
    ∃ shared, Asset.Store.builtin.get "ts/helper.ts.j2" = .ok shared ∧
      ∀ request : Request,
        OutputFiles.SameOutcome (SharesFiles request shared)
          ((Generator.standard .builtin).generate "ts-axios" request)
          ((Generator.standard .builtin).generate "ts-fetch" request) ∧
        ∀ store : Asset.Store, (Generator.standard store).generate "ts" request =
          (Generator.standard store).generate "ts-axios" request := by
  have hshort : Registry.standard.find "ts" = .ok .axios := find_standard (by decide)
  have haxios : Registry.standard.find "ts-axios" = .ok .axios := find_standard (by decide)
  have hfetch : Registry.standard.find "ts-fetch" = .ok .fetch := find_standard (by decide)
  refine ⟨_, get_builtin rfl, fun request => ⟨?_, fun store => ?_⟩⟩
  · by_cases hmany : 1 < request.services.length
    · simp only [Generator.generate, hmany, if_true]
      exact .failed _
    · have hservice := services_eq_toList_head? (Nat.le_of_not_lt hmany)
      rw [generate_builtin_of_found haxios hservice, generate_builtin_of_found hfetch hservice]
      exact sharesFiles_addAll hservice _ _
  · exact Generator.generate_eq_of_find _ (hshort.trans haxios.symm) request

end ApiStubs
