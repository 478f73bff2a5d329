import ApiStubs.Proofs.Generation

/-!
# Descriptions in another order

The Java backend writes a file for every class, and the text of a class follows from the class
alone.  So the order in which messages and enumerations are listed shows in no file, and whether two
classes share a file does not depend on it either.
-/

namespace ApiStubs

/-- The other description lists the same messages and the same enumerations in any order, and is the
same otherwise. -/
def Request.Rearranged (request other : Request) : Prop :=
  ∃ messages enums, messages.Perm request.messages ∧ enums.Perm request.enums ∧
    other = { request with messages := messages, enums := enums }

namespace Request.Rearranged

variable {request other : Request} (h : request.Rearranged other)

include h

theorem services_eq : other.services = request.services := by
  obtain ⟨messages, enums, -, -, rfl⟩ := h
  rfl

/-- The pages of the classes are the same up to their order. -/
theorem perm_springPages (service : Option Service) :
    (Backend.springPages other service).Perm (Backend.springPages request service) := by
  obtain ⟨messages, enums, hmessages, henums, rfl⟩ := h
  have hflat : (flattenAll messages).Perm (flattenAll request.messages) := hmessages.map _
  exact ((List.Perm.refl _).append (hflat.map _)).append (henums.map _)

/-- So are the names of their files. -/
theorem perm_plannedNames (service : Option Service) :
    (plannedNames other service .spring).Perm (plannedNames request service .spring) := by
  rw [← map_fst_pages, ← map_fst_pages]
  exact (h.perm_springPages service).map _

end Request.Rearranged

/-- The order of messages and enumerations does not show in what the Java backend writes.  Where the
classes have different names, both runs end with the same files; and where two classes share a name,
both runs fail over a file that two classes share. -/
theorem spring_rearranged {request other : Request} (h : request.Rearranged other)
    (hservices : request.services.length ≤ 1) :
    ((classNames request request.services.head?).Nodup →
      ∃ files, (Generator.standard .builtin).generate "spring" request = .ok files ∧
        (Generator.standard .builtin).generate "spring" other = .ok files) ∧
    (¬ (classNames request request.services.head?).Nodup →
      ∃ file shared, (Generator.standard .builtin).generate "spring" request =
        .error (.duplicateOutput file) ∧
        (Generator.standard .builtin).generate "spring" other = .error (.duplicateOutput shared) ∧
        2 ≤ (plannedNames request request.services.head? .spring).count file ∧
        2 ≤ (plannedNames request request.services.head? .spring).count shared) := by
  have hspring := spring_mem_standardBackends
  have hservice := services_eq_toList_head? hservices
  have hother : other.services = request.services.head?.toList := h.services_eq.trans hservice
  have hnames := h.perm_plannedNames request.services.head?
  rw [← nodup_spring_iff]
  constructor
  · intro hnodup
    obtain ⟨files, hfiles, -⟩ := generate_of_nodup hspring hservice hnodup
    obtain ⟨others, hothers, -⟩ := generate_of_nodup hspring hother (hnames.nodup_iff.2 hnodup)
    have hrun := generate_builtin_of_found (find_standard hspring) hservice
    have hotherRun := generate_builtin_of_found (find_standard hspring) hother
    have hsame : others = files :=
      OutputFiles.eq_of_addAll_perm (h.perm_springPages request.services.head?)
        (hotherRun.symm.trans hothers) (hrun.symm.trans hfiles)
    exact ⟨files, hfiles, hsame ▸ hothers⟩
  · intro hrepeat
    obtain ⟨before, file, after, hsplit, -, hfile, hfails⟩ :=
      generate_of_repeat hspring hservice hrepeat
    obtain ⟨before', shared, after', hsplit', -, hshared, hfails'⟩ :=
      generate_of_repeat hspring hother (mt hnames.nodup_iff.1 hrepeat)
    refine ⟨file, shared, hfails, hfails', ?_, ?_⟩
    · rw [hsplit]
      exact Lists.two_le_count_of_repeat hfile
    · rw [← hnames.count_eq, hsplit']
      exact Lists.two_le_count_of_repeat hshared

/-- Accounts and entries come in either order.  Where an enumeration is called like a message,
neither order gives files. -/
theorem spring_rearranged_ledger :
    let account := Message.ofFields "Account" [.ofType "owner" "string"]
    let entry := Message.ofFields "Entry" [.ofType "account" "Account", .ofType "side" "Side"]
    let side : Enumeration := ⟨"Side", [⟨"DEBIT", 0⟩, ⟨"CREDIT", 1⟩]⟩
    let currency : Enumeration := ⟨"Currency", []⟩
    let ledger : Service :=
      ⟨"Ledger", [⟨"post", "Entry", "Account", SortedMap.empty⟩], SortedMap.empty⟩
    let request (enums : List Enumeration) : Request :=
      { Request.empty with services := [ledger], messages := [account, entry], enums := enums }
    let other (enums : List Enumeration) : Request :=
      { Request.empty with services := [ledger], messages := [entry, account], enums := enums }
    ((request [side, currency]).Rearranged (other [currency, side]) ∧
      (request [side, currency]).services.length ≤ 1 ∧
      (classNames (request [side, currency]) (some ledger)).Nodup ∧
      ∃ files, (Generator.standard .builtin).generate "spring" (request [side, currency]) =
        .ok files ∧
        (Generator.standard .builtin).generate "spring" (other [currency, side]) = .ok files) ∧
    ((request [⟨"Entry", []⟩]).Rearranged (other [⟨"Entry", []⟩]) ∧
      ¬ (classNames (request [⟨"Entry", []⟩]) (some ledger)).Nodup ∧
      ∃ file shared,
        (Generator.standard .builtin).generate "spring" (request [⟨"Entry", []⟩]) =
          .error (.duplicateOutput file) ∧
        (Generator.standard .builtin).generate "spring" (other [⟨"Entry", []⟩]) =
          .error (.duplicateOutput shared)) := by
  intro account entry side currency ledger request other
  have hgood : (request [side, currency]).Rearranged (other [currency, side]) :=
    ⟨[entry, account], [currency, side], .swap .., .swap .., rfl⟩
  have hbad : (request [⟨"Entry", []⟩]).Rearranged (other [⟨"Entry", []⟩]) :=
    ⟨[entry, account], [⟨"Entry", []⟩], .swap .., .refl _, rfl⟩
  have hnames : (classNames (request [side, currency]) (some ledger)).Nodup := by decide
  have hclash : ¬ (classNames (request [⟨"Entry", []⟩]) (some ledger)).Nodup := by decide
  obtain ⟨file, shared, hfails, hotherFails, -, -⟩ := (spring_rearranged hbad Nat.le.refl).2 hclash
  exact ⟨⟨hgood, Nat.le.refl, hnames, (spring_rearranged hgood Nat.le.refl).1 hnames⟩,
    hbad, hclash, file, shared, hfails, hotherFails⟩

end ApiStubs
