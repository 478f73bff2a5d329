import ApiStubs.Disk.Basic
import ApiStubs.Proofs.Text.Pieces
import Mathlib.Data.List.Infix

/-!
# Where paths lead

The location of a path can be told from its text: its pieces are followed one after the other, a
piece of two dots one step up.  On a disk every path that can be resolved leads there, since a disk
has no links.  The directories that a path lies in are named by beginnings of it, and a path that is
joined to a root leads through the root to what its name says.
-/

namespace ApiStubs

/-! ## Following pieces -/

namespace Path

/-- One piece further: nothing for a silent one, up for two dots, and else down. -/
def advance (location : Location) (piece : String) : Location :=
  if isSilent piece then location
  else if piece = ".." then location.dropLast
  else location ++ [piece]

/-- The location that pieces lead to. -/
def follow (location : Location) (pieces : List String) : Location := pieces.foldl advance location

/-- Where a path starts, given the working directory. -/
def origin (home : Location) (path : String) : Location := if isAbsolute path then [] else home

/-- The location that a path leads to. -/
def target (home : Location) (path : String) : Location :=
  follow (origin home path) (Text.segments '/' path)

/-- A path leads through a location: some beginning of the path leads there. -/
def Passes (home : Location) (path : String) (location : Location) : Prop :=
  ∃ beginning, beginning <+: Text.segments '/' path ∧ follow (origin home path) beginning = location

@[simp]
theorem follow_nil (location : Location) : follow location [] = location := rfl

@[simp]
theorem follow_append (location : Location) (pieces more : List String) :
    follow location (pieces ++ more) = follow (follow location pieces) more :=
  List.foldl_append ..

theorem follow_cons (location : Location) (piece : String) (rest : List String) :
    follow location (piece :: rest) = follow (advance location piece) rest := rfl

@[simp]
theorem follow_empty (location : Location) : follow location [""] = location := rfl

theorem passes_target (home : Location) (path : String) : Passes home path (target home path) :=
  ⟨_, List.prefix_refl _, rfl⟩

/-- Empty pieces lead nowhere. -/
theorem follow_blanks {blanks : List String} (h : ∀ piece ∈ blanks, piece = "")
    (location : Location) :
    follow location blanks = location := by
  induction blanks with
  | nil => rfl
  | cons piece rest ih =>
      obtain ⟨rfl, hrest⟩ := List.forall_mem_cons.1 h
      exact ih hrest

/-! ## Beginnings of paths -/

/-- A path is absolute when it is not empty and its first piece is. -/
theorem isAbsolute_iff (path : String) :
    isAbsolute path = true ↔ path ≠ "" ∧ (Text.segments '/' path).head? = some "" := by
  have hempty : path = "" ↔ path.toList = [] := String.toList_eq_nil_iff.symm
  rw [ne_eq, hempty]
  unfold isAbsolute Text.segments
  cases path.toList with
  | nil => simp
  | cons c rest =>
      by_cases hc : c = '/'
      · simp [Text.pieces, hc]
      · obtain ⟨piece, more, hpieces⟩ := List.exists_cons_of_ne_nil (Text.pieces_ne_nil '/' rest)
        simp [Text.pieces, hc, hpieces]

theorem origin_eq_of_head? {path other : String} (hpath : path ≠ "") (hother : other ≠ "")
    (h : (Text.segments '/' path).head? = (Text.segments '/' other).head?) (home : Location) :
    origin home path = origin home other := by
  have habsolute : isAbsolute path = isAbsolute other := by
    rw [Bool.eq_iff_iff, isAbsolute_iff, isAbsolute_iff, h]
    simp [hpath, hother]
  rw [origin, origin, habsolute]

theorem isPrefix_trimPieces (pieces : List String) : trimPieces pieces <+: pieces := by
  cases pieces with
  | nil => exact List.prefix_refl _
  | cons first rest =>
      have hsuffix : rest.reverse.dropWhile isSilent <:+ rest.reverse := List.dropWhile_suffix _
      have hprefix : (rest.reverse.dropWhile isSilent).reverse <+: rest := by
        simpa using List.reverse_prefix.2 hsuffix
      exact (List.cons_prefix_cons).2 ⟨rfl, hprefix⟩

/-- Pieces of a path that are put together again make up those pieces, but for the root alone. -/
theorem segments_ofPieces {path : String} {first : String} {rest : List String}
    (h : first :: rest <+: Text.segments '/' path) :
    Text.segments '/' (ofPieces (first :: rest)) =
      if first :: rest = [""] then ["", ""] else first :: rest := by
  unfold ofPieces
  split
  · rfl
  · refine Text.segments_joinWith (by simp) fun segment hsegment => ?_
    exact Text.segments_of_mem_segments (h.subset hsegment)

/-- The directory that a path names something in is a beginning of the path. -/
theorem exists_of_parent? {path parent : String} (h : parent? path = some parent)
    (hparent : parent ≠ "") :
    path ≠ "" ∧ ∃ first rest, first :: rest <+: Text.segments '/' path ∧
      parent = ofPieces (first :: rest) := by
  unfold parent? at h
  split at h
  · cases h
  · rename_i hpath
    refine ⟨hpath, ?_⟩
    split at h
    · cases h
    · split at h <;> simp_all
    · rename_i first rest _ hpieces
      cases h
      have hlast : first :: rest.dropLast <+: Text.segments '/' path := by
        have htrim := hpieces ▸ isPrefix_trimPieces (Text.segments '/' path)
        refine List.IsPrefix.trans ?_ htrim
        exact (List.cons_prefix_cons).2 ⟨rfl, List.dropLast_prefix rest⟩
      exact ⟨first, _, (isPrefix_trimPieces (first :: rest.dropLast)).trans hlast, rfl⟩

/-- A path leads through whatever its parent leads through. -/
theorem Passes.of_parent? {home : Location} {path parent : String} {location : Location}
    (h : parent? path = some parent) (hparent : parent ≠ "")
    (hpasses : Passes home parent location) :
    Passes home path location := by
  obtain ⟨hpath, first, rest, hpieces, rfl⟩ := exists_of_parent? h hparent
  obtain ⟨beginning, hbeginning, rfl⟩ := hpasses
  have hsegments := segments_ofPieces hpieces
  have hhead : (Text.segments '/' (ofPieces (first :: rest))).head? =
      (Text.segments '/' path).head? := by
    obtain ⟨more, hmore⟩ := hpieces
    rw [hsegments, ← hmore]
    split
    · rename_i hroot
      cases hroot
      rfl
    · rfl
  rw [origin_eq_of_head? hparent hpath hhead home]
  rw [hsegments] at hbeginning
  split at hbeginning
  · -- the root alone, of which no beginning leads anywhere
    refine ⟨[], List.nil_prefix, ?_⟩
    have hblank : ∀ piece ∈ beginning, piece = "" := by
      intro piece hpiece
      simpa using hbeginning.subset hpiece
    rw [follow_blanks hblank, follow_nil]
  · exact ⟨beginning, hbeginning.trans hpieces, rfl⟩

theorem Passes.of_mem_ancestorsFrom {home : Location} {ancestor : String} {location : Location}
    (hpasses : Passes home ancestor location) {fuel : Nat} {path : String}
    (h : ancestor ∈ ancestorsFrom fuel path) : Passes home path location := by
  induction fuel generalizing path with
  | zero => cases h
  | succ fuel ih =>
      by_cases hpath : path = ""
      · simp [ancestorsFrom, hpath] at h
      · cases hparent : parent? path with
        | none =>
            have hself : ancestor = path := by simpa [ancestorsFrom, hpath, hparent] using h
            exact hself ▸ hpasses
        | some parent =>
            rcases (by simpa [ancestorsFrom, hpath, hparent] using h :
              ancestor = path ∨ ancestor ∈ ancestorsFrom fuel parent) with rfl | hmem
            · exact hpasses
            · have hne : parent ≠ "" := by
                rintro rfl
                cases fuel <;> simp [ancestorsFrom] at hmem
              exact Passes.of_parent? hparent hne (ih hmem)

/-- The directories that a path lies in are on its way. -/
theorem passes_of_mem_ancestors {home : Location} {path parent ancestor : String}
    (hparent : parent? path = some parent) (h : ancestor ∈ ancestors parent) :
    Passes home path (target home ancestor) := by
  have hne : parent ≠ "" := by
    rintro rfl
    simp [ancestors, ancestorsFrom] at h
  exact Passes.of_parent? hparent hne ((passes_target home ancestor).of_mem_ancestorsFrom h)

/-! ## Joined paths -/

/-- A relative name that is joined to a root continues the pieces of the root, less an empty one at
their end. -/
theorem exists_segments_join {root name : String} (hroot : root ≠ "")
    (hname : isAbsolute name = false) :
    ∃ lead, lead ≠ [] ∧ Text.segments '/' (join root name) = lead ++ Text.segments '/' name ∧
      (Text.segments '/' root = lead ∨ Text.segments '/' root = lead ++ [""]) := by
  by_cases hslash : root.toList.getLast? = some '/'
  · obtain ⟨cs, hcs⟩ := List.getLast?_eq_some_iff.1 hslash
    have hsplit : root = String.ofList cs ++ "/" ++ "" := by
      rw [← String.toList_inj]
      simp [hcs]
    have hjoin : join root name = String.ofList cs ++ "/" ++ name := by
      have hbare : root = String.ofList cs ++ "/" := by simpa using hsplit
      simp [join, hroot, hname, hslash, ← hbare]
    have hempty : Text.segments '/' "" = [""] := rfl
    refine ⟨_, Text.segments_ne_nil '/' (String.ofList cs), ?_, .inr ?_⟩
    · rw [hjoin, Text.segments_slash]
    · rw [hsplit, Text.segments_slash, hempty]
  · have hjoin : join root name = root ++ "/" ++ name := by simp [join, hroot, hname, hslash]
    exact ⟨_, Text.segments_ne_nil '/' root, by rw [hjoin, Text.segments_slash], .inl rfl⟩

theorem segments_join {root name : String} (hroot : root ≠ "") (hname : isAbsolute name = false) :
    ∃ lead, lead <+: Text.segments '/' root ∧
      Text.segments '/' (join root name) = lead ++ Text.segments '/' name ∧
      ∀ location, follow location lead = follow location (Text.segments '/' root) := by
  obtain ⟨lead, -, hsegments, hlead | hlead⟩ := exists_segments_join hroot hname
  · exact ⟨lead, hlead ▸ List.prefix_refl _, hsegments, fun location => by rw [hlead]⟩
  · exact ⟨lead, hlead ▸ List.prefix_append .., hsegments, fun location => by
      rw [hlead, follow_append, follow_empty]⟩

theorem origin_join {root name : String} (hroot : root ≠ "") (hname : isAbsolute name = false)
    (home : Location) : origin home (join root name) = origin home root := by
  have hhead : (join root name).toList.head? = root.toList.head? := by
    obtain ⟨c, rest, hlist⟩ := List.exists_cons_of_ne_nil (String.toList_eq_nil_iff.not.2 hroot)
    by_cases hslash : root.toList.getLast? = some '/' <;> simp_all [join]
  simp [origin, isAbsolute, hhead]

/-- Whether pieces that start some steps below a directory never climb above it. -/
def descends : Nat → List String → Bool
  | _, [] => true
  | depth, piece :: rest =>
    if isSilent piece then descends depth rest
    else if piece = ".." then
      match depth with
      | 0 => false
      | higher + 1 => descends higher rest
    else descends (depth + 1) rest

/-- Whether a name leads to something below the directory it is taken relative to, wherever that
is. -/
def staysBelow (name : String) : Bool := !isAbsolute name && descends 0 (Text.segments '/' name)

theorem isSilent_up : isSilent ".." = false := rfl

/-- Beginnings of pieces that descend keep what is above them. -/
theorem exists_follow_of_descends {beginning more : List String} {base below : Location}
    (h : descends below.length (beginning ++ more) = true) :
    ∃ tail, follow (base ++ below) beginning = base ++ tail := by
  induction beginning generalizing below with
  | nil => exact ⟨below, rfl⟩
  | cons piece rest ih =>
      rw [follow_cons]
      by_cases hsilent : isSilent piece = true
      · have hrest : descends below.length (rest ++ more) = true := by
          simpa [descends, hsilent] using h
        simpa [advance, hsilent] using ih hrest
      · by_cases hup : piece = ".."
        · subst hup
          cases below using List.reverseRecOn with
          | nil => simp [descends, isSilent_up] at h
          | append_singleton upper last =>
              have hrest : descends upper.length (rest ++ more) = true := by
                simpa [descends, isSilent_up] using h
              simpa [advance, isSilent_up, ← List.append_assoc] using ih hrest
        · have hrest : descends (below ++ [piece]).length (rest ++ more) = true := by
            simpa [descends, hsilent, hup] using h
          simpa [advance, hsilent, hup, List.append_assoc] using ih hrest

/-- Whether every piece of a name leads one step down. -/
def isPlain (name : String) : Bool :=
  (Text.segments '/' name).all fun piece => !isSilent piece && decide (piece ≠ "..")

/-- Pieces that lead down are added to the location one after the other. -/
theorem follow_of_plain {pieces : List String}
    (h : ∀ piece ∈ pieces, isSilent piece = false ∧ piece ≠ "..") (location : Location) :
    follow location pieces = location ++ pieces := by
  induction pieces generalizing location with
  | nil => simp
  | cons piece rest ih =>
      obtain ⟨⟨hsilent, hup⟩, hrest⟩ := List.forall_mem_cons.1 h
      rw [follow_cons, ih hrest, advance, hsilent, if_neg (by simp), if_neg hup]
      simp

section Join

variable {root name : String} {home : Location}

/-- The pieces of a joined path are those of a way to the root and those of the name. -/
theorem exists_lead (root : String) (hname : isAbsolute name = false) (home : Location) :
    ∃ lead, Text.segments '/' (join root name) = lead ++ Text.segments '/' name ∧
      follow (origin home (join root name)) lead = target home root ∧
      ∀ beginning, beginning <+: lead →
        Passes home root (follow (origin home (join root name)) beginning) := by
  by_cases hroot : root = ""
  · subst hroot
    have hjoin : join "" name = name := by simp [join]
    refine ⟨[], by rw [hjoin]; rfl, ?_, fun beginning hbeginning => ?_⟩
    · rw [hjoin, origin, hname]
      rfl
    · rw [hjoin, origin, hname, List.prefix_nil.1 hbeginning]
      exact ⟨[], List.nil_prefix, rfl⟩
  · obtain ⟨lead, hlead, hsegments, hfollow⟩ := segments_join hroot hname
    refine ⟨lead, hsegments, ?_, fun beginning hbeginning => ?_⟩
    · rw [origin_join hroot hname, hfollow]
      rfl
    · rw [origin_join hroot hname]
      exact ⟨beginning, hbeginning.trans hlead, rfl⟩

/-- A plain name leads from the root down along its pieces. -/
theorem target_join_of_isPlain (hname : isPlain name = true) (root : String) (home : Location) :
    target home (join root name) = target home root ++ Text.segments '/' name := by
  have hpieces : ∀ piece ∈ Text.segments '/' name, isSilent piece = false ∧ piece ≠ ".." := by
    simpa [isPlain] using hname
  have hrelative : isAbsolute name = false := by
    rw [Bool.eq_false_iff, ne_eq, isAbsolute_iff]
    rintro ⟨-, hhead⟩
    exact absurd (hpieces "" (List.mem_of_mem_head? hhead)).1 (by decide)
  obtain ⟨lead, hsegments, hfollow, -⟩ := exists_lead root hrelative home
  rw [target, hsegments, follow_append, hfollow, follow_of_plain hpieces]

/-- What a name that stays below leads through lies below where it is taken relative to. -/
theorem exists_follow_of_staysBelow (hname : staysBelow name = true) {beginning : List String}
    (h : beginning <+: Text.segments '/' name) (base : Location) :
    ∃ tail, follow base beginning = base ++ tail := by
  obtain ⟨more, hmore⟩ := h
  have hdescends : descends ([] : Location).length (beginning ++ more) = true := by
    rw [hmore]
    exact (Bool.and_eq_true_iff.1 hname).2
  obtain ⟨tail, htail⟩ : ∃ tail, follow (base ++ []) beginning = base ++ tail :=
    exists_follow_of_descends hdescends
  exact ⟨tail, by rw [← htail, List.append_nil]⟩

theorem isAbsolute_of_staysBelow (hname : staysBelow name = true) : isAbsolute name = false := by
  simpa using (Bool.and_eq_true_iff.1 hname).1

/-- Everything on the way of a name that stays below a root is on the way to the root, or below
it. -/
theorem Passes.of_join (hname : staysBelow name = true) {location : Location}
    (h : Passes home (join root name) location) :
    Passes home root location ∨ ∃ tail, location = target home root ++ tail := by
  obtain ⟨lead, hsegments, hfollow, hpasses⟩ :=
    exists_lead root (isAbsolute_of_staysBelow hname) home
  obtain ⟨beginning, hbeginning, rfl⟩ := h
  have hlead : lead <+: Text.segments '/' (join root name) := hsegments ▸ List.prefix_append ..
  rcases List.prefix_or_prefix_of_prefix hbeginning hlead with hshort | ⟨behind, rfl⟩
  · exact .inl (hpasses beginning hshort)
  · have hbehind : behind <+: Text.segments '/' name :=
      (List.prefix_append_right_inj lead).1 (hsegments ▸ hbeginning)
    obtain ⟨tail, htail⟩ := exists_follow_of_staysBelow hname hbehind (target home root)
    exact .inr ⟨tail, by rw [follow_append, hfollow, htail]⟩

/-- The last piece of a name that stays below a root is taken in a directory at or below the
root. -/
theorem exists_below_of_join (hname : staysBelow name = true) {before : List String} {last : String}
    (h : Text.segments '/' (join root name) = before ++ [last]) :
    ∃ tail, follow (origin home (join root name)) before = target home root ++ tail := by
  obtain ⟨lead, hsegments, hfollow, -⟩ := exists_lead root (isAbsolute_of_staysBelow hname) home
  have hbefore : before = lead ++ (Text.segments '/' name).dropLast := by
    have hdrop := congrArg List.dropLast (h.symm.trans hsegments)
    rwa [List.dropLast_concat, List.dropLast_append_of_ne_nil (Text.segments_ne_nil '/' name)]
      at hdrop
  have hfront : (Text.segments '/' name).dropLast <+: Text.segments '/' name :=
    List.dropLast_prefix _
  obtain ⟨tail, htail⟩ := exists_follow_of_staysBelow hname hfront (target home root)
  exact ⟨tail, by rw [hbefore, follow_append, hfollow, htail]⟩

end Join

end Path

/-! ## Paths on a disk -/

namespace Disk

/-- A piece can be followed from a directory: it names something there, or nothing below the
directory. -/
def Admits (disk : Disk) (directory : Location) (piece : String) : Prop :=
  Path.isSilent piece = true ∨ piece = ".." ∨
    piece.utf8ByteSize ≤ nameLimit ∧ (disk.find? (directory ++ [piece])).isSome = true

/-- Pieces are followed from a directory by following the first and, from where it leads, the
others. -/
theorem walk_cons_eq_ok_iff {disk : Disk} {start location : Location} {piece : String}
    {rest : List String} :
    disk.walk start (piece :: rest) = .ok location ↔
      disk.find? start = some .directory ∧ disk.Admits start piece ∧
        disk.walk (Path.advance start piece) rest = .ok location := by
  unfold Admits Path.advance
  rw [walk]
  cases hstart : disk.find? start with
  | none => simp
  | some entry =>
      cases entry with
      | file content => simp
      | directory =>
          by_cases hsilent : Path.isSilent piece = true
          · simp [hsilent]
          · by_cases hup : piece = ".."
            · simp [hup, Path.isSilent_up]
            · by_cases hlong : nameLimit < piece.utf8ByteSize
              · simp [hsilent, hup, hlong, Nat.not_le.2 hlong]
              · by_cases hfound : (disk.find? (start ++ [piece])).isSome = true <;>
                  simp [hsilent, hup, hlong, hfound, Nat.le_of_not_lt hlong]

/-- Pieces that can be followed on a disk lead where they lead anywhere. -/
theorem walk_eq_follow {disk : Disk} {pieces : List String} {start location : Location}
    (h : disk.walk start pieces = .ok location) : location = Path.follow start pieces := by
  induction pieces generalizing start with
  | nil =>
      cases h
      rfl
  | cons piece rest ih =>
      obtain ⟨-, -, hrest⟩ := walk_cons_eq_ok_iff.1 h
      rw [Path.follow_cons]
      exact ih hrest

/-- Pieces after others are followed from where the others lead. -/
theorem walk_append {disk : Disk} {start middle location : Location} {pieces more : List String}
    (h : disk.walk start pieces = .ok middle) (hmore : disk.walk middle more = .ok location) :
    disk.walk start (pieces ++ more) = .ok location := by
  induction pieces generalizing start with
  | nil =>
      cases h
      exact hmore
  | cons piece rest ih =>
      obtain ⟨hstart, hpiece, hrest⟩ := walk_cons_eq_ok_iff.1 h
      exact walk_cons_eq_ok_iff.2 ⟨hstart, hpiece, ih hrest⟩

theorem pieces_eq_segments {path : String} {ps : List String} (h : Disk.pieces path = .ok ps) :
    ps = Text.segments '/' path := by
  unfold Disk.pieces at h
  split_ifs at h
  cases h
  rfl

/-- The last piece that is not empty, with what is before and behind it. -/
theorem exists_split_blanks {ps before : List String} {last : String}
    (h : ps.reverse.dropWhile (· = "") = last :: before) :
    last ≠ "" ∧ ∃ blanks, ps = before.reverse ++ last :: blanks ∧ ∀ piece ∈ blanks, piece = "" := by
  have hlast : last ≠ "" := by
    have hne : ps.reverse.dropWhile (· = "") ≠ [] := by simp [h]
    simpa [h] using List.head_dropWhile_not _ hne
  refine ⟨hlast, (ps.reverse.takeWhile (· = "")).reverse, ?_, fun piece hpiece => ?_⟩
  · have hsplit := List.takeWhile_append_dropWhile (p := fun piece : String => decide (piece = ""))
      (l := ps.reverse)
    rw [h] at hsplit
    have hreverse := congrArg List.reverse hsplit
    simpa using hreverse.symm
  · have hall := List.all_takeWhile (p := fun piece : String => decide (piece = ""))
        (l := ps.reverse)
    simpa using List.all_eq_true.1 hall piece (List.mem_reverse.1 hpiece)

/-- How a path ends in a name: its pieces are a way to a directory that is there, the name, and
empty pieces. -/
structure EndsIn (disk : Disk) (path : String) (directory : Location) (name : String)
    (before blanks : List String) : Prop where
  pieces : Disk.pieces path = .ok (before ++ name :: blanks)
  walk : disk.walk (disk.start path) before = .ok directory
  found : disk.find? directory = some .directory
  notSilent : Path.isSilent name = false
  notUp : name ≠ ".."
  blanks : ∀ piece ∈ blanks, piece = ""

namespace EndsIn

variable {disk : Disk} {path : String} {directory : Location} {name : String}
  {before blanks : List String}

theorem segments (h : EndsIn disk path directory name before blanks) :
    Text.segments '/' path = before ++ name :: blanks :=
  (pieces_eq_segments h.pieces).symm

theorem directory_eq (h : EndsIn disk path directory name before blanks) :
    directory = Path.follow (Path.origin disk.home path) before :=
  walk_eq_follow h.walk

theorem advance (h : EndsIn disk path directory name before blanks) :
    Path.advance directory name = directory ++ [name] := by
  simp [Path.advance, h.notSilent, h.notUp]

/-- The path leads to the name in the directory. -/
theorem target (h : EndsIn disk path directory name before blanks) :
    Path.target disk.home path = directory ++ [name] := by
  rw [Path.target, h.segments, Path.follow_append, Path.follow_cons, ← h.directory_eq, h.advance,
    Path.follow_blanks h.blanks]

end EndsIn

/-- A spot with a name is where the path leads: at its last piece that is not empty. -/
theorem exists_endsIn_of_spot {disk : Disk} {path : String} {directory : Location} {name : String}
    {slash : Bool} (h : disk.spot path = .ok ⟨directory, some name, slash⟩) :
    ∃ before blanks, EndsIn disk path directory name before blanks ∧
      (slash = false → blanks = []) := by
  unfold spot at h
  cases hpieces : Disk.pieces path with
  | error e => simp [hpieces] at h
  | ok ps =>
      cases hdrop : ps.reverse.dropWhile (· = "") with
      | nil => simp [hpieces, hdrop] at h
      | cons last before =>
          cases hwalk : disk.walk (disk.start path) before.reverse with
          | error e => simp [hpieces, hdrop, hwalk] at h
          | ok found =>
              simp only [hpieces, hdrop, hwalk] at h
              split at h
              · cases h
              · cases h
              · rename_i hfound
                obtain ⟨hempty, blanks, hsplit, hblanks⟩ := exists_split_blanks hdrop
                simp only [Except.ok.injEq, Spot.mk.injEq] at h
                obtain ⟨rfl, hname, rfl⟩ := h
                obtain ⟨hdots, rfl⟩ : ¬ (last = "." ∨ last = "..") ∧ last = name := by
                  simpa using hname
                obtain ⟨hdot, hup⟩ := not_or.1 hdots
                refine ⟨before.reverse, blanks, ⟨hsplit ▸ hpieces, hwalk, hfound, ?_, hup, hblanks⟩,
                  fun hslash => ?_⟩
                · simp [Path.isSilent, hempty, hdot]
                · cases blanks using List.reverseRecOn with
                  | nil => rfl
                  | append_singleton front piece =>
                      have hpiece : piece = "" := hblanks piece (by simp)
                      have hends : ps = before.reverse ++ last :: front ++ [piece] := by
                        simp [hsplit]
                      rw [hends, List.getLast?_concat, hpiece] at hslash
                      cases hslash

/-- Writing a file puts it where the path leads, at its last piece, where no directory is. -/
theorem exists_endsIn_of_write {disk after : Disk} {path : String} {content : Bytes}
    (h : disk.write path content = .ok after) :
    ∃ directory before name, EndsIn disk path directory name before [] ∧
      name.utf8ByteSize ≤ nameLimit ∧ disk.find? (directory ++ [name]) ≠ some .directory ∧
      after = disk.put (directory ++ [name]) (.file content) := by
  unfold write at h
  split at h
  · cases h
  · cases h
  · rename_i directory name slash hspot
    obtain ⟨before, blanks, hends, hslash⟩ := exists_endsIn_of_spot hspot
    split_ifs at h with hslashed hlong
    obtain rfl := hslash (by simpa using hslashed)
    refine ⟨directory, before, name, hends, Nat.le_of_not_lt hlong, ?_⟩
    split at h
    · cases h
    · rename_i hfree
      cases h
      exact ⟨hfree, rfl⟩

/-- Making a directory puts it where the path leads, where nothing was. -/
theorem eq_put_of_makeDirectory {disk after : Disk} {path : String}
    (h : disk.makeDirectory path = .ok after) :
    Path.target disk.home path ≠ [] ∧ disk.find? (Path.target disk.home path) = none ∧
      after = disk.put (Path.target disk.home path) .directory := by
  unfold makeDirectory at h
  split at h
  · cases h
  · cases h
  · rename_i directory name slash hspot
    obtain ⟨before, blanks, hends, -⟩ := exists_endsIn_of_spot hspot
    rw [hends.target]
    split_ifs at h
    split at h
    · cases h
    · rename_i hfree
      cases h
      exact ⟨by simp, hfree, rfl⟩

end Disk

end ApiStubs
