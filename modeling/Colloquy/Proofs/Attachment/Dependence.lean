import Colloquy.Proofs.Attachment.Inquiry
import Colloquy.Proofs.Attachment.Stages

/-!
# What attachments depend on

A remote attachment is made of its locator and the type, for which at most the probe is needed
(`resolve_remote`). For a local one the type follows from the argument, and all that matters of the
files is the one that is found, in the working directory first (`resolve_local`). `resolve_worlds`
compares two runs in which the same types are known by extension and all other surroundings differ.
-/

namespace Colloquy

namespace Files.Tree

variable {tree : Tree} {path : Text} {bytes : List UInt8}

/-- The bytes of the file that a path leads to, if it leads to one. -/
def bytes? (tree : Tree) (path : Text) : Option (List UInt8) := (tree.read path).toOption

/-- The bytes together with the path. -/
def opened? (tree : Tree) (path : Text) : Option (Text × List UInt8) :=
  (tree.bytes? path).map fun bytes => (path, bytes)

theorem bytes?_eq_some_iff : tree.bytes? path = some bytes ↔ tree.read path = .ok bytes := by
  rw [bytes?]
  cases tree.read path <;> simp [Except.toOption]

theorem isSome_bytes? (tree : Tree) (path : Text) :
    (tree.bytes? path).isSome = tree.isFile path := by
  rw [Bool.eq_iff_iff, isFile_iff, Option.isSome_iff_exists]
  simp only [bytes?_eq_some_iff]

end Files.Tree

namespace Attachment

open MediaType (isRemote)

variable {around other : Surroundings} {argument locator type path : Text} {rest : List Text}
  {bytes : List UInt8}

/-! ### Remote attachments -/

theorem typeOf_congr (htypes : around.types = other.types) (hprobe : around.probe = other.probe)
    (locator : Text) (token : Option Text) :
    typeOf around locator token = typeOf other locator token := by
  rw [typeOf.eq_def, typeOf.eq_def, htypes, hprobe]

/-- A remote attachment only depends on its type. -/
theorem resolve_remote (hwords : Text.words argument = locator :: rest)
    (hremote : isRemote locator = true) :
    resolve around argument =
      (typeOf around locator rest.head?).map fun type => ofUrl type locator := by
  rw [resolve_of_words hwords]
  simp only [hremote, if_true]
  cases typeOf around locator rest.head? <;> rfl

/-! ### Local attachments -/

/-- The type of a local file, which follows from the argument and what is known of its extension. -/
def localType (types : MediaType.Table) (locator : Text) (token : Option Text) : Text :=
  match token with
  | some token => MediaType.ofToken token
  | none => (types.ofLocator? locator).getD MediaType.octetStream

theorem typeOf_local {token : Option Text} (hlocal : isRemote locator = false) :
    typeOf around locator token = .ok (localType around.types locator token) := by
  cases token with
  | some token => rfl
  | none =>
    rw [typeOf.eq_def, localType]
    cases around.types.ofLocator? locator with
    | some type => rfl
    | none => simp [hlocal]

/-- The text of the bytes at a path. -/
def textOfBytes (path : Text) (bytes : List UInt8) : Except AttachmentError Text :=
  match Utf8.decode? bytes with
  | some text => .ok text
  | none => .error (.unreadable path .notText)

/-- The attachment for the bytes at a path. -/
def ofBytes (type path : Text) (bytes : List UInt8) : Except AttachmentError Attachment :=
  if MediaType.holdsJson type then do
    let text ← textOfBytes path bytes
    let content ← (Json.read? text).mapError (.notJson path text)
    pure (ofContent type content)
  else if MediaType.isTextual type then do
    let text ← textOfBytes path bytes
    pure (ofContent type (.string text))
  else pure (ofUrl type (dataUrl type bytes))

theorem readText_of_read (hread : around.files.read path = .ok bytes) :
    readText around path = textOfBytes path bytes := by
  rw [readText, Files.Tree.readText, textOfBytes, hread]
  show Except.mapError _ (match Utf8.decode? bytes with | some text => _ | none => _) = _
  cases Utf8.decode? bytes <;> rfl

/-- What becomes of a file depends on nothing but its bytes. -/
theorem ofFile_of_read (hread : around.files.read path = .ok bytes) :
    ofFile around type path = ofBytes type path bytes := by
  rw [ofFile, ofBytes, readText_of_read hread, hread]
  rfl

/-- The file that a local attachment is taken from, with its path: the one in the working directory,
or else the one that the locator leads to. -/
def found? (around : Surroundings) (locator : Text) : Option (Text × List UInt8) :=
  (around.workingDirectory.bind fun directory =>
    around.files.opened? (Path.joined directory locator)).or (around.files.opened? locator)

/-- The file is found at the first of the candidates that leads to one. -/
theorem find?_candidates (around : Surroundings) (locator : Text) :
    (candidates around locator).find? around.files.isFile =
      (found? around locator).map Prod.fst := by
  rw [candidates, found?]
  cases around.workingDirectory with
  | none =>
    simp only [Option.toList_none, List.map_nil, List.nil_append, List.find?_cons, List.find?_nil,
      Option.bind_none, Option.none_or, Files.Tree.opened?, ← Files.Tree.isSome_bytes?]
    cases around.files.bytes? locator <;> rfl
  | some directory =>
    simp only [Option.toList_some, List.map_cons, List.map_nil, List.singleton_append,
      List.find?_cons, List.find?_nil, Option.bind_some, Files.Tree.opened?,
      ← Files.Tree.isSome_bytes?]
    cases around.files.bytes? (Path.joined directory locator) with
    | some bytes => rfl
    | none => cases around.files.bytes? locator <;> rfl

theorem locate_eq (around : Surroundings) (locator : Text) :
    locate around locator =
      match found? around locator with
      | some (path, _) => .ok path
      | none => .error (.notFound locator (candidates around locator)) := by
  rw [locate, find?_candidates]
  cases found? around locator <;> rfl

theorem found?_eq_none_iff (around : Surroundings) (locator : Text) :
    found? around locator = none ↔
      ∀ path ∈ candidates around locator, around.files.isFile path = false := by
  rw [← Option.map_eq_none_iff (f := Prod.fst), ← find?_candidates, List.find?_eq_none]
  simp only [Bool.not_eq_true]

theorem read_of_found? (h : found? around locator = some (path, bytes)) :
    around.files.read path = .ok bytes := by
  have hopened : ∀ place, around.files.opened? place = some (path, bytes) →
      around.files.read path = .ok bytes := by
    intro place hplace
    rw [Files.Tree.opened?, Option.map_eq_some_iff] at hplace
    obtain ⟨content, hcontent, hpair⟩ := hplace
    cases hpair
    exact Files.Tree.bytes?_eq_some_iff.1 hcontent
  rcases Option.or_eq_some_iff.1 h with hfirst | ⟨-, hsecond⟩
  · obtain ⟨directory, -, hfirst⟩ := Option.bind_eq_some_iff.1 hfirst
    exact hopened _ hfirst
  · exact hopened _ hsecond

/-- A local attachment depends on nothing but the argument, what is known of its extension, the file
that is found for it and, if there is none, the paths that have been tried. -/
theorem resolve_local (hwords : Text.words argument = locator :: rest)
    (hlocal : isRemote locator = false) :
    resolve around argument =
      match found? around locator with
      | some (path, bytes) => ofBytes (localType around.types locator rest.head?) path bytes
      | none => .error (.notFound locator (candidates around locator)) := by
  have hresolve : resolve around argument =
      locate around locator >>= ofFile around (localType around.types locator rest.head?) := by
    rw [resolve_of_words hwords, typeOf_local hlocal]
    simp only [hlocal]
    rfl
  rw [hresolve, locate_eq]
  cases hfound : found? around locator with
  | none => rfl
  | some file =>
    obtain ⟨path, bytes⟩ := file
    exact ofFile_of_read (read_of_found? hfound)

/-! ### Nothing found -/

/-- A local attachment is not found exactly if no candidate leads to a file. -/
theorem resolve_eq_notFound_iff (hwords : Text.words argument = locator :: rest)
    (hlocal : isRemote locator = false) (missing : Text) (tried : List Text) :
    resolve around argument = .error (.notFound missing tried) ↔
      (missing = locator ∧ tried = candidates around locator) ∧
        ∀ path ∈ tried, around.files.isFile path = false := by
  have hnone := found?_eq_none_iff around locator
  rw [resolve_local hwords hlocal]
  cases hfound : found? around locator with
  | none =>
    rw [hfound] at hnone
    constructor
    · intro h
      cases h
      exact ⟨⟨rfl, rfl⟩, hnone.1 rfl⟩
    · rintro ⟨⟨rfl, rfl⟩, -⟩
      rfl
  | some file =>
    rw [hfound] at hnone
    constructor
    · intro h
      have hfile : ofFile around (localType around.types locator rest.head?) file.1 =
          .error (.notFound missing tried) := by
        rw [ofFile_of_read (read_of_found? hfound)]
        exact h
      rcases of_ofFile_eq_error hfile with ⟨failure, h⟩ | ⟨text, fault, h⟩
      · cases h
      · cases h
    · rintro ⟨⟨-, rfl⟩, hall⟩
      cases hnone.2 hall

/-! ### Two runs -/

/-- The same file is found if the working directories are one and have the same at the locator and,
where they have no file there, the locator leads to the same by itself. -/
theorem found?_congr (hdirectory : around.workingDirectory = other.workingDirectory)
    (hthere : ∀ directory, around.workingDirectory = some directory →
      around.files.bytes? (Path.joined directory locator) =
        other.files.bytes? (Path.joined directory locator))
    (hhere : (∀ directory, around.workingDirectory = some directory →
        around.files.bytes? (Path.joined directory locator) = none) →
      around.files.bytes? locator = other.files.bytes? locator) :
    found? around locator = found? other locator := by
  rw [found?, found?, ← hdirectory]
  cases hwork : around.workingDirectory with
  | none =>
    have hsame := hhere (by simp [hwork])
    simp only [Option.bind_none, Option.none_or, Files.Tree.opened?, hsame]
  | some directory =>
    have hfirst := hthere directory hwork
    simp only [Option.bind_some, Files.Tree.opened?, ← hfirst]
    cases hbytes : around.files.bytes? (Path.joined directory locator) with
    | some bytes => rfl
    | none =>
      have hsame := hhere (by simp [hwork, hbytes])
      rw [hsame]

/-- Two runs with the same types known by extension. A remote attachment is the same whatever the
files and the working directory, and also whatever the probe, which is not asked then, if its type is
given or follows from the locator. A local one is the same whatever the probe, which is never asked,
and whatever the files apart from the one that the locator leads to in the working directory or, if
there is none, the one that it leads to itself; if these are missing it is not found, and those are
the places that are named. -/
theorem resolve_worlds (hwords : Text.words argument = locator :: rest)
    (around other : Surroundings) (htypes : around.types = other.types) :
    (isRemote locator = true →
        (around.probe = other.probe → resolve around argument = resolve other argument) ∧
        (rest ≠ [] ∨ around.types.ofLocator? locator ≠ none →
          asked around argument = [] ∧ resolve around argument = resolve other argument)) ∧
      (isRemote locator = false →
        asked around argument = [] ∧
        (around.workingDirectory = other.workingDirectory →
          (∀ directory, around.workingDirectory = some directory →
            around.files.bytes? (Path.joined directory locator) =
              other.files.bytes? (Path.joined directory locator)) →
          ((∀ directory, around.workingDirectory = some directory →
              around.files.bytes? (Path.joined directory locator) = none) →
            around.files.bytes? locator = other.files.bytes? locator) →
          resolve around argument = resolve other argument) ∧
        ∀ missing tried, resolve around argument = .error (.notFound missing tried) ↔
          (missing = locator ∧ tried = (around.workingDirectory.toList.map fun directory =>
            Path.joined directory locator) ++ [locator]) ∧
            ∀ path ∈ tried, around.files.isFile path = false) := by
  constructor
  · intro hremote
    constructor
    · intro hprobe
      rw [resolve_remote hwords hremote, resolve_remote hwords hremote, typeOf_congr htypes hprobe]
    · intro hknown
      have hquestion := question?_of_known hknown
      rw [asked_of_words around hwords, hquestion, resolve_remote hwords hremote,
        resolve_remote hwords hremote, typeOf_of_question? htypes hquestion]
      exact ⟨rfl, rfl⟩
  · intro hlocal
    refine ⟨?_, ?_, ?_⟩
    · rw [asked_of_words around hwords, question?_of_local hlocal]
      rfl
    · intro hdirectory hthere hhere
      have hcandidates : candidates around locator = candidates other locator := by
        rw [candidates, candidates, hdirectory]
      rw [resolve_local hwords hlocal, resolve_local hwords hlocal,
        found?_congr hdirectory hthere hhere, hcandidates, htypes]
    · exact resolve_eq_notFound_iff hwords hlocal

/-- A desk with a note in the drawer `w`, which is the working directory, and one on top. The common
types are known there. -/
def desk (note : Text) (probe : Probe) : Surroundings where
  files := ⟨[], fun place =>
    if place = [] ∨ place = ["w"] then some .directory
    else if place = ["w", "a.txt"] then some (.file (Utf8.encode "hello"))
    else if place = ["a.txt"] ∨ place = ["b.txt"] then some (.file (Utf8.encode note))
    else none⟩
  workingDirectory := some "w"
  probe := probe
  types := .common

/-- The note in the drawer is the same whatever stands on top of the desk and whoever is asked, a
note that is nowhere is looked for in the drawer and on top, and the type of a remote picture is not
asked for. -/
theorem resolve_worlds_desk :
    resolve (desk "one" .offline) "a.txt" = resolve (desk "two" fun _ => .ok "text/html") "a.txt" ∧
      resolve (desk "one" .offline) "gone.txt" =
        .error (.notFound "gone.txt" ["w/gone.txt", "gone.txt"]) ∧
      asked (desk "one" .offline) "https://x.test/a.png" = [] := by
  have hnote := (resolve_worlds (by decide : Text.words "a.txt" = "a.txt".toList :: [])
    (desk "one" .offline) (desk "two" fun _ => .ok "text/html") rfl).2 (by decide)
  have hgone := (resolve_worlds (by decide : Text.words "gone.txt" = "gone.txt".toList :: [])
    (desk "one" .offline) (desk "two" .offline) rfl).2 (by decide)
  have hpicture := (resolve_worlds
    (by decide : Text.words "https://x.test/a.png" = "https://x.test/a.png".toList :: [])
    (desk "one" .offline) (desk "two" .offline) rfl).1 (by decide)
  refine ⟨hnote.2.1 rfl ?_ ?_, (hgone.2.2 _ _).2 ⟨by decide, by decide +kernel⟩,
    (hpicture.2 (.inr (by decide +kernel))).1⟩
  · intro directory hdirectory
    cases hdirectory
    decide +kernel
  · intro hnone
    have hthere := hnone "w" rfl
    revert hthere
    decide +kernel

end Attachment

end Colloquy
