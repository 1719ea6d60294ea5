import Colloquy.Attachment.Resolve

/-!
# Questions to the probe

Whether the probe is asked for a type cannot be seen from the attachment that is found.
`resolveNoting` finds attachments in the same steps and notes every URL that the probe is asked
about. It finds what `resolve` finds (`run_resolveNoting`), and it asks at most once, about a remote
locator whose type is neither given nor known from its ending (`asked_of_words`).
-/

namespace Colloquy.Attachment

open MediaType (isRemote)

variable {around : Surroundings} {types : MediaType.Table} {argument locator : Text}
  {rest : List Text}

/-- A computation that can fail, with a note of the URLs that a probe has been asked about. -/
abbrev Noting := ExceptT AttachmentError (StateM (List Text))

/-- An outcome that no probe has been asked about. -/
def Noting.of {α : Type} (outcome : Except AttachmentError α) : Noting α := .mk (pure outcome)

/-- The probe's answer, with a note of the question. -/
def askNoting (probe : Probe) (url : Text) : Noting Text := .mk do
  modify fun asked => asked ++ [url]
  pure ((probe url).mapError (.unknownType url))

/-- `typeOf` with notes. -/
def typeOfNoting (around : Surroundings) (locator : Text) (token : Option Text) : Noting Text :=
  match token with
  | some token => pure (MediaType.ofToken token)
  | none =>
    match around.types.ofLocator? locator with
    | some type => pure type
    | none =>
      if isRemote locator then askNoting around.probe locator
      else pure MediaType.octetStream

/-- `resolve` with notes. -/
def resolveNoting (around : Surroundings) (argument : Text) : Noting Attachment :=
  match Text.words argument with
  | [] => .of (.error .missingLocator)
  | locator :: rest => do
    let type ← typeOfNoting around locator rest.head?
    if isRemote locator then pure (ofUrl type locator)
    else
      let path ← Noting.of (locate around locator)
      Noting.of (ofFile around type path)

/-- The URLs that the probe is asked about, in order, when an attachment is looked for. -/
def asked (around : Surroundings) (argument : Text) : List Text :=
  ((resolveNoting around argument).run.run []).2

/-- The question about the type of a locator, if there is one. -/
def question? (types : MediaType.Table) (locator : Text) (token : Option Text) : Option Text :=
  if token = none ∧ types.ofLocator? locator = none ∧ isRemote locator = true then some locator
  else none

theorem run_bind {α β : Type} (step : Noting α) (next : α → Noting β) (notes : List Text) :
    (step >>= next).run.run notes =
      match step.run.run notes with
      | (.ok a, noted) => (next a).run.run noted
      | (.error cause, noted) => (.error cause, noted) := by
  rw [ExceptT.run_bind, StateT.run_bind]
  cases hstep : step.run.run notes with
  | mk outcome noted => cases outcome <;> rfl

theorem question?_of_local {token : Option Text} (h : isRemote locator = false) :
    question? types locator token = none := by
  simp [question?, h]

theorem run_typeOfNoting (around : Surroundings) (locator : Text) (token : Option Text)
    (notes : List Text) :
    (typeOfNoting around locator token).run.run notes =
      (typeOf around locator token, notes ++ (question? around.types locator token).toList) := by
  cases token with
  | some token =>
    have hquestion : question? around.types locator (some token) = none := by simp [question?]
    rw [hquestion, Option.toList_none, List.append_nil]
    rfl
  | none =>
    rw [typeOfNoting.eq_def, typeOf.eq_def]
    cases hlocator : around.types.ofLocator? locator with
    | some type =>
      have hquestion : question? around.types locator none = none := by simp [question?, hlocator]
      rw [hquestion, Option.toList_none, List.append_nil]
      rfl
    | none =>
      cases hremote : isRemote locator with
      | true =>
        have hquestion : question? around.types locator none = some locator := by
          simp [question?, hlocator, hremote]
        rw [hquestion]
        rfl
      | false =>
        rw [question?_of_local hremote, Option.toList_none, List.append_nil]
        rfl

theorem run_of {α : Type} (outcome : Except AttachmentError α) (notes : List Text) :
    (Noting.of outcome).run.run notes = (outcome, notes) := rfl

theorem run_resolveNoting_of_words (hwords : Text.words argument = locator :: rest)
    (notes : List Text) :
    (resolveNoting around argument).run.run notes =
      (resolve around argument, notes ++ (question? around.types locator rest.head?).toList) := by
  rw [resolveNoting, resolve, hwords]
  simp only [run_bind, run_typeOfNoting]
  cases typeOf around locator rest.head? with
  | error cause => rfl
  | ok type =>
    simp only
    split
    · rfl
    · simp only [run_bind, run_of]
      cases locate around locator <;> rfl

/-- With notes the same attachment is found. -/
theorem run_resolveNoting (around : Surroundings) (argument : Text) :
    (resolveNoting around argument).run.run [] =
      (resolve around argument, asked around argument) := by
  refine Prod.ext ?_ rfl
  cases hwords : Text.words argument with
  | nil => rw [resolveNoting, resolve, hwords, run_of]
  | cons locator rest => rw [run_resolveNoting_of_words hwords]

/-- The probe is asked at most once. -/
theorem asked_of_words (around : Surroundings) (hwords : Text.words argument = locator :: rest) :
    asked around argument = (question? around.types locator rest.head?).toList := by
  rw [asked, run_resolveNoting_of_words hwords, List.nil_append]

theorem question?_of_known (h : rest ≠ [] ∨ types.ofLocator? locator ≠ none) :
    question? types locator rest.head? = none := by
  rw [question?, if_neg]
  rintro ⟨htoken, hlocator, -⟩
  rcases h with hrest | hknown
  · exact hrest (List.head?_eq_none_iff.1 htoken)
  · exact hknown hlocator

/-- The type is the same for all probes if there is no question. -/
theorem typeOf_of_question? {other : Surroundings} {token : Option Text}
    (htypes : around.types = other.types) (h : question? around.types locator token = none) :
    typeOf around locator token = typeOf other locator token := by
  rw [typeOf.eq_def, typeOf.eq_def, ← htypes]
  cases token with
  | some token => rfl
  | none =>
    cases hlocator : around.types.ofLocator? locator with
    | some type => rfl
    | none =>
      cases hremote : isRemote locator with
      | true => simp [question?, hlocator, hremote] at h
      | false => rfl

end Colloquy.Attachment
