import Colloquy.Proofs.Session.Relabel

/-!
# Transcripts without the names of their activities

The identifiers of activities come from the world, and a session only hands them on. So a script that
has a transcript in one world has the same one, up to identifiers, in a world that differs in these
(`ofScript_of_ids`).
-/

namespace Colloquy

/-- The activity without its identifier. -/
def Activity.anonymous (activity : Activity) : Activity := { activity with id := [] }

/-- The world that has no identifiers to give. -/
def World.anonymous (world : World) : World := { world with ids := fun _ => [] }

/-- The transcript without the identifiers of its activities. -/
def Transcript.anonymous (transcript : Transcript) : Transcript :=
  { transcript with activities := transcript.activities.map Activity.anonymous }

/-- No identifier for any activity. -/
def Relabelling.anonymous : Relabelling := ⟨fun _ => [], id⟩

theorem Relabelling.transcript_anonymous (transcript : Transcript) :
    Relabelling.anonymous.transcript transcript = transcript.anonymous := by
  have hwarnings : transcript.warnings.map (Warning.renumber id) = transcript.warnings :=
    List.map_id'' Warning.renumber_id transcript.warnings
  rw [Relabelling.transcript, Transcript.anonymous]
  exact congrArg (Transcript.mk _) hwarnings

/-- Forgetting the identifiers commutes with reading a script. -/
theorem anonymous_ofScript (world : World) (options : Options) (source : Text) :
    Transcript.ofScript world.anonymous options source =
      (Transcript.ofScript world options source).map Transcript.anonymous := by
  have hlines : (Line.ofSource source).map (Line.renumber id) = Line.ofSource source :=
    List.map_id'' Line.renumber_id _
  have hread : Transcript.ofScript world.anonymous options source = _ :=
    relabel_ofScript .anonymous rfl world options hlines
  rw [hread]
  cases Transcript.ofScript world options source with
  | error cause => exact congrArg Except.error cause.renumber_id
  | ok transcript => exact congrArg Except.ok (Relabelling.transcript_anonymous transcript)

/-- With other identifiers a script has the same transcript up to these. -/
theorem ofScript_of_ids {world : World} {options : Options} {source : Text} {transcript : Transcript}
    (h : Transcript.ofScript world options source = .ok transcript) (ids : Nat → Text) :
    ∃ other, Transcript.ofScript { world with ids } options source = .ok other ∧
      other.anonymous = transcript.anonymous := by
  have hother := anonymous_ofScript { world with ids } options source
  have hworld : ({ world with ids } : World).anonymous = world.anonymous := rfl
  rw [hworld, anonymous_ofScript, h] at hother
  cases hscript : Transcript.ofScript { world with ids } options source with
  | error cause =>
    rw [hscript] at hother
    cases hother
  | ok other =>
    rw [hscript] at hother
    exact ⟨other, rfl, (Except.ok.inj hother).symm⟩

end Colloquy
