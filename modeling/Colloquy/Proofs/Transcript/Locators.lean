import Colloquy.Proofs.Script.Grammar
import Colloquy.Proofs.Session.Rejection
import Colloquy.Proofs.Transcript.Prefix

/-!
# Scripts and their locators

In a turn a scan can only fail over an attachment that it asks for, and never for want of a locator. A
script's lines are scanned in a turn or refused before, so no script fails for want of a locator either
(`Session.fetch_in_turn`).
-/

namespace Colloquy

namespace Session

variable {scene : Scene} {session : Session}

theorem consume_ne_missingLocator {line : Line} {halt : Halt}
    (h : session.consume scene line = .error halt) (number : Nat) :
    halt.error ≠ .attachment number .missingLocator := by
  rcases failure_of_consume h with ⟨key, value, -, hfails⟩ | rfl | rfl | ⟨cause, hcause, herror⟩
  · obtain ⟨cause, -, rfl⟩ := of_applyDirective_eq_error hfails
    nofun
  · nofun
  · nofun
  · rw [herror]
    rintro ⟨⟩
    exact hcause rfl

theorem ofScript_ne_missingLocator (world : World) (options : Options) (source : Text) (number : Nat) :
    Transcript.ofScript world options source ≠ .error (.attachment number .missingLocator) := by
  intro h
  rcases ofScript_eq_error_iff.1 h with ⟨halt, hstart, hcause⟩ | ⟨first, halt, -, hlines, hcause⟩
  · obtain ⟨session, entry, -, hseed⟩ := exists_of_foldlM_eq_error hstart
    obtain ⟨cause, -, rfl⟩ := of_applyDirective_eq_error hseed
    cases hcause
  · obtain ⟨session, line, -, hconsume⟩ := exists_of_foldlM_eq_error hlines
    exact consume_ne_missingLocator hconsume number hcause

/-- In a turn a scan of any dialogue succeeds and stays in the turn if all attachments it asks for can
be had, and otherwise fails over the first that cannot, but not for want of a locator. The grammar
takes every dialogue, and no script fails for want of a locator. -/
theorem fetch_in_turn :
    (∀ (scene : Scene) (session : Session) (dialogue : Text), session.phase = .inTurn →
        match session.scan scene dialogue with
        | .ok (next, _) =>
          next.phase = .inTurn ∧ ∀ argument ∈ requestsOf dialogue, Available scene argument
        | .error halt => Unmet scene session.line.number (requestsOf dialogue) halt.error) ∧
      (∀ dialogue,
        Peg.aggregate.Parses dialogue (some ⟨Segment.segments dialogue, dialogue, []⟩) ∧
          ¬Peg.aggregate.Parses dialogue none) ∧
      ∀ (world : World) (options : Options) (source : Text) (number : Nat),
        Transcript.ofScript world options source ≠ .error (.attachment number .missingLocator) := by
  refine ⟨?_, ?_, ofScript_ne_missingLocator⟩
  · intro scene session dialogue hphase
    obtain ⟨activity, hcurrent⟩ := exists_current_of_phase hphase
    have hfetches := @fetches_scan scene session activity hcurrent dialogue
    cases hscan : session.scan scene dialogue with
    | error halt =>
      rw [hscan] at hfetches
      exact hfetches
    | ok result =>
      rw [hscan] at hfetches
      exact ⟨phase_scan hphase hfetches.1 hscan, hfetches.2⟩
  · intro dialogue
    have hparses := (Segment.decomposes_segments dialogue).parses
    refine ⟨hparses, ?_⟩
    intro hfails
    cases hparses.unique hfails

/-- A scan that gets one attachment, lacks an argument and then fails over another attachment. -/
theorem fetch_in_turn_greeted :
    greeted.phase = .inTurn ∧
      ∃ halt, greeted.scan (World.bare.scene .named)
          "[attachment=https://x.test/a.png] [attachment] [attachment=gone.png]" = .error halt ∧
        Unmet (World.bare.scene .named) 1 ["https://x.test/a.png", "gone.png"] halt.error := by
  have hline : greeted.line.number = 1 := by decide +kernel
  have hrequests : requestsOf "[attachment=https://x.test/a.png] [attachment] [attachment=gone.png]" =
      ["https://x.test/a.png", "gone.png"] := by
    decide +kernel
  have hgone : (Attachment.resolve (World.bare.scene .named).around "gone.png").toOption = none := by
    decide +kernel
  have hturn := fetch_in_turn.1 (World.bare.scene .named) greeted
    "[attachment=https://x.test/a.png] [attachment] [attachment=gone.png]" phase_greeted
  rw [hline, hrequests] at hturn
  refine ⟨phase_greeted, ?_⟩
  cases hscan : greeted.scan (World.bare.scene .named)
      "[attachment=https://x.test/a.png] [attachment] [attachment=gone.png]" with
  | error halt =>
    rw [hscan] at hturn
    exact ⟨halt, rfl, hturn⟩
  | ok result =>
    rw [hscan] at hturn
    obtain ⟨attachment, hattachment⟩ := hturn.2 "gone.png" (by simp)
    rw [hattachment] at hgone
    cases hgone

end Session

end Colloquy
