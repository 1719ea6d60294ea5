import Colloquy.Proofs.Session.Validity
import Colloquy.Proofs.Transcript.Prefix

/-!
# Two ways to end an activity

A turn or a command closes the open activity by trimming its text; at the end of a script the text
only loses its last line break. Both leave the same, since whatever has been put to an open activity
are lines, each with a break behind it and without blanks at its ends (`Session.Lined`). What has
been closed stays trimmed (`Session.Trimmed`), so no text of a transcript has a blank at either end,
however many calls of its session have failed: `Session.tight_run`.
-/

namespace Colloquy.Session

variable {scene : Scene} {delays : Int → Prop} {session next : Session}

/-- No text of a closed activity has a blank at either end. -/
def Trimmed (session : Session) : Prop := ∀ activity ∈ session.done, Text.Tight activity.text

theorem Trimmed.frame (h : session.Trimmed) (hdone : next.done = session.done) : next.Trimmed := by
  rw [Trimmed, hdone]
  exact h

theorem Trimmed.close (h : session.Trimmed) : session.close.Trimmed := by
  intro activity hactivity
  rw [done_close, List.mem_append] at hactivity
  rcases hactivity with hdone | hclosed
  · exact h activity hdone
  · obtain ⟨before, -, rfl⟩ := List.mem_map.1 hclosed
    exact Text.tight_trim before.text

/-- Only closing adds to what is closed. -/
theorem Trimmed.move (h : session.Trimmed) (hmove : Move scene delays session next) :
    next.Trimmed := by
  cases hmove with
  | read line => exact h.frame rfl
  | direct key value => exact h.frame (done_directed session key value)
  | warn warning => exact h.frame rfl
  | stamp gap _ => exact h.frame rfl
  | append activity fragment _ _ => exact h.frame rfl
  | attach activity argument attachment _ _ => exact h.frame rfl
  | arrange activity layout _ => exact h.frame rfl
  | turn people speaker role _ _ => exact h.close.frame rfl
  | split activity kind _ => exact h.close.frame rfl

theorem Trimmed.moves (h : session.Trimmed) (hmoves : Moves scene delays session next) :
    next.Trimmed := by
  induction hmoves with
  | refl => exact h
  | tail _ hmove ih => exact ih.move hmove

theorem trimmed_fresh (now : Time.Moment) (options : Options) : (fresh now options).Trimmed := by
  intro activity hactivity
  cases hactivity

/-- Finishing leaves texts without blanks at their ends, as closing would. -/
theorem Trimmed.tight_finish (h : session.Trimmed) (hlined : session.Lined) :
    ∀ activity ∈ session.finish.activities, Text.Tight activity.text := by
  rw [← hlined.done_close]
  exact h.close

/-- After any history of calls, failed ones among them, the text of the open activity is a row of
fragments with a line break behind each. So dropping the last break leaves what trimming leaves, the
session finishes with the activities that closing gives, and none of their texts has a blank at either
end. That goes for every transcript of a script. -/
theorem tight_run {world : World} {options : Options} {first : Session}
    (hstart : Session.start world.now options = .ok first) (calls : List Call) :
    (∀ activity, (first.run (world.scene options) calls).current = some activity →
        (∃ parts, (∀ part ∈ parts, Text.Fragment part) ∧
          activity.text = Text.terminated '\n' parts) ∧
        dropBreak activity.text = Text.trim activity.text) ∧
      (first.run (world.scene options) calls).finish.activities =
        (first.run (world.scene options) calls).close.done ∧
      (∀ activity ∈ (first.run (world.scene options) calls).finish.activities,
        Text.Tight activity.text) ∧
      ∀ source transcript, Transcript.ofScript world options source = .ok transcript →
        ∀ activity ∈ transcript.activities, Text.Tight activity.text := by
  have hrun : ∀ more : List Call, (first.run (world.scene options) more).Lined ∧
      (first.run (world.scene options) more).Trimmed := by
    intro more
    have hmoves : Moves (world.scene options) _ _ (first.run (world.scene options) more) :=
      moves_history hstart more
    exact ⟨(lined_fresh _ _).moves hmoves, (trimmed_fresh _ _).moves hmoves⟩
  obtain ⟨hlined, htrimmed⟩ := hrun calls
  refine ⟨?_, hlined.done_close.symm, htrimmed.tight_finish hlined, ?_⟩
  · intro activity hcurrent
    exact ⟨hlined activity hcurrent, (hlined.trim_text hcurrent).symm⟩
  · intro source transcript hscript
    obtain ⟨other, last, hother, hlines, rfl⟩ := ofScript_eq_ok_iff.1 hscript
    cases hstart.symm.trans hother
    rw [← run_of_consumeAll hlines]
    obtain ⟨hlast, hclosed⟩ := hrun ((Line.ofSource source).map .line)
    exact hclosed.tight_finish hlast

/-- Dialogue of two lines and odd blanks, which is broken off by an attachment that does not exist. -/
def ramblings : List Call :=
  [.line ⟨1, "Zoe: \u3000one [hm]\ntwo\u00a0[typing]\t "⟩, .scan " three\n\n four [delay=1] five\u2003",
    .scan "six [event] seven [attachment=gone.png] eight"]

theorem tight_run_ramblings :
    (∀ activity ∈ (outset.run (World.bare.scene .named) ramblings).finish.activities,
        Text.Tight activity.text) ∧
      (outset.run (World.bare.scene .named) ramblings).finish.activities.map Activity.text =
        ["one two".toList, "three\n\n four five\nsix".toList, []] := by
  refine ⟨(@tight_run .bare .named outset rfl ramblings).2.2.1, ?_⟩
  decide +kernel

end Colloquy.Session
