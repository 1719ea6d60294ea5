import Colloquy.Proofs.Session.Header
import Colloquy.Proofs.Session.Run

/-!
# Attachments of a session

An activity is opened without attachments, and the only move that adds one adds what has been
found. So what holds of everything that can be found holds of all attachments of a session
(`Carries.moves`) and of a transcript (`forall_attachments_ofScript`).
-/

namespace Colloquy

namespace Session

variable {scene : Scene} {delays : Int → Prop} {session next : Session} {P : Attachment → Prop}

/-- The attachments of a session's activities. -/
def attachments (session : Session) : List (List Attachment) :=
  session.activities.map Activity.attachments

/-- Every attachment of an activity has the property. -/
def Carries (P : Attachment → Prop) (session : Session) : Prop :=
  ∀ group ∈ session.attachments, ∀ attachment ∈ group, P attachment

theorem Carries.frame (h : session.Carries P)
    (hattachments : next.attachments = session.attachments) :
    next.Carries P := by
  rw [Carries, hattachments]
  exact h

theorem Carries.opened (h : session.Carries P)
    (hattachments : next.attachments = session.attachments ++ [[]]) : next.Carries P := by
  rw [Carries, hattachments]
  intro group hmem
  rcases List.mem_append.1 hmem with hmem | hmem
  · exact h group hmem
  · rw [List.mem_singleton.1 hmem]
    simp

theorem Carries.attach (h : session.Carries P) {activity : Activity} {attachment : Attachment}
    (hcurrent : session.current = some activity) (hfound : P attachment) :
    ({ session with
      current := some { activity with
        attachments := activity.attachments ++ [attachment] } } : Session).Carries P := by
  have hold : session.attachments =
      session.done.map Activity.attachments ++ [activity.attachments] := by
    simp [attachments, activities, hcurrent]
  rw [Carries, hold] at h
  intro group hmem other hother
  have hgroup : group ∈ session.done.map Activity.attachments ∨
      group = activity.attachments ++ [attachment] := by
    simpa [attachments, activities] using hmem
  rcases hgroup with hgroup | rfl
  · exact h group (List.mem_append_left _ hgroup) other hother
  · rcases List.mem_append.1 hother with hother | hother
    · exact h activity.attachments (by simp) other hother
    · rw [List.mem_singleton.1 hother]
      exact hfound

theorem Carries.move
    (hfound : ∀ argument attachment, Attachment.resolve scene.around argument = .ok attachment →
      P attachment)
    (h : session.Carries P) (hmove : Move scene delays session next) : next.Carries P := by
  cases hmove with
  | read line => exact h.frame rfl
  | direct key value =>
    refine h.frame ?_
    rw [attachments, activities_directed, attachments]
  | warn warning => exact h.frame rfl
  | stamp gap _ => exact h.frame (map_activities_stamped (fun _ _ => rfl) session gap)
  | append activity fragment hcurrent _ => exact h.frame (map_activities_of_current hcurrent rfl)
  | attach activity argument attachment hcurrent hresolve =>
    exact h.attach hcurrent (hfound argument attachment hresolve)
  | arrange activity layout hcurrent => exact h.frame (map_activities_of_current hcurrent rfl)
  | turn people speaker role _ _ =>
    exact h.opened (map_activities_turned (fun _ _ => rfl) session people role)
  | split activity kind _ => exact h.opened (map_activities_split (fun _ _ => rfl) session kind _ _)

theorem Carries.moves
    (hfound : ∀ argument attachment, Attachment.resolve scene.around argument = .ok attachment →
      P attachment)
    (h : session.Carries P) (hmoves : Moves scene delays session next) : next.Carries P := by
  induction hmoves with
  | refl => exact h
  | tail _ hmove ih => exact ih.move hfound hmove

theorem carries_fresh (now : Time.Moment) (options : Options) : (fresh now options).Carries P := by
  have hnone : (fresh now options).activities = [] := rfl
  simp [Carries, attachments, hnone]

end Session

/-- What holds of everything that can be found holds of all attachments of a transcript. -/
theorem forall_attachments_ofScript {world : World} {options : Options} {source : Text}
    {transcript : Transcript} {P : Attachment → Prop}
    (hfound : ∀ argument attachment,
      Attachment.resolve (world.scene options).around argument = .ok attachment → P attachment)
    (h : Transcript.ofScript world options source = .ok transcript) :
    ∀ activity ∈ transcript.activities, ∀ attachment ∈ activity.attachments, P attachment := by
  obtain ⟨first, last, hstart, hlast, rfl⟩ := ofScript_eq_ok_iff.1 h
  have hmoves := @Session.moves_run_of_any (world.scene options) first
    ((Line.ofSource source).map .line)
  rw [Session.run_of_consumeAll hlast] at hmoves
  have hcarries := ((Session.carries_fresh (P := P) world.now options).moves hfound
    (@Session.moves_start (world.scene options) (fun _ => True) _ _ _ hstart)).moves hfound hmoves
  intro activity hactivity
  exact hcarries activity.attachments (Session.view_mem_of_mem_finish (fun _ _ => rfl) hactivity)

end Colloquy
