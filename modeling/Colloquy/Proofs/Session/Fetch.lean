import Colloquy.Proofs.Attachment.Locator
import Colloquy.Proofs.Session.Draft

/-!
# What a scan asks for

With an activity open nothing but the attachments that dialogue asks for decides what comes of a scan. If
all of them can be had, the scan succeeds and leaves an activity open; otherwise it fails over the first
that cannot (`fetches_scan`). What is asked for is never blank, so a missing locator is not among the
reasons.
-/

namespace Colloquy

theorem Attachment.ne_missingLocator_of_fragment {around : Surroundings} {argument : Text}
    {cause : AttachmentError} (hargument : Text.Fragment argument)
    (h : resolve around argument = .error cause) : cause ≠ .missingLocator := by
  rintro rfl
  exact hargument.words_ne_nil ((resolve_eq_missingLocator_iff around argument).1 h)

namespace Session

variable {scene : Scene} {session : Session}

/-- The arguments of the attachments that dialogue asks for. -/
def requestsOf (dialogue : Text) : List Text :=
  (Segment.segments dialogue).filterMap Segment.request?

/-- The attachment that an argument asks for can be had. -/
def Available (scene : Scene) (argument : Text) : Prop :=
  ∃ attachment, Attachment.resolve scene.around argument = .ok attachment

/-- The error is about the first of some requests that cannot be met. -/
def Unmet (scene : Scene) (line : Nat) (requests : List Text) (error : ScriptError) : Prop :=
  ∃ before argument after cause, requests = before ++ argument :: after ∧
    (∀ other ∈ before, Available scene other) ∧
    Attachment.resolve scene.around argument = .error cause ∧ cause ≠ .missingLocator ∧
    error = .attachment line cause

theorem Unmet.cons {line : Nat} {argument : Text} {requests : List Text} {error : ScriptError}
    (h : Unmet scene line requests error) (hargument : Available scene argument) :
    Unmet scene line (argument :: requests) error := by
  obtain ⟨before, other, after, cause, rfl, hbefore, hother⟩ := h
  exact ⟨argument :: before, other, after, cause, rfl, List.forall_mem_cons.2 ⟨hargument, hbefore⟩,
    hother⟩

theorem Unmet.exists_cause {line : Nat} {requests : List Text} {error : ScriptError}
    (h : Unmet scene line requests error) :
    ∃ cause, cause ≠ .missingLocator ∧ error = .attachment line cause := by
  obtain ⟨-, -, -, cause, -, -, -, hcause, herror⟩ := h
  exact ⟨cause, hcause, herror⟩

/-- A step has left an activity open and has met all requests, or has failed over the first that cannot
be met. -/
def Fetches {α : Type} (scene : Scene) (view : α → Session) (line : Nat) (requests : List Text) :
    Except Halt α → Prop
  | .ok result => (view result).current ≠ none ∧ ∀ argument ∈ requests, Available scene argument
  | .error halt => Unmet scene line requests halt.error

/-! ### Scanning -/

/-- A segment with an activity open fails over its own request only. -/
theorem fetches_take {scan : Scan} {activity : Activity}
    (hcurrent : scan.session.current = some activity) (segment : Segment) :
    Fetches scene Scan.session scan.session.line.number segment.request?.toList
      (scan.take scene segment) := by
  cases hrequest : segment.request? with
  | none =>
    obtain ⟨next, hnext⟩ := @exists_take scene scan segment activity hcurrent (by simp [hrequest])
    obtain ⟨-, -, other, hother⟩ := kept_take hcurrent hnext
    rw [hnext]
    exact ⟨by simp [hother], by simp⟩
  | some argument =>
    cases hresolve : Attachment.resolve scene.around argument with
    | error cause =>
      rw [take_foiled hcurrent hrequest hresolve]
      exact ⟨[], argument, [], cause, rfl, by simp, hresolve,
        Attachment.ne_missingLocator_of_fragment (Segment.fragment_of_request? hrequest) hresolve, rfl⟩
    | ok attachment =>
      obtain ⟨next, hnext⟩ := @exists_take scene scan segment activity hcurrent
        (by simp [hrequest, hresolve])
      obtain ⟨-, -, other, hother⟩ := kept_take hcurrent hnext
      rw [hnext]
      exact ⟨by simp [hother], by simpa using ⟨attachment, hresolve⟩⟩

theorem fetches_takeAll {segments : List Segment} {scan : Scan} {activity : Activity}
    (hcurrent : scan.session.current = some activity) :
    Fetches scene Scan.session scan.session.line.number (segments.filterMap Segment.request?)
      (segments.foldlM (Scan.take scene) scan) := by
  induction segments generalizing scan activity with
  | nil => exact ⟨by simp [hcurrent], by simp⟩
  | cons segment rest ih =>
    have hfirst := @fetches_take scene scan activity hcurrent segment
    rw [List.foldlM_cons]
    cases htake : scan.take scene segment with
    | error halt =>
      rw [htake] at hfirst
      obtain ⟨before, argument, after, cause, hrequest, hbefore, hcause⟩ := hfirst
      refine ⟨before, argument, after ++ rest.filterMap Segment.request?, cause, ?_, hbefore, hcause⟩
      rw [filterMap_cons_toList, hrequest, List.append_assoc, List.cons_append]
    | ok next =>
      obtain ⟨-, hline, other, hother⟩ := kept_take hcurrent htake
      have hrest := ih hother
      rw [htake] at hfirst
      rw [hline] at hrest
      show Fetches scene Scan.session _ _ (rest.foldlM (Scan.take scene) next)
      cases hrequest : segment.request? with
      | none =>
        rw [List.filterMap_cons_none hrequest]
        exact hrest
      | some argument =>
        have hargument : Available scene argument := hfirst.2 argument (by simp [hrequest])
        rw [List.filterMap_cons_some hrequest]
        cases hlast : rest.foldlM (Scan.take scene) next with
        | error halt =>
          rw [hlast] at hrest
          exact Unmet.cons hrest hargument
        | ok last =>
          rw [hlast] at hrest
          exact ⟨hrest.1, List.forall_mem_cons.2 ⟨hargument, hrest.2⟩⟩

theorem exists_current_takeAll {segments : List Segment} {scan last : Scan} {activity : Activity}
    (hcurrent : scan.session.current = some activity)
    (h : segments.foldlM (Scan.take scene) scan = .ok last) :
    ∃ other, last.session.current = some other := by
  have hfetches := @fetches_takeAll scene segments scan activity hcurrent
  rw [h] at hfetches
  exact Option.ne_none_iff_exists'.1 hfetches.1

theorem fetches_scan {activity : Activity} (hcurrent : session.current = some activity)
    (dialogue : Text) :
    Fetches scene Prod.fst session.line.number (requestsOf dialogue)
      (session.scan scene dialogue) := by
  have hall := @fetches_takeAll scene (Segment.segments dialogue) { session } activity hcurrent
  rw [scan]
  cases htaken : (Segment.segments dialogue).foldlM (Scan.take scene) { session } with
  | error halt =>
    rw [htaken] at hall
    exact hall
  | ok last =>
    rw [htaken] at hall
    obtain ⟨other, hother⟩ := Option.ne_none_iff_exists'.1 hall.1
    show Fetches scene Prod.fst _ _ (last.flush >>= _)
    rw [flush_eq hother]
    exact ⟨by simp [written], hall.2⟩

theorem phase_eq_inTurn_iff :
    session.phase = .inTurn ↔ session.config.participants ≠ none ∧ session.current ≠ none := by
  rw [phase]
  cases session.config.participants <;> cases session.current <;> simp

theorem phase_scan {next : Session} {dialogue : Text} {count : Nat} (hphase : session.phase = .inTurn)
    (hopen : next.current ≠ none) (hscan : session.scan scene dialogue = .ok (next, count)) :
    next.phase = .inTurn := by
  have htouches : Touches scene (fun _ => True) session (left Prod.fst (session.scan scene dialogue)) :=
    touches_scan fun _ _ => trivial
  rw [hscan] at htouches
  have hconfig : next.config = session.config := htouches.kept.1
  rw [phase_eq_inTurn_iff] at hphase ⊢
  exact ⟨hconfig ▸ hphase.1, hopen⟩

theorem fetches_speak {activity : Activity} (hcurrent : session.current = some activity)
    (dialogue : Text) :
    Fetches scene id session.line.number (requestsOf dialogue) (session.speak scene dialogue) := by
  have hfetches := @fetches_scan scene session activity hcurrent dialogue
  rw [speak]
  cases hscan : session.scan scene dialogue with
  | error halt =>
    rw [hscan] at hfetches
    exact hfetches
  | ok result =>
    rw [hscan] at hfetches
    exact hfetches

end Session

end Colloquy
