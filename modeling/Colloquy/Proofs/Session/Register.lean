import Colloquy.Proofs.Session.Draft
import Colloquy.Proofs.Session.Freeze
import Colloquy.Proofs.Session.Seeds

/-!
# Names, participants and turns

The two names are kept in three places: as stored values, in the accounts of the participants and in
what opens turns. A directive that fails can leave the places apart, but only when the stored names
are the same letters; in every other session that requests lead to, failed ones included, they agree
(`registered_serve`). If no request fails, the stored names are the ones that were given last.
-/

namespace Colloquy.Session

variable {scene : Scene} {session next last : Session}

/-! ### Requests -/

/-- What a session can be asked for. -/
inductive Request where
  | line (line : Line)
  | scan (dialogue : Text)
  | directive (key value : Text)
deriving DecidableEq, Repr

/-- The directive that a request gives, if it gives one. -/
def Request.directive? : Request → Option (Text × Text)
  | .line raw => LineEvent.directive? raw.text
  | .scan _ => none
  | .directive key value => some (key, value)

/-- The session after a request that succeeds. -/
def answer (scene : Scene) (session : Session) : Request → Except Halt Session
  | .line line => session.consume scene line
  | .scan dialogue => session.speak scene dialogue
  | .directive key value => session.applyDirective key value

/-- The session after some requests, of which each can have failed. -/
def serve (scene : Scene) (session : Session) (requests : List Request) : Session :=
  requests.foldl (fun session request => left id (session.answer scene request)) session

/-- The session after some requests that all succeed. -/
def serveAll (scene : Scene) (session : Session) (requests : List Request) : Except Halt Session :=
  requests.foldlM (answer scene) session

theorem moves_answer (request : Request) :
    Moves scene (fun _ => True) session (left id (session.answer scene request)) := by
  cases request with
  | line line => exact moves_consume fun _ _ _ _ => trivial
  | scan dialogue => exact (touches_speak dialogue).moves
  | directive key value => exact moves_applyDirective key value

theorem moves_serve (requests : List Request) :
    Moves scene (fun _ => True) session (session.serve scene requests) := by
  induction requests generalizing session with
  | nil => exact .refl
  | cons request rest ih => exact (moves_answer request).trans ih

theorem serve_of_serveAll {requests : List Request}
    (h : session.serveAll scene requests = .ok last) : session.serve scene requests = last := by
  induction requests generalizing session with
  | nil =>
    cases h
    rfl
  | cons request rest ih =>
    obtain ⟨next, hnext, h⟩ := foldlM_cons_eq_ok.1 h
    rw [serve, List.foldl_cons, hnext]
    exact ih h

/-! ### Names, accounts and turns agree -/

/-- What opens turns are the names of the participants. They have accounts of their own names and
sides, and names that can be told apart: the stored ones, unless these cannot be told apart. -/
structure Registered (session : Session) : Prop where
  turns : session.turns = session.config.participants.map .ofParticipants
  accounts : ∀ people, session.config.participants = some people → ∀ role,
    (people.account role).id = Identifier.ofName (people.account role).name ∧
      (people.account role).role = role
  apart : ∀ people, session.config.participants = some people →
    Text.sameLetters people.bot.name people.user.name = false
  stored : ∀ people, session.config.participants = some people →
    ∃ bot user, session.config.get? Role.bot.name = some bot ∧
      session.config.get? Role.user.name = some user ∧
      ((people.bot.name = bot ∧ people.user.name = user) ∨ Text.sameLetters bot user = true)
  upToDate : session.config.UpToDate

theorem registered_of_founded (hpattern : session.Patterned) (hfounded : session.config.Founded)
    (hcurrent : session.config.UpToDate) : session.Registered := by
  refine ⟨hpattern, ?_, ?_, hfounded.stored, hcurrent⟩
  · intro people hpeople role
    obtain ⟨bot, user, rfl, -⟩ := hfounded.made people hpeople
    cases role with
    | bot => exact ⟨rfl, rfl⟩
    | user => exact ⟨rfl, rfl⟩
  · intro people hpeople
    obtain ⟨bot, user, rfl, hletters⟩ := hfounded.made people hpeople
    exact hletters

/-! ### Requests that succeed -/

theorem of_applyDirective_eq_ok {key value : Text}
    (h : session.applyDirective key value = .ok next) :
    (∃ isNew, (session.config.apply key value).2 = .ok isNew) ∧
      next.config = (session.config.apply key value).1 := by
  refine ⟨?_, eq_directed_of_applyDirective h ▸ config_directed session key value⟩
  cases hresult : (session.config.apply key value).2 with
  | ok isNew => exact ⟨isNew, rfl⟩
  | error cause =>
    simp only [applyDirective, hresult] at h
    cases h

theorem config_of_speak {dialogue : Text} (h : session.speak scene dialogue = .ok next) :
    next.config = session.config := by
  have htouches := @touches_speak scene session dialogue
  rw [h] at htouches
  exact htouches.kept.1

/-- A line that is consumed does to the configuration what it is read to do. -/
theorem config_of_consume {line : Line} (hpattern : session.Patterned)
    (h : session.consume scene line = .ok next) : next.config = (session.config.read line).1 := by
  have hconsumed := of_consume_eq_ok h
  have hturns : session.turns = session.config.turns := hpattern
  rw [Configuration.read, ← hturns]
  cases hevent : LineEvent.ofText session.turns line.text with
  | directive key value =>
    simp only [hevent] at hconsumed
    exact (@of_applyDirective_eq_ok { session with line } next key value hconsumed).2
  | turn speaker remainder =>
    simp only [hevent] at hconsumed
    obtain ⟨opened, hopened, hspeak⟩ := hconsumed
    obtain ⟨people, role, -, -, rfl⟩ := openTurn_eq_ok_iff.1 hopened
    rw [config_of_speak hspeak]
    simp [turned, openActivity]
  | content text =>
    simp only [hevent] at hconsumed
    exact @config_of_speak scene { session with line } next text hconsumed.2

/-- A request that succeeds gives its directive to the configuration. Without one it can lock the
configuration, but changes nothing else in it. -/
theorem config_of_answer {request : Request} (h : session.answer scene request = .ok next) :
    match request.directive? with
    | some (key, value) => (∃ isNew, (session.config.apply key value).2 = .ok isNew) ∧
        next.config = (session.config.apply key value).1
    | none => next.config.values = session.config.values := by
  cases request with
  | scan dialogue => exact congrArg Configuration.values (config_of_speak h)
  | directive key value => exact of_applyDirective_eq_ok h
  | line line =>
    have hconsumed := of_consume_eq_ok h
    simp only [Request.directive?]
    cases hdirective : LineEvent.directive? line.text with
    | some entry =>
      simp only [LineEvent.ofText, hdirective] at hconsumed
      exact @of_applyDirective_eq_ok { session with line } next _ _ hconsumed
    | none =>
      simp only [LineEvent.ofText, hdirective] at hconsumed
      cases hsplit : session.turns.bind fun pattern => pattern.split? line.text with
      | some turn =>
        simp only [hsplit] at hconsumed
        obtain ⟨opened, hopened, hspeak⟩ := hconsumed
        obtain ⟨people, role, -, -, rfl⟩ := openTurn_eq_ok_iff.1 hopened
        rw [config_of_speak hspeak]
        simp [turned, openActivity, Configuration.lock]
      | none =>
        simp only [hsplit] at hconsumed
        rw [config_of_speak hconsumed.2]

theorem given_serveAll {entries : List (Text × Text)} {requests : List Request}
    (hgiven : session.config.Given entries) (h : session.serveAll scene requests = .ok last) :
    last.config.Given (entries ++ requests.filterMap Request.directive?) := by
  induction requests generalizing session entries with
  | nil =>
    cases h
    rw [List.filterMap_nil, List.append_nil]
    exact hgiven
  | cons request rest ih =>
    obtain ⟨next, hnext, h⟩ := foldlM_cons_eq_ok.1 h
    have hconfig := config_of_answer hnext
    cases hdirective : request.directive? with
    | none =>
      simp only [hdirective] at hconfig
      rw [List.filterMap_cons_none hdirective]
      refine ih ⟨?_, hgiven.apart⟩ h
      intro key
      rw [Configuration.get?, hconfig]
      exact hgiven.values key
    | some entry =>
      simp only [hdirective] at hconfig
      obtain ⟨⟨isNew, hok⟩, hnext⟩ := hconfig
      rw [List.filterMap_cons_some hdirective, ← List.singleton_append, ← List.append_assoc]
      refine ih ?_ h
      rw [hnext]
      exact hgiven.apply hok

theorem given_seeds {entries seeds : List (Text × Text)} (hgiven : session.config.Given entries)
    (h : seeds.foldlM seed session = .ok last) : last.config.Given (entries ++ seeds) := by
  induction seeds generalizing session entries with
  | nil =>
    cases h
    rwa [List.append_nil]
  | cons entry rest ih =>
    obtain ⟨next, hnext, h⟩ := foldlM_cons_eq_ok.1 h
    obtain ⟨⟨isNew, hok⟩, hconfig⟩ := of_applyDirective_eq_ok hnext
    rw [← List.singleton_append, ← List.append_assoc]
    refine ih ?_ h
    rw [hconfig]
    exact hgiven.apply hok

/-! ### All requests -/

/-- Whatever requests come, and however many of them fail, stored names, participants and turns
agree, and a directive says that the participants are new exactly if it replaces them. If none of
the requests fails, there are participants exactly if both names are stored, and theirs are the
names that have been given last. -/
theorem registered_serve {world : World} {options : Options} {first : Session}
    (hstart : Session.start world.now options = .ok first) (requests : List Request) :
    (first.serve (world.scene options) requests).Registered ∧
      (∀ key value,
        ((first.serve (world.scene options) requests).config.apply key value).2 = .ok true ↔
          ((first.serve (world.scene options) requests).config.apply key value).1.participants ≠
            (first.serve (world.scene options) requests).config.participants) ∧
      ∀ last, first.serveAll (world.scene options) requests = .ok last →
        last = first.serve (world.scene options) requests ∧
          (∀ key, last.config.get? key = Configuration.last?
            (options.seeds ++ requests.filterMap Request.directive?) key) ∧
          (last.config.participants ≠ none ↔ ∀ role : Role, last.config.get? role.name ≠ none) ∧
          ∀ bot user, last.config.get? Role.bot.name = some bot →
            last.config.get? Role.user.name = some user →
            last.config.participants = some (.ofNames bot user) := by
  have hmoves := (@moves_start (world.scene options) (fun _ => True) _ _ _ hstart).trans
    (moves_serve requests)
  -- To the configuration all requests are directives and locks, whatever comes of them.
  obtain ⟨steps, hsteps⟩ := exists_run_of_moves hmoves
  have hfounded := Configuration.founded_empty.run steps
  have hcurrent := Configuration.upToDate_empty.run Configuration.founded_empty steps
  have hfresh : (fresh world.now options).config = {} := rfl
  rw [← hfresh, ← hsteps] at hfounded hcurrent
  have hblank : (fresh world.now options).Patterned := rfl
  refine ⟨registered_of_founded (hblank.moves hmoves) hfounded hcurrent,
    fun key value => Configuration.apply_eq_ok_true_iff, ?_⟩
  intro last hlast
  have hserve := serve_of_serveAll hlast
  rw [hserve] at hfounded hcurrent
  have hgiven := given_serveAll (given_seeds Configuration.given_empty hstart) hlast
  obtain ⟨hpeople, hnamed⟩ := hgiven.participants hfounded hcurrent
  refine ⟨hserve.symm, hgiven.values, hpeople, ?_⟩
  intro bot user hbot huser
  exact hnamed bot user ((hgiven.values _).symm.trans hbot) ((hgiven.values _).symm.trans huser)

/-- Requests that rename both sides before the first turn. -/
def renamings : List Request :=
  [.line ⟨1, "user= Max "⟩, .directive "bot" "Sam", .line ⟨2, "sam: hi"⟩]

/-- Requests of which some fail: a name that both sides would have, a name that can no longer be
changed, an attachment that does not exist. -/
def mixups : List Request :=
  [.directive "bot" "SAM", .line ⟨1, "user=Max"⟩, .line ⟨2, "sam: hi"⟩, .line ⟨3, "bot=Zoe"⟩,
    .scan "look [attachment=gone.png]"]

theorem registered_serve_renamings :
    (outset.serve (World.bare.scene .named) mixups).Registered ∧
      ∃ last, outset.serveAll (World.bare.scene .named) renamings = .ok last ∧
        last.config.participants = some (.ofNames "Sam" "Max") := by
  refine ⟨(@registered_serve .bare .named outset rfl mixups).1, ?_⟩
  have hok : (outset.serveAll (World.bare.scene .named) renamings).isOk = true := by decide +kernel
  cases hlast : outset.serveAll (World.bare.scene .named) renamings with
  | error halt =>
    rw [hlast] at hok
    cases hok
  | ok last =>
    obtain ⟨-, hvalues, -, hnamed⟩ :=
      (@registered_serve .bare .named outset rfl renamings).2.2 last hlast
    refine ⟨last, rfl, hnamed "Sam" "Max" ?_ ?_⟩
    · rw [hvalues]
      decide +kernel
    · rw [hvalues]
      decide +kernel

end Colloquy.Session
