import Colloquy.Script.Segment
import Colloquy.Session.Message
import Colloquy.Proofs.Text.Fragment

/-!
# What segments mean

A segment of dialogue is read here without a session: the fragment of text that it adds, the kind
of the activity that it opens, the gap by which it moves the clock, the attachment and the layout
that it asks for, and the warning that it earns.
-/

namespace Colloquy

theorem Command.tight_name (body : Text) : Text.Tight (ofBody body).name := by
  rw [ofBody]
  split <;> exact Text.tight_trim _

theorem Command.tight_argument {body argument : Text} (h : (ofBody body).argument = some argument) :
    Text.Tight argument := by
  rw [ofBody] at h
  split at h
  · rw [← Option.some.inj h]
    exact Text.tight_trim _
  · cases h

namespace Segment

/-- The fragment that a segment adds to the text of its line. -/
def fragment? : Segment → Option Text
  | dialogue text => if Text.trim text = [] then none else some (Text.trim text)
  | command _ => none

/-- What the command of a segment stands for. -/
def tag? : Segment → Option Tag
  | dialogue _ => none
  | command body => some (Command.ofBody body).tag

/-- The argument of the command of a segment, unless it is empty. -/
def argument? : Segment → Option Text
  | dialogue _ => none
  | command body => (Command.ofBody body).argument.filter (· ≠ [])

/-- The kind of the activity that a segment opens. -/
def kind? (segment : Segment) : Option ActivityKind :=
  match segment.tag? with
  | some (.opens kind) => some kind
  | _ => none

/-- The gap that a delay states, if its argument is an integer. -/
def delay? (segment : Segment) : Option Int :=
  if segment.tag? = some .delay then segment.argument?.bind Text.toInt64? else none

/-- The gap by which a segment moves the clock: the one that a delay states, the usual one for
every other command that is known. -/
def gap? (usual : Int) (segment : Segment) : Option Int :=
  match segment.tag? with
  | none | some .unknown => none
  | some .delay => some (segment.delay?.getD usual)
  | some _ => some usual

/-- The argument of a segment that asks for an attachment. -/
def request? (segment : Segment) : Option Text :=
  if segment.tag? = some .attachment then segment.argument? else none

/-- The layout that a segment sets. -/
def layout? (segment : Segment) : Option Layout :=
  if segment.tag? = some .layout then segment.argument?.bind Layout.ofName? else none

/-- The warning that a segment of a line earns. -/
def warning? (line : Nat) (segment : Segment) : Option Warning :=
  match segment.tag?, segment.argument? with
  | some .unknown, _ => some (.unknownTag line segment.raw)
  | some .delay, none => some (.invalidDelay line [])
  | some .delay, some argument =>
    if Text.toInt64? argument = none then some (.invalidDelay line argument) else none
  | some .attachment, none | some .layout, none => some (.missingArgument line segment.raw)
  | some .layout, some argument =>
    if Layout.ofName? argument = none then some (.invalidLayout line argument) else none
  | _, _ => none

theorem exists_body_of_kind? {segment : Segment} {kind : ActivityKind}
    (h : segment.kind? = some kind) :
    ∃ body, segment = command body ∧ (Command.ofBody body).tag = .opens kind := by
  cases segment with
  | dialogue text => cases h
  | command body =>
    refine ⟨body, rfl, ?_⟩
    simp only [kind?, tag?] at h
    split at h
    · rename_i other htag
      rw [Option.some.inj htag, Option.some.inj h]
    · cases h

theorem exists_body_of_request? {segment : Segment} {argument : Text}
    (h : segment.request? = some argument) :
    ∃ body, segment = command body ∧ (Command.ofBody body).tag = .attachment ∧
      (Command.ofBody body).argument.filter (· ≠ []) = some argument := by
  cases segment with
  | dialogue text => cases h
  | command body =>
    rw [request?] at h
    split at h
    · rename_i htag
      exact ⟨body, rfl, Option.some.inj htag, h⟩
    · cases h

/-- What a segment asks for is not blank. -/
theorem fragment_of_request? {segment : Segment} {argument : Text}
    (h : segment.request? = some argument) : Text.Fragment argument := by
  obtain ⟨body, rfl, -, hargument⟩ := exists_body_of_request? h
  obtain ⟨hsome, hne⟩ := Option.filter_eq_some_iff.1 hargument
  exact ⟨by simpa using hne, Command.tight_argument hsome⟩

theorem gap?_of_kind? {segment : Segment} {kind : ActivityKind} (h : segment.kind? = some kind)
    (usual : Int) : segment.gap? usual = some usual := by
  obtain ⟨body, rfl, htag⟩ := exists_body_of_kind? h
  rw [gap?, tag?, htag]

/-- An argument that is absent or empty reads as no integer. -/
theorem toInt64?_argument (body : Text) :
    Text.toInt64? ((Command.ofBody body).argument.getD []) =
      (command body).argument?.bind Text.toInt64? := by
  have hempty : Text.toInt64? [] = none := by decide
  simp only [argument?]
  cases (Command.ofBody body).argument with
  | none => exact hempty
  | some argument =>
    by_cases hne : argument = []
    · rw [hne]
      exact hempty
    · simp [Option.filter, hne]

theorem delay?_command {body : Text} (htag : (Command.ofBody body).tag = .delay) :
    (command body).delay? = Text.toInt64? ((Command.ofBody body).argument.getD []) := by
  rw [delay?, tag?, htag, if_pos rfl, toInt64?_argument]

example : (command "Delay = 500").delay? = some 500 := by decide
example : gap? 2000 (command "delay:soon") = some 2000 := by decide

theorem warning?_delay {body : Text} (htag : (Command.ofBody body).tag = .delay) (line : Nat) :
    (command body).warning? line =
      if Text.toInt64? ((Command.ofBody body).argument.getD []) = none then
        some (.invalidDelay line ((Command.ofBody body).argument.getD [])) else none := by
  have hempty : Text.toInt64? [] = none := by decide
  simp only [warning?, tag?, htag, argument?]
  cases (Command.ofBody body).argument with
  | none => simp [hempty]
  | some argument =>
    by_cases hne : argument = []
    · simp [hne, Option.filter, hempty]
    · simp [hne, Option.filter]

end Segment

end Colloquy
