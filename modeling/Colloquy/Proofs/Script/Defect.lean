import Colloquy.Proofs.Script.Segment
import Colloquy.Proofs.Text.Digits

/-!
# Commands with a defect

A command has a defect if its name is not known, if it is a delay whose argument is no signed 64-bit
integer, a field without an argument, or a layout that is not known. `Segment.Defect` says so without
reading the command, and the warnings that segments earn are about these defects, one about each
(`Segment.warning?_eq_some_iff`).
-/

namespace Colloquy

/-- The names that are known. -/
def Tag.names : List Text :=
  ActivityKind.all.map ActivityKind.name ++ (["attachment", "attachmentLayout", "delay"] : List Text)

theorem ActivityKind.ofName?_eq_none_iff {name : Text} :
    ofName? name = none ↔ ∀ kind : ActivityKind, Text.sameLetters name kind.name = false := by
  rw [ofName?, List.find?_eq_none]
  constructor
  · intro h kind
    rw [Text.sameLetters_comm]
    exact Bool.eq_false_iff.2 (h kind (mem_all kind))
  · intro h kind _
    rw [Text.sameLetters_comm, h kind]
    exact Bool.false_ne_true

/-- A name stands for nothing if it is not known, in letters of either case. -/
theorem Tag.ofName_eq_unknown_iff {name : Text} (hname : Text.Tight name) :
    ofName name = .unknown ↔ ∀ known ∈ names, Text.sameLetters name known = false := by
  have hkinds : (∀ known ∈ ActivityKind.all.map ActivityKind.name,
      Text.sameLetters name known = false) ↔ ActivityKind.ofName? name = none := by
    rw [ActivityKind.ofName?_eq_none_iff, List.forall_mem_map]
    exact ⟨fun h kind => h kind kind.mem_all, fun h kind _ => h kind⟩
  rw [names, List.forall_mem_append, hkinds, ofName, Text.trim_of_tight hname]
  cases ActivityKind.ofName? name with
  | some kind => simp
  | none =>
    simp only [List.forall_mem_cons, true_and]
    split_ifs <;> simp_all

theorem Layout.ofName?_eq_none_iff {name : Text} (hname : Text.Tight name) :
    ofName? name = none ↔ ∀ layout : Layout, Text.sameLetters name layout.name = false := by
  rw [ofName?, Text.trim_of_tight hname]
  constructor
  · intro h layout
    split_ifs at h with hlist hcarousel
    cases layout with
    | list => exact Bool.eq_false_iff.2 hlist
    | carousel => exact Bool.eq_false_iff.2 hcarousel
  · intro h
    rw [h list, h carousel]
    rfl

namespace Segment

/-- What is wrong with a segment of a line, as the warning about it. -/
inductive Defect (line : Nat) : Segment → Warning → Prop
  | unknownTag {body : Text} :
      (∀ known ∈ Tag.names, Text.sameLetters (Command.ofBody body).name known = false) →
      Defect line (command body) (.unknownTag line (Command.bracketed body))
  | invalidDelay {body argument : Text} : (Command.ofBody body).tag = .delay →
      (Command.ofBody body).argument.getD [] = argument →
      (∀ n, Text.Integer argument n → n < -2 ^ 63 ∨ 2 ^ 63 ≤ n) →
      Defect line (command body) (.invalidDelay line argument)
  | missingArgument {body : Text} :
      (Command.ofBody body).tag = .attachment ∨ (Command.ofBody body).tag = .layout →
      (Command.ofBody body).argument.getD [] = [] →
      Defect line (command body) (.missingArgument line (Command.bracketed body))
  | invalidLayout {body argument : Text} : (Command.ofBody body).tag = .layout →
      (Command.ofBody body).argument = some argument → argument ≠ [] →
      (∀ layout : Layout, Text.sameLetters argument layout.name = false) →
      Defect line (command body) (.invalidLayout line argument)

theorem argument?_eq_some_iff {body argument : Text} : (command body).argument? = some argument ↔
    (Command.ofBody body).argument = some argument ∧ argument ≠ [] := by
  rw [argument?, Option.filter_eq_some_iff]
  simp

theorem argument?_eq_none_iff {body : Text} :
    (command body).argument? = none ↔ (Command.ofBody body).argument.getD [] = [] := by
  rw [argument?]
  cases (Command.ofBody body).argument <;> simp

theorem tag_eq_unknown_iff {body : Text} : (Command.ofBody body).tag = .unknown ↔
    ∀ known ∈ Tag.names, Text.sameLetters (Command.ofBody body).name known = false :=
  Tag.ofName_eq_unknown_iff (Command.tight_name body)

theorem defect_of_warning? {segment : Segment} {line : Nat} {warning : Warning}
    (h : segment.warning? line = some warning) : Defect line segment warning := by
  cases segment with
  | dialogue text => cases h
  | command body =>
    cases htag : (Command.ofBody body).tag with
    | «opens» kind =>
      simp only [warning?, tag?, htag] at h
      cases h
    | unknown =>
      simp only [warning?, tag?, htag] at h
      cases h
      exact .unknownTag (tag_eq_unknown_iff.1 htag)
    | delay =>
      rw [warning?_delay htag] at h
      split at h
      · rename_i hinteger
        cases h
        exact .invalidDelay htag rfl (Text.toInt64?_eq_none_iff.1 hinteger)
      · cases h
    | attachment =>
      cases hargument : (command body).argument? with
      | some argument =>
        simp only [warning?, tag?, htag, hargument] at h
        cases h
      | none =>
        simp only [warning?, tag?, htag, hargument] at h
        cases h
        exact .missingArgument (.inl htag) (argument?_eq_none_iff.1 hargument)
    | layout =>
      cases hargument : (command body).argument? with
      | some argument =>
        simp only [warning?, tag?, htag, hargument] at h
        obtain ⟨hsome, hne⟩ := argument?_eq_some_iff.1 hargument
        split at h
        · rename_i hlayout
          cases h
          have htight := Command.tight_argument hsome
          exact .invalidLayout htag hsome hne ((Layout.ofName?_eq_none_iff htight).1 hlayout)
        · cases h
      | none =>
        simp only [warning?, tag?, htag, hargument] at h
        cases h
        exact .missingArgument (.inr htag) (argument?_eq_none_iff.1 hargument)

/-- The warning that a segment earns is about its defect, and there is one about every defect. -/
theorem warning?_eq_some_iff {segment : Segment} {line : Nat} {warning : Warning} :
    segment.warning? line = some warning ↔ Defect line segment warning := by
  refine ⟨defect_of_warning?, ?_⟩
  intro h
  cases h with
  | unknownTag hname => rw [warning?, tag?, tag_eq_unknown_iff.2 hname, raw]
  | invalidDelay htag hargument hinteger =>
    rw [warning?_delay htag, hargument, if_pos (Text.toInt64?_eq_none_iff.2 hinteger)]
  | missingArgument htag hargument =>
    rcases htag with htag | htag <;>
      rw [warning?, tag?, htag, argument?_eq_none_iff.2 hargument, raw]
  | invalidLayout htag hargument hne hlayout =>
    have hname := (Layout.ofName?_eq_none_iff (Command.tight_argument hargument)).2 hlayout
    simp only [warning?, tag?, htag, argument?_eq_some_iff.2 ⟨hargument, hne⟩, hname, if_true]

end Segment

end Colloquy
