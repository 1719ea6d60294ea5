import Mathlib.Data.List.Infix
import Colloquy.Proofs.Script.Defect
import Colloquy.Proofs.Script.Grammar
import Colloquy.Proofs.Text.Fragment

/-!
# The separators of commands

The argument of a command stands behind a `=` or a `:`. A body is cut at a colon only if there is no `=`
in it, so both spellings make the same command of an argument without a `=` (`Command.ofBody_colon`). An
argument that holds one is cut itself when a colon stands before it, and the name then holds that colon,
so it is not known (`Command.tag_colon`).

In dialogue a command is the same wherever it stands, except behind a bracket that is left open: such a
bracket takes it for its own body (`Segment.segments_append_command`).
-/

namespace Colloquy

/-! ### Cutting at a mark -/

theorem Text.cutFirst?_append {mark : Char} {before : Text} (h : mark ∉ before) (rest : Text) :
    cutFirst? mark (before ++ mark :: rest) = some (before, rest) := by
  induction before with
  | nil => rw [List.nil_append, cutFirst?, if_pos rfl]
  | cons c cs ih =>
    have hc : c ≠ mark := by
      rintro rfl
      exact h (List.mem_cons_self ..)
    have hcs : mark ∉ cs := fun hmem => h (List.mem_cons_of_mem _ hmem)
    rw [List.cons_append, cutFirst?, if_neg hc, ih hcs, Option.map_some]

theorem Text.cutFirst?_of_notMem {mark : Char} {text : Text} (h : mark ∉ text) :
    cutFirst? mark text = none := by
  cases hcut : cutFirst? mark text with
  | none => rfl
  | some cut =>
    refine absurd ?_ h
    rw [eq_of_cutFirst?_eq_some hcut]
    simp

/-! ### Names with a colon -/

/-- A name that holds a colon stands for nothing. -/
theorem Tag.ofName_of_colon {name : Text} (h : ':' ∈ Text.trim name) : ofName name = .unknown := by
  have htrim : ofName name = ofName (Text.trim name) := by
    rw [ofName, ofName, Text.trim_trim]
  rw [htrim, ofName_eq_unknown_iff (Text.tight_trim name)]
  intro known hknown
  have hnames : ∀ known ∈ names, ':' ∉ Text.lowerAscii known := by decide
  refine Bool.eq_false_iff.2 fun hsame => hnames known hknown ?_
  have hletters : Text.lowerAscii (Text.trim name) = Text.lowerAscii known := by
    simpa [Text.sameLetters] using hsame
  rw [← hletters]
  exact List.mem_map.2 ⟨':', h, by decide⟩

namespace Command

variable {name argument : Text}

theorem ofBody_equals (hname : '=' ∉ name) (argument : Text) :
    ofBody (name ++ '=' :: argument) = ⟨Text.trim name, some (Text.trim argument)⟩ := by
  rw [ofBody, Text.cutFirst?_append hname, Option.some_or]

/-- Without a `=` in it an argument can stand behind a colon as well. -/
theorem ofBody_colon (hequals : '=' ∉ name) (hcolon : ':' ∉ name) (hargument : '=' ∉ argument) :
    ofBody (name ++ ':' :: argument) = ofBody (name ++ '=' :: argument) := by
  have hbody : '=' ∉ name ++ ':' :: argument := by simp [hequals, hargument]
  rw [ofBody_equals hequals, ofBody, Text.cutFirst?_of_notMem hbody, Option.none_or,
    Text.cutFirst?_append hcolon]

theorem tag_equals (hname : '=' ∉ name) (argument : Text) :
    (ofBody (name ++ '=' :: argument)).tag = Tag.ofName name := by
  rw [ofBody_equals hname, tag, Tag.ofName, Tag.ofName, Text.trim_trim]

/-- With a `=` in the argument, a colon before it belongs to the name. -/
theorem tag_colon (hname : '=' ∉ name) (hargument : '=' ∈ argument) :
    (ofBody (name ++ ':' :: argument)).tag = .unknown := by
  obtain ⟨front, rest, rfl, hfront⟩ := List.eq_append_cons_of_mem hargument
  have hlonger : '=' ∉ name ++ ':' :: front := by simp [hname, hfront]
  have hbody : name ++ ':' :: (front ++ '=' :: rest) = (name ++ ':' :: front) ++ '=' :: rest := by simp
  rw [hbody, tag_equals hlonger]
  exact Tag.ofName_of_colon (Text.mem_trim (by simp) (by decide))

end Command

/-! ### A command in its place -/

namespace Segment

variable {body : Text}

/-- Behind every bracket that opens in the text one closes. -/
def Closed (text : Text) : Prop := ∀ before after, text = before ++ '[' :: after → ']' ∈ after

theorem closed_iff (text : Text) :
    Closed text ↔ ∀ rest ∈ text.tails, rest.head? = some '[' → ']' ∈ rest := by
  constructor
  · intro h rest hrest hhead
    obtain ⟨before, rfl⟩ := (List.mem_tails _ _).1 hrest
    cases rest with
    | nil => cases hhead
    | cons c after =>
      cases hhead
      exact List.mem_cons_of_mem _ (h before after rfl)
  · rintro h before after rfl
    have hmem := h ('[' :: after) ((List.mem_tails _ _).2 (List.suffix_append _ _)) rfl
    simpa using hmem

instance (text : Text) : Decidable (Closed text) := decidable_of_iff _ (closed_iff text).symm

example : Closed "look [typing] " ∧ ¬Closed "[typing] [delay=" := by decide

theorem closed_of_append {before after : Text} (h : Closed (before ++ after)) : Closed after := by
  rintro first rest rfl
  exact h (before ++ first) rest (List.append_assoc _ _ _).symm

theorem consText_append_command (c : Char) (parts rest : List Segment) :
    consText c (parts ++ command body :: rest) = consText c parts ++ command body :: rest := by
  cases parts with
  | nil => rfl
  | cons part more => cases part <;> rfl

theorem segments_command (hbody : ']' ∉ body) (tail : Text) :
    segments (Command.bracketed body ++ tail) = command body :: segments tail := by
  have hopens : '[' = '[' ∧ ']' ∈ body ++ ']' :: tail := ⟨rfl, by simp⟩
  have hraw : Command.bracketed body ++ tail = '[' :: (body ++ ']' :: tail) := by
    simp [Command.bracketed]
  rw [hraw, segments, if_pos hopens, commandFrom_append [] hbody, List.nil_append]

/-- A command behind closed brackets is a segment, between those of the text before it and those of the
text behind it. -/
theorem segments_append_command {front body : Text} (hfront : Closed front) (hbody : ']' ∉ body)
    (back : Text) :
    segments (front ++ (Command.bracketed body ++ back)) =
      segments front ++ command body :: segments back := by
  cases front with
  | nil =>
    rw [List.nil_append, segments_command hbody, segments, List.nil_append]
  | cons c rest =>
    by_cases hc : c = '[' ∧ ']' ∈ rest
    · obtain ⟨inner, tail, rfl, hinner⟩ := List.eq_append_cons_of_mem hc.2
      have hraw : c :: (inner ++ ']' :: tail) = Command.bracketed inner ++ tail := by
        simp [Command.bracketed, hc.1]
      have htail : Closed tail := closed_of_append (hraw ▸ hfront)
      have hshorter : tail.length < (c :: (inner ++ ']' :: tail)).length := by
        simp only [List.length_cons, List.length_append]
        omega
      rw [hraw, List.append_assoc, segments_command hinner, segments_command hinner,
        segments_append_command htail hbody back, List.cons_append]
    · have hopen : c ≠ '[' := by
        rintro rfl
        exact hc ⟨rfl, hfront [] rest rfl⟩
      have hrest : Closed rest := @closed_of_append [c] rest hfront
      rw [List.cons_append, segments, if_neg (fun h => hopen h.1), segments, if_neg hc,
        segments_append_command hrest hbody back, consText_append_command]
termination_by front.length

end Segment

end Colloquy
