import Colloquy.Script.Command

/-!
# Segments

The dialogue of a line is cut into commands in brackets and the text between them. A bracket opens
a command if some bracket after it closes one; the first such bracket does, so brackets do not
nest. Nothing is lost: `raw_segments`.
-/

namespace Colloquy

/-- A piece of dialogue. -/
inductive Segment where
  | dialogue (text : Text)
  | command (body : Text)
deriving DecidableEq, Repr

namespace Segment

/-- The segment as it stands in the script. -/
def raw : Segment → Text
  | dialogue text => text
  | command body => Command.bracketed body

/-- Puts a character in front of the text that comes next. -/
def consText (c : Char) : List Segment → List Segment
  | .dialogue text :: rest => .dialogue (c :: text) :: rest
  | rest => .dialogue [c] :: rest

mutual

/-- The segments of a text. -/
def segments : Text → List Segment
  | [] => []
  | c :: rest =>
    if c = '[' ∧ ']' ∈ rest then commandFrom [] rest else consText c (segments rest)

/-- The command whose body starts with some characters, and the segments after it. -/
def commandFrom (body : Text) : Text → List Segment
  | [] => []
  | c :: rest => if c = ']' then .command body :: segments rest else commandFrom (body ++ [c]) rest

end

theorem raw_consText (c : Char) (rest : List Segment) :
    Text.concat ((consText c rest).map raw) = c :: Text.concat (rest.map raw) := by
  cases rest with
  | nil => rfl
  | cons first more => cases first <;> simp [consText, raw]

mutual

/-- The segments one after another are the text. -/
theorem raw_segments (text : Text) : Text.concat ((segments text).map raw) = text := by
  match text with
  | [] => rfl
  | c :: rest =>
    by_cases h : c = '[' ∧ ']' ∈ rest
    · rw [segments, if_pos h, raw_commandFrom [] rest h.2, h.1]; rfl
    · rw [segments, if_neg h, raw_consText, raw_segments rest]

/-- A command is its body in brackets. -/
theorem raw_commandFrom (body text : Text) (h : ']' ∈ text) :
    Text.concat ((commandFrom body text).map raw) = '[' :: body ++ text := by
  match text with
  | [] => simp at h
  | c :: rest =>
    by_cases hc : c = ']'
    · simp [commandFrom, hc, raw, Command.bracketed, raw_segments rest]
    · have hrest : ']' ∈ rest := by
        rcases List.mem_cons.1 h with h | h
        · exact absurd h.symm hc
        · exact h
      rw [commandFrom, if_neg hc, raw_commandFrom (body ++ [c]) rest hrest]
      simp

end

example : segments "a [b] c [d" = [.dialogue "a ", .command "b", .dialogue " c [d"] := by decide
example : segments "[[]]" = [.command "[", .dialogue "]"] := by decide

end Segment

end Colloquy
