import Mathlib.Data.List.Infix
import Colloquy.Proofs.Script.Defect
import Colloquy.Proofs.Script.Speaker
import Colloquy.Proofs.Session.Draft

/-!
# Warnings of a transcript

A transcript warns of the commands of its script that have a defect, of each once and in their order
(`warnings_ofScript`). A warning names the line of the source in which its command stands; since a
line of the source says nothing or one thing only, the lines that warnings name do not go back.
-/

namespace Colloquy

/-- The line that a warning names. -/
def Warning.line : Warning → Nat
  | unknownTag line _ | invalidLayout line _ | invalidDelay line _ | missingArgument line _ => line

/-- The warning that a token earns. -/
def Token.warning? : Token → Option Warning
  | .segment line said => said.warning? line
  | _ => none

theorem Segment.line_of_warning? {segment : Segment} {line : Nat} {warning : Warning}
    (h : segment.warning? line = some warning) : warning.line = line := by
  cases warning?_eq_some_iff.1 h <;> rfl

/-- A command that opens an activity earns no warning. -/
theorem Segment.warning?_of_kind? {segment : Segment} {kind : ActivityKind}
    (h : segment.kind? = some kind) (line : Nat) : segment.warning? line = none := by
  obtain ⟨body, rfl, htag⟩ := exists_body_of_kind? h
  simp only [warning?, tag?, htag]

/-! ### Lines of the source -/

theorem Text.trim_infix (text : Text) : trim text <:+: text := by
  have hend : trim text <+: trimStart text := by
    obtain ⟨tail, htail, -⟩ := trimEnd_append_blanks (trimStart text)
    exact ⟨tail, htail.symm⟩
  have hstart : trimStart text <:+ text := List.dropWhile_suffix _
  exact hend.isInfix.trans hstart.isInfix

namespace Line

variable {number : Nat} {raws : List Text} {line : Line}

theorem exists_of_mem_numbered (h : line ∈ numbered number raws) :
    ∃ place raw, raws[place]? = some raw ∧ line.number = number + place ∧
      line.text = Text.trim raw := by
  induction raws generalizing number with
  | nil => cases h
  | cons first rest ih =>
    have hrest : line ∈ numbered (number + 1) rest → ∃ place raw,
        (first :: rest)[place]? = some raw ∧ line.number = number + place ∧
          line.text = Text.trim raw := by
      intro hline
      obtain ⟨place, raw, hraw, hnumber, htext⟩ := ih hline
      exact ⟨place + 1, raw, hraw, by omega, htext⟩
    rw [numbered] at h
    split at h
    · exact hrest h
    · rcases List.mem_cons.1 h with rfl | h
      · exact ⟨0, first, rfl, rfl, rfl⟩
      · exact hrest h

theorem pairwise_numbered (number : Nat) (raws : List Text) :
    ((numbered number raws).map Line.number).Pairwise (· < ·) := by
  induction raws generalizing number with
  | nil => exact .nil
  | cons first rest ih =>
    rw [numbered]
    split
    · exact ih (number + 1)
    · refine List.Pairwise.cons ?_ (ih (number + 1))
      intro later hlater
      obtain ⟨line, hline, rfl⟩ := List.mem_map.1 hlater
      obtain ⟨place, -, -, hnumber, -⟩ := exists_of_mem_numbered hline
      show number < line.number
      omega

/-- A line is a line of the source without the blanks around it. -/
theorem exists_of_mem_ofSource {source : Text} (h : line ∈ ofSource source) :
    ∃ raw, 0 < line.number ∧ (Text.pieces '\n' source)[line.number - 1]? = some raw ∧
      line.text <:+: raw := by
  obtain ⟨place, raw, hraw, hnumber, htext⟩ := exists_of_mem_numbered h
  have hplace : line.number - 1 = place := by omega
  refine ⟨raw, by omega, ?_, ?_⟩
  · rw [hplace]
    exact hraw
  · rw [htext]
    exact Text.trim_infix raw

end Line

/-! ### What lines say -/

namespace Configuration

variable {config : Configuration} {utterance : Utterance}

/-- What a line says is its end or all of it. -/
theorem of_read_eq_some {line : Line} (h : (config.read line).2 = some utterance) :
    utterance.line = line.number ∧ utterance.text <:+ line.text := by
  rw [read] at h
  cases hevent : LineEvent.ofText config.turns line.text with
  | directive key value =>
    rw [hevent] at h
    cases h
  | content text =>
    rw [hevent] at h
    cases h
    rw [(LineEvent.ofText_eq_content_iff.1 hevent).1]
    exact ⟨rfl, List.suffix_rfl⟩
  | turn speaker remainder =>
    obtain ⟨-, hturn⟩ := LineEvent.ofText_eq_turn_iff.1 hevent
    obtain ⟨pattern, -, hpattern⟩ := Option.bind_eq_some_iff.1 hturn
    obtain ⟨-, -, htext, -⟩ := TurnPattern.exists_name_of_split? hpattern
    rw [hevent] at h
    cases h
    refine ⟨rfl, speaker ++ [':'], ?_⟩
    rw [htext, List.append_assoc]
    rfl

theorem exists_line_of_mem_utterances {lines : List Line}
    (h : utterance ∈ config.utterances lines) :
    ∃ line ∈ lines, utterance.line = line.number ∧ utterance.text <:+ line.text := by
  induction lines generalizing config with
  | nil => cases h
  | cons line rest ih =>
    rcases List.mem_append.1 h with hfirst | hrest
    · exact ⟨line, List.mem_cons_self .., of_read_eq_some (Option.mem_toList.1 hfirst)⟩
    · obtain ⟨other, hother, hline⟩ := ih hrest
      exact ⟨other, List.mem_cons_of_mem _ hother, hline⟩

theorem sublist_utterances (config : Configuration) (lines : List Line) :
    ((config.utterances lines).map Utterance.line).Sublist (lines.map Line.number) := by
  induction lines generalizing config with
  | nil => exact .slnil
  | cons line rest ih =>
    rw [utterances, List.map_append, List.map_cons]
    cases hread : (config.read line).2 with
    | none => exact (ih _).cons _
    | some utterance =>
      have hline : utterance.line = line.number := (of_read_eq_some hread).1
      rw [Option.toList_some, List.map_singleton, hline]
      exact (ih _).cons_cons _

end Configuration

namespace Options

variable {options : Options} {source : Text}

theorem pairwise_utterances (options : Options) (source : Text) :
    (options.utterances source).Pairwise fun a b => a.line < b.line := by
  have hlines := Line.pairwise_numbered 1 (Text.pieces '\n' source)
  exact List.pairwise_map.1
    (hlines.sublist (options.config.sublist_utterances (Line.ofSource source)))

theorem exists_utterance_of_mem_tokens {line : Nat} {segment : Segment}
    (h : Token.segment line segment ∈ options.tokens source) :
    ∃ utterance ∈ options.utterances source, utterance.line = line ∧
      segment ∈ Segment.segments utterance.text := by
  obtain ⟨utterance, hutterance, htoken⟩ := List.mem_flatMap.1 h
  refine ⟨utterance, hutterance, ?_⟩
  simpa [Utterance.tokens, and_comm] using htoken

/-- A token stands in its line of the source. -/
theorem exists_raw_of_mem_tokens {line : Nat} {segment : Segment}
    (h : Token.segment line segment ∈ options.tokens source) :
    ∃ raw, 0 < line ∧ (Text.pieces '\n' source)[line - 1]? = some raw ∧ segment.raw <:+: raw := by
  obtain ⟨utterance, hutterance, rfl, hsegment⟩ := exists_utterance_of_mem_tokens h
  obtain ⟨line, hline, hnumber, htext⟩ := Configuration.exists_line_of_mem_utterances hutterance
  obtain ⟨raw, hpositive, hraw, hinfix⟩ := Line.exists_of_mem_ofSource hline
  have hsaid : segment.raw <:+: utterance.text := by
    rw [← Segment.raw_segments utterance.text]
    exact List.infix_of_mem_flatten (List.mem_map_of_mem hsegment)
  rw [hnumber]
  exact ⟨raw, hpositive, hraw, (hsaid.trans htext.isInfix).trans hinfix⟩

end Options

/-! ### The warnings of a script -/

theorem Utterance.line_of_warning? {utterance : Utterance} {token : Token} {warning : Warning}
    (htoken : token ∈ utterance.tokens) (h : token.warning? = some warning) :
    warning.line = utterance.line := by
  cases token with
  | turn config speaker => cases h
  | lineEnd => cases h
  | segment line said =>
    have hsegment : said ∈ Segment.segments utterance.text ∧ utterance.line = line := by
      simpa [tokens] using htoken
    rw [hsegment.2]
    exact Segment.line_of_warning? h

/-- The warnings about one line name that line, and those about a later one name a later line. -/
theorem Options.pairwise_warnings (options : Options) (source : Text) :
    (((options.tokens source).filterMap Token.warning?).map Warning.line).Pairwise (· ≤ ·) := by
  rw [List.pairwise_map, List.pairwise_filterMap, tokens, List.pairwise_flatMap]
  refine ⟨?_, ?_⟩
  · intro utterance _
    refine List.pairwise_of_forall_mem_list ?_
    intro token htoken other hother warning hwarning later hlater
    rw [Utterance.line_of_warning? htoken hwarning, Utterance.line_of_warning? hother hlater]
  · refine (options.pairwise_utterances source).imp ?_
    intro utterance after hline token htoken other hother warning hwarning later hlater
    rw [Utterance.line_of_warning? htoken hwarning, Utterance.line_of_warning? hother hlater]
    exact hline.le

/-- A session warns of what its pieces say. -/
theorem Session.warnings_of_drafted {scene : Scene} {clock : Time.Clock} {session : Session}
    {pieces : List Piece} {pending : List Text} (h : Drafted scene clock pieces session pending) :
    session.warnings = (pieces.flatMap Piece.tokens).filterMap Token.warning? := by
  induction h with
  | start => rfl
  | read line _ ih => exact ih
  | direct key value _ ih =>
    rw [warnings_directed]
    exact ih
  | @turn pieces session people role speaker _ _ _ ih =>
    have hwarnings : (session.turned scene people role).warnings = session.warnings :=
      warnings_close session
    rw [hwarnings, ih, List.flatMap_append, List.filterMap_append]
    exact (List.append_nil _).symm
  | @split pieces session pending activity kind segment _ hcurrent hkind ih =>
    have hwarnings : ((session.written activity pending).close.openActivity scene kind
        activity.sender activity.recipient).warnings = session.warnings :=
      warnings_close (session.written activity pending)
    have hnone : Token.warning? (.segment session.line.number segment) = none :=
      Segment.warning?_of_kind? hkind _
    rw [hwarnings, ih, List.flatMap_append, List.filterMap_append, List.flatMap_singleton,
      Piece.tokens, List.filterMap_cons_none hnone]
    exact (List.append_nil _).symm
  | @heed pieces piece session pending activity found segment _ _ _ _ ih =>
    have htokens : (piece.add (.segment session.line.number segment)).tokens =
        piece.tokens ++ [.segment session.line.number segment] := rfl
    rw [List.flatMap_append, List.flatMap_singleton] at ih ⊢
    rw [htokens, ← List.append_assoc, filterMap_snoc, ← ih]
    rfl
  | @lineEnd pieces piece session pending activity _ _ ih =>
    have htokens : (piece.add .lineEnd).tokens = piece.tokens ++ [.lineEnd] := rfl
    rw [List.flatMap_append, List.flatMap_singleton] at ih ⊢
    rw [htokens, ← List.append_assoc, List.filterMap_append, ← ih]
    exact (List.append_nil _).symm

/-- The warnings of a transcript are those that the tokens of its script earn, in their order. What
earns one is a segment with a defect; it stands in the line of the source that it is said to be in, and
the lines do not go back. -/
theorem warnings_ofScript {world : World} {options : Options} {source : Text}
    {transcript : Transcript} (h : Transcript.ofScript world options source = .ok transcript) :
    transcript.warnings = (options.tokens source).filterMap Token.warning? ∧
      (∀ line segment, Token.segment line segment ∈ options.tokens source →
        (∀ warning, (Token.segment line segment).warning? = some warning ↔
          Segment.Defect line segment warning) ∧
        ∃ raw, 0 < line ∧ (Text.pieces '\n' source)[line - 1]? = some raw ∧
          segment.raw <:+: raw) ∧
      (transcript.warnings.map Warning.line).Pairwise (· ≤ ·) := by
  obtain ⟨hlead, last, hdrafted, rfl⟩ := Session.drafted_ofScript h
  have hwarnings : last.warnings = (options.tokens source).filterMap Token.warning? := by
    rw [Session.warnings_of_drafted hdrafted, Options.pieces, Token.flatMap_tokens_cut hlead]
  refine ⟨hwarnings, ?_, ?_⟩
  · intro line segment hsegment
    exact ⟨fun _ => Segment.warning?_eq_some_iff, Options.exists_raw_of_mem_tokens hsegment⟩
  · show (last.warnings.map Warning.line).Pairwise (· ≤ ·)
    rw [hwarnings]
    exact options.pairwise_warnings source

/-- The greeting holds a command that is not known and, in its last line, a delay of no number. -/
theorem warnings_ofScript_greeting : ∃ transcript,
    Transcript.ofScript .bare .named greeting = .ok transcript ∧
      transcript.warnings = [.unknownTag 4 "[hm]", .invalidDelay 5 "soon"] ∧
      (transcript.warnings.map Warning.line).Pairwise (· ≤ ·) := by
  have htokens : (Options.tokens .named greeting).filterMap Token.warning? =
      [.unknownTag 4 "[hm]", .invalidDelay 5 "soon"] := by
    decide +kernel
  obtain ⟨transcript, h⟩ := exists_ofScript_greeting
  obtain ⟨hwarnings, -, hlines⟩ := warnings_ofScript h
  exact ⟨transcript, h, hwarnings.trans htokens, hlines⟩

end Colloquy
