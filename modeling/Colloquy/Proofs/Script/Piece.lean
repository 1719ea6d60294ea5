import Colloquy.Options
import Colloquy.Script.Line
import Colloquy.Proofs.Outcome
import Colloquy.Proofs.Script.Segment

/-!
# Scripts cut into pieces

A script can be read without a session. Only the configuration goes from line to line and tells
what each line says; what is said is a stream of tokens, which is cut at every token that opens an
activity. Text, gaps, attachments and layout of an activity are then read off its own piece of the
stream. The cut loses nothing (`tokens_cut`) and is made where it should be (`opens_cut`), so there
is a piece for every turn and for every command of a kind (`length_cut`, `countP_tokens`).
-/

namespace Colloquy

/-! ### Reading lines -/

/-- What is said in a line, and the configuration under which the line is read. -/
structure Utterance where
  line : Nat
  config : Configuration
  /-- The speaker, if the line opens a turn. -/
  speaker : Option Text
  text : Text
deriving DecidableEq, Repr

namespace Configuration

/-- What opens turns under a configuration. -/
def turns (config : Configuration) : Option TurnPattern := config.participants.map .ofParticipants

/-- The configuration after a line, and what the line says. -/
def read (config : Configuration) (line : Line) : Configuration × Option Utterance :=
  match LineEvent.ofText config.turns line.text with
  | .directive key value => ((config.apply key value).1, none)
  | .turn speaker remainder => (config.lock, some ⟨line.number, config, some speaker, remainder⟩)
  | .content text => (config, some ⟨line.number, config, none, text⟩)

/-- What some lines say. -/
def utterances : Configuration → List Line → List Utterance
  | _, [] => []
  | config, line :: rest => (config.read line).2.toList ++ utterances (config.read line).1 rest

end Configuration

/-- The configuration before the first line. -/
def Options.config (options : Options) : Configuration :=
  options.seeds.foldl (fun config entry => (config.apply entry.1 entry.2).1) {}

/-- What the lines of a script say. -/
def Options.utterances (options : Options) (source : Text) : List Utterance :=
  options.config.utterances (Line.ofSource source)

/-! ### Tokens -/

/-- A token of what is said. -/
inductive Token where
  | turn (config : Configuration) (speaker : Text)
  | segment (line : Nat) (segment : Segment)
  | lineEnd
deriving DecidableEq, Repr

/-- The tokens of a line. -/
def Utterance.tokens (utterance : Utterance) : List Token :=
  (utterance.speaker.map (Token.turn utterance.config)).toList ++
    (Segment.segments utterance.text).map (Token.segment utterance.line) ++ [.lineEnd]

/-- The tokens of a script. -/
def Options.tokens (options : Options) (source : Text) : List Token :=
  (options.utterances source).flatMap Utterance.tokens

namespace Token

/-- The segment that a token is. -/
def segment? : Token → Option Segment
  | .segment _ said => some said
  | _ => none

/-- Whether a token opens an activity. -/
def opens : Token → Bool
  | turn _ _ => true
  | .segment _ said => said.kind?.isSome
  | lineEnd => false

/-- The gap by which a token moves the clock. -/
def gap? (usual : Int) : Token → Option Int
  | turn _ _ => some usual
  | .segment _ said => said.gap? usual
  | lineEnd => none

end Token

/-! ### Pieces -/

/-- A token that opens an activity, and the tokens up to the next one that does. -/
structure Piece where
  opener : Token
  rest : List Token
deriving DecidableEq, Repr

namespace Piece

/-- The piece with a token more. -/
def add (piece : Piece) (token : Token) : Piece := { piece with rest := piece.rest ++ [token] }

/-- The tokens of a piece. -/
def tokens (piece : Piece) : List Token := piece.opener :: piece.rest

/-- The lines of a piece, the first and the last one being parts of lines. -/
def lines (piece : Piece) : List (List Token) := piece.rest.splitOn .lineEnd

/-- The fragments of text in a line. -/
def fragments (line : List Token) : List Text :=
  line.filterMap fun token => token.segment?.bind Segment.fragment?

/-- The texts of lines, without those in which there is no text. -/
def paragraphs (lines : List (List Token)) : List Text :=
  ((lines.map fragments).filter (· ≠ [])).map (Text.join [' '])

/-- The text that a piece gives its activity. -/
def text (piece : Piece) : Text := Text.join ['\n'] (paragraphs piece.lines)

/-- The gaps by which a piece moves the clock. -/
def gaps (usual : Int) (piece : Piece) : List Int := piece.tokens.filterMap (Token.gap? usual)

/-- The arguments of the attachments that a piece asks for. -/
def requests (piece : Piece) : List Text :=
  piece.rest.filterMap fun token => token.segment?.bind Segment.request?

/-- The layout that a piece sets last. -/
def layout? (piece : Piece) : Option Layout :=
  (piece.rest.filterMap fun token => token.segment?.bind Segment.layout?).getLast?

end Piece

/-- The tokens before the first that opens an activity, and the pieces that start with those. -/
def Token.cut : List Token → List Token × List Piece
  | [] => ([], [])
  | token :: rest =>
    if token.opens then ([], ⟨token, (cut rest).1⟩ :: (cut rest).2)
    else (token :: (cut rest).1, (cut rest).2)

/-- The pieces of a script. -/
def Options.pieces (options : Options) (source : Text) : List Piece :=
  (Token.cut (options.tokens source)).2

namespace Token

/-- Cutting loses nothing. -/
theorem tokens_cut (tokens : List Token) :
    (cut tokens).1 ++ (cut tokens).2.flatMap Piece.tokens = tokens := by
  induction tokens with
  | nil => rfl
  | cons token rest ih =>
    rw [cut]
    split
    · rw [List.flatMap_cons, Piece.tokens, List.nil_append, List.cons_append, ih]
    · rw [List.cons_append, ih]

/-- The pieces are all of the tokens if none comes before the first piece. -/
theorem flatMap_tokens_cut {tokens : List Token} (hlead : (cut tokens).1 = []) :
    (cut tokens).2.flatMap Piece.tokens = tokens := by
  have htokens := tokens_cut tokens
  rw [hlead, List.nil_append] at htokens
  exact htokens

/-- Every piece starts with a token that opens an activity, and no other token opens one. -/
theorem opens_cut (tokens : List Token) :
    (∀ token ∈ (cut tokens).1, token.opens = false) ∧
      ∀ piece ∈ (cut tokens).2, piece.opener.opens = true ∧
        ∀ token ∈ piece.rest, token.opens = false := by
  induction tokens with
  | nil => simp [cut]
  | cons token rest ih =>
    obtain ⟨hlead, hpieces⟩ := ih
    rw [cut]
    split
    · rename_i hopens
      refine ⟨by simp, ?_⟩
      intro piece hpiece
      rcases List.mem_cons.1 hpiece with rfl | hpiece
      · exact ⟨hopens, hlead⟩
      · exact hpieces piece hpiece
    · rename_i hopens
      refine ⟨?_, hpieces⟩
      intro other hother
      rcases List.mem_cons.1 hother with rfl | hother
      · exact Bool.eq_false_iff.2 hopens
      · exact hlead other hother

theorem cut_snoc_opens (tokens : List Token) {token : Token} (h : token.opens = true) :
    cut (tokens ++ [token]) = ((cut tokens).1, (cut tokens).2 ++ [⟨token, []⟩]) := by
  induction tokens with
  | nil => simp [cut, h]
  | cons first rest ih =>
    rw [List.cons_append, cut, cut, ih]
    split <;> rfl

theorem cut_snoc_lead {tokens : List Token} {token : Token} (h : token.opens = false)
    (hcut : (cut tokens).2 = []) : cut (tokens ++ [token]) = ((cut tokens).1 ++ [token], []) := by
  induction tokens with
  | nil => simp [cut, h]
  | cons first rest ih =>
    rw [cut] at hcut
    split at hcut
    · cases hcut
    · rename_i hfirst
      rw [List.cons_append, cut, cut, if_neg hfirst, if_neg hfirst, ih hcut]
      rfl

theorem cut_snoc {tokens : List Token} {token : Token} {pieces : List Piece} {piece : Piece}
    (h : token.opens = false) (hcut : (cut tokens).2 = pieces ++ [piece]) :
    cut (tokens ++ [token]) = ((cut tokens).1, pieces ++ [piece.add token]) := by
  induction tokens generalizing pieces with
  | nil =>
    have hlength := congrArg List.length hcut
    simp [cut] at hlength
  | cons first rest ih =>
    rw [List.cons_append, cut, cut]
    by_cases hfirst : first.opens = true
    · rw [if_pos hfirst, if_pos hfirst]
      rw [cut, if_pos hfirst] at hcut
      -- the token goes to the first piece if there is no other one
      rcases List.eq_nil_or_concat (cut rest).2 with hrest | ⟨more, last, hrest⟩
      · rw [hrest] at hcut
        have hpieces : pieces = [] := by
          have hlength := congrArg List.length hcut
          simpa using hlength
        subst hpieces
        have hpiece : piece = ⟨first, (cut rest).1⟩ := (List.head_eq_of_cons_eq hcut).symm
        rw [cut_snoc_lead h hrest, hpiece]
        rfl
      · rw [List.concat_eq_append] at hrest
        rw [hrest, ← List.cons_append] at hcut
        obtain ⟨rfl, rfl⟩ := List.append_singleton_inj.1 hcut
        rw [ih hrest]
        rfl
    · rw [if_neg hfirst, if_neg hfirst]
      rw [cut, if_neg hfirst] at hcut
      rw [ih hcut]

end Token

/-! ### Pieces with a token more -/

/-- What is no separator goes to the last part. -/
theorem splitOnP_snoc {α : Type} {p : α → Bool} {x : α} (h : p x = false) {xs part : List α}
    {full : List (List α)} (hsplit : xs.splitOnP p = full ++ [part]) :
    (xs ++ [x]).splitOnP p = full ++ [part ++ [x]] := by
  induction xs generalizing full part with
  | nil =>
    have hfull : full = [] := by
      have hlength := congrArg List.length hsplit
      simpa using hlength
    subst hfull
    have hpart : part = [] := by simpa using hsplit.symm
    rw [hpart, List.nil_append, List.splitOnP_cons_eq_if_modifyHead, h]
    rfl
  | cons first rest ih =>
    rcases List.eq_nil_or_concat (rest.splitOnP p) with hrest | ⟨before, last, hrest⟩
    · exact absurd hrest (List.splitOnP_ne_nil p rest)
    · rw [List.concat_eq_append] at hrest
      rw [List.splitOnP_cons_eq_if_modifyHead, hrest] at hsplit
      rw [List.cons_append, List.splitOnP_cons_eq_if_modifyHead, ih hrest]
      by_cases hfirst : p first = true
      · rw [if_pos hfirst, ← List.cons_append] at hsplit
        obtain ⟨rfl, rfl⟩ := List.append_singleton_inj.1 hsplit
        rw [if_pos hfirst]
        rfl
      · rw [if_neg hfirst] at hsplit ⊢
        -- what stands first goes to the last part only if there is no other part
        cases before with
        | nil =>
          have hsingle : [] ++ [first :: last] = full ++ [part] := hsplit
          obtain ⟨rfl, rfl⟩ := List.append_singleton_inj.1 hsingle
          rfl
        | cons head more =>
          rw [List.cons_append, List.modifyHead_cons, ← List.cons_append] at hsplit
          obtain ⟨rfl, rfl⟩ := List.append_singleton_inj.1 hsplit
          rfl

namespace Piece

variable {piece : Piece} {token : Token}

theorem gaps_add (usual : Int) (piece : Piece) (token : Token) :
    (piece.add token).gaps usual = piece.gaps usual ++ (token.gap? usual).toList :=
  filterMap_snoc (Token.gap? usual) piece.tokens token

theorem fragments_snoc (line : List Token) (token : Token) : fragments (line ++ [token]) =
    fragments line ++ (token.segment?.bind Segment.fragment?).toList :=
  filterMap_snoc _ line token

/-- The end of a line puts a new line behind the others. -/
theorem lines_add_lineEnd (piece : Piece) : (piece.add .lineEnd).lines = piece.lines ++ [[]] := by
  rw [lines, add, List.splitOn_eq_splitOnP, List.splitOnP_append_cons _ _ (by simp),
    List.splitOnP_nil, lines, List.splitOn_eq_splitOnP]

/-- Any other token goes to the last line. -/
theorem lines_add {full : List (List Token)} {part : List Token} (h : token ≠ .lineEnd)
    (hlines : piece.lines = full ++ [part]) :
    (piece.add token).lines = full ++ [part ++ [token]] := by
  have hend : (token == Token.lineEnd) = false := by simpa using h
  rw [lines, List.splitOn_eq_splitOnP] at hlines
  rw [lines, add, List.splitOn_eq_splitOnP]
  exact @splitOnP_snoc _ (· == Token.lineEnd) _ hend _ _ _ hlines

end Piece

end Colloquy
