import Colloquy.Proofs.Script.Recasing
import Colloquy.Proofs.Session.Fetch
import Colloquy.Proofs.Session.Register

/-!
# Transcripts of recased scripts

A script with its letters in either case where their case does not matter has the same transcript, but
for the letter case of what warnings quote, or it fails with the same error, but for the letter case of
the line that it quotes (`recasing_immaterial`). The two scripts are read in lock step: a session never
looks at a warning, and at the text of its line only to quote it.
-/

namespace Colloquy

/-! ### Quotations in small letters -/

/-- The warning with the token or the value that it quotes in small letters. The value of a delay is
quoted as it is. -/
def Warning.lowered : Warning → Warning
  | unknownTag line tag => unknownTag line (Text.lowerAscii tag)
  | invalidLayout line value => invalidLayout line (Text.lowerAscii value)
  | invalidDelay line value => invalidDelay line value
  | missingArgument line tag => missingArgument line (Text.lowerAscii tag)

/-- The error with the line that it quotes in small letters. A directive is quoted as it is. -/
def ScriptError.lowered : ScriptError → ScriptError
  | format line text cause => format line text cause
  | reference line text => reference line (Text.lowerAscii text)
  | noOpenTurn line text => noOpenTurn line (Text.lowerAscii text)
  | attachment line cause => attachment line cause

/-- The transcript with the quotations of its warnings in small letters. -/
def Transcript.lowered (transcript : Transcript) : Transcript :=
  { transcript with warnings := transcript.warnings.map Warning.lowered }

theorem Segment.Recased.warning? {segment other : Segment} (h : Recased segment other) (line : Nat) :
    (other.warning? line).map Warning.lowered = (segment.warning? line).map Warning.lowered := by
  have hraw : Text.lowerAscii other.raw = Text.lowerAscii segment.raw :=
    (Text.sameLetters_iff.1 h.sameLetters).symm
  have hletters := h.map_argument?
  rw [Segment.warning?, Segment.warning?, h.tag?]
  cases htag : segment.tag? with
  | none => rfl
  | some tag =>
    cases tag with
    | unknown => simp [Warning.lowered, hraw]
    | «opens» kind => rfl
    | delay =>
      rw [h.argument? (by simp [htag])]
      cases segment.argument? <;> rfl
    | attachment =>
      rw [h.argument? (by simp [htag])]
      cases segment.argument? <;> simp [Warning.lowered, hraw]
    | layout =>
      cases hold : segment.argument? with
      | none =>
        rw [hold] at hletters
        rw [Option.map_eq_none_iff.1 hletters]
        simp [Warning.lowered, hraw]
      | some argument =>
        rw [hold] at hletters
        obtain ⟨value, hvalue, hlower⟩ := Option.map_eq_some_iff.1 hletters
        rw [hvalue]
        simp only [Layout.ofName?_of_lowerAscii hlower]
        split
        · simp [Warning.lowered, hlower]
        · rfl

namespace Session

variable {scene : Scene} {session other : Session}

/-! ### Lock step -/

/-- The session with other quotations in its warnings and another line, but for letter case the same. -/
inductive Recased (session : Session) : Session → Prop
  | mk (warnings : List Warning) (line : Line) :
      warnings.map Warning.lowered = session.warnings.map Warning.lowered →
      line.number = session.line.number → Text.sameLetters session.line.text line.text = true →
      Recased session { session with warnings, line }

/-- Two computations have come to results that are related, or to the same error but for letter case. -/
inductive Agree {α β : Type} (related : α → β → Prop) : Except Halt α → Except Halt β → Prop
  | ok {a : α} {b : β} : related a b → Agree related (.ok a) (.ok b)
  | error {halt other : Halt} : other.error.lowered = halt.error.lowered →
      Agree related (.error halt) (.error other)

theorem Agree.bind {α β α' β' : Type} {related : α → β → Prop} {related' : α' → β' → Prop}
    {first : Except Halt α} {second : Except Halt β} {step : α → Except Halt α'}
    {step' : β → Except Halt β'} (h : Agree related first second)
    (hstep : ∀ a b, first = .ok a → related a b → Agree related' (step a) (step' b)) :
    Agree related' (first >>= step) (second >>= step') := by
  cases h with
  | ok hab => exact hstep _ _ rfl hab
  | error herror => exact .error herror

/-- The scan with its session recased. -/
inductive Scan.Recased (scan : Scan) : Scan → Prop
  | mk {other : Session} : Session.Recased scan.session other →
      Scan.Recased scan { scan with session := other }

/-! ### Scanning -/

theorem Recased.heed {segment spelling : Segment} (h : session.Recased other)
    (hsegment : segment.Recased spelling) (activity : Activity) (found : List Attachment) :
    (session.heed segment activity found).Recased (other.heed spelling activity found) := by
  obtain ⟨warnings, line, hwarnings, hnumber, htext⟩ := h
  have hheed : ({ session with warnings, line } : Session).heed spelling activity found =
      { session.heed segment activity found with
        warnings := warnings ++ (spelling.warning? line.number).toList, line } := by
    simp only [Session.heed, hsegment.gap?, hsegment.layout?]
  rw [hheed]
  refine .mk _ _ ?_ hnumber htext
  simp only [Session.heed, List.map_append, hwarnings, hnumber, ← Option.toList_map, hsegment.warning?]

theorem Recased.current (h : session.Recased other) : other.current = session.current := by
  cases h
  rfl

theorem agree_take {scan second : Scan} {segment spelling : Segment} {activity : Activity}
    (h : scan.Recased second) (hcurrent : scan.session.current = some activity)
    (hsegment : segment.Recased spelling) :
    Agree Scan.Recased (scan.take scene segment) (second.take scene spelling) := by
  obtain ⟨hsession⟩ := h
  have hopen := hsession.current.trans hcurrent
  rw [take_eq hcurrent, take_eq hopen, hsegment.kind?, hsegment.request?, hsegment.fragment?]
  split
  · obtain ⟨warnings, line, hwarnings, hnumber, htext⟩ := hsession
    exact .ok (.mk (.mk warnings line hwarnings hnumber htext))
  · obtain ⟨warnings, line, hwarnings, hnumber, htext⟩ := hsession
    exact .error (congrArg (ScriptError.attachment · _) hnumber)
  · exact .ok (.mk (hsession.heed hsegment activity _))
  · exact .ok (.mk (hsession.heed hsegment activity _))

theorem agree_takeAll {scan second : Scan} {segments spellings : List Segment} {activity : Activity}
    (hsegments : List.Forall₂ Segment.Recased segments spellings) (h : scan.Recased second)
    (hcurrent : scan.session.current = some activity) :
    Agree Scan.Recased (segments.foldlM (Scan.take scene) scan)
      (spellings.foldlM (Scan.take scene) second) := by
  induction hsegments generalizing scan second activity with
  | nil => exact .ok h
  | cons hfirst _ ih =>
    rw [List.foldlM_cons, List.foldlM_cons]
    refine (agree_take h hcurrent hfirst).bind fun next last hnext hlast => ?_
    obtain ⟨-, -, changed, hchanged⟩ := kept_take hcurrent hnext
    exact ih hlast hchanged

theorem agree_flush {scan second : Scan} {activity : Activity} (h : scan.Recased second)
    (hcurrent : scan.session.current = some activity) :
    Agree Scan.Recased scan.flush second.flush := by
  obtain ⟨hsession⟩ := h
  rw [flush_eq hcurrent, flush_eq (hsession.current.trans hcurrent)]
  obtain ⟨warnings, line, hwarnings, hnumber, htext⟩ := hsession
  exact .ok (.mk (.mk warnings line hwarnings hnumber htext))

theorem agree_speak {dialogue spelling : Text} {activity : Activity} (h : session.Recased other)
    (hcurrent : session.current = some activity) (htext : Segment.TextRecased dialogue spelling) :
    Agree Recased (session.speak scene dialogue) (other.speak scene spelling) := by
  have hstart : ({ session } : Scan).session.current = some activity := hcurrent
  have hscan : Agree (fun first second => first.1.Recased second.1) (session.scan scene dialogue)
      (other.scan scene spelling) := by
    refine (agree_takeAll htext.segments (.mk h) hstart).bind fun next last hnext hlast => ?_
    obtain ⟨changed, hchanged⟩ := exists_current_takeAll hstart hnext
    refine (agree_flush hlast hchanged).bind fun flushed final _ hfinal => ?_
    obtain ⟨hfinal⟩ := hfinal
    exact .ok hfinal
  exact hscan.bind fun _ _ _ hboth => .ok hboth

/-! ### Lines -/

theorem agree_applyDirective (h : session.Recased other) (hline : other.line = session.line)
    (key value : Text) :
    Agree Recased (session.applyDirective key value) (other.applyDirective key value) := by
  obtain ⟨warnings, line, hwarnings, hnumber, htext⟩ := h
  obtain rfl : line = session.line := hline
  simp only [applyDirective]
  split
  · exact .error rfl
  · split <;> exact .ok (.mk warnings session.line hwarnings rfl htext)

theorem Recased.close (h : session.Recased other) : session.close.Recased other.close := by
  obtain ⟨warnings, line, hwarnings, hnumber, htext⟩ := h
  obtain ⟨config, clock, turns, current, done, old, before, opened⟩ := session
  cases current with
  | none => exact .mk warnings line hwarnings hnumber htext
  | some activity => exact .mk warnings line hwarnings hnumber htext

theorem Recased.config (h : session.Recased other) : other.config = session.config := by
  cases h
  rfl

theorem Recased.turns (h : session.Recased other) : other.turns = session.turns := by
  cases h
  rfl

theorem Recased.phase (h : session.Recased other) : other.phase = session.phase := by
  cases h
  rfl

theorem Recased.noReference (h : session.Recased other) :
    other.noReference.error.lowered = session.noReference.error.lowered := by
  obtain ⟨warnings, line, -, hnumber, htext⟩ := h
  simp only [Session.noReference, ScriptError.lowered, hnumber, Text.sameLetters_iff.1 htext]

theorem Recased.noOpenTurn (h : session.Recased other) :
    other.noOpenTurn.error.lowered = session.noOpenTurn.error.lowered := by
  obtain ⟨warnings, line, -, hnumber, htext⟩ := h
  simp only [Session.noOpenTurn, ScriptError.lowered, hnumber, Text.sameLetters_iff.1 htext]

theorem agree_openTurn {speaker name : Text} (h : session.Recased other)
    (hname : Text.sameLetters speaker name = true) :
    Agree Recased (session.openTurn scene speaker) (other.openTurn scene name) := by
  have hclose := h.close
  rw [openTurn, openTurn, h.config]
  cases session.config.participants with
  | none => exact .error h.noReference
  | some people =>
    simp only [people.speakerRole?_of_sameLetters hname]
    cases people.speakerRole? speaker with
    | none => exact .error h.noReference
    | some role =>
      dsimp only
      generalize session.close = closed at hclose
      generalize other.close = second at hclose
      obtain ⟨warnings, line, hwarnings, hnumber, htext⟩ := hclose
      exact .ok (.mk warnings line hwarnings hnumber htext)

/-- The lines are of one class, so the same happens to both. -/
theorem agree_consume {line spelling : Line} (hpattern : session.Patterned)
    (hplain : session.config.Plain) (h : session.Recased other)
    (hline : Line.Recased session.config.turns line spelling) :
    Agree Recased (session.consume scene line) (other.consume scene spelling) := by
  have hread : ({ session with line } : Session).Recased { other with line := spelling } := by
    obtain ⟨warnings, before, hwarnings, -, -⟩ := h
    exact .mk warnings spelling hwarnings hline.number hline.text.sameLetters
  have hphase : ({ session with line } : Session).phase = session.phase := rfl
  have hturns : session.turns = session.config.turns := hpattern
  have hevent := LineEvent.recased_ofText hplain hline.text
  rw [← hturns] at hevent
  have hother : LineEvent.ofText other.turns spelling.text =
      LineEvent.ofText session.turns spelling.text := by rw [h.turns]
  simp only [consume]
  rw [hread.phase, hphase, hother]
  -- The sessions have come to the same phase and to lines of the same class.
  generalize hfirst : LineEvent.ofText session.turns line.text = first at hevent
  generalize LineEvent.ofText session.turns spelling.text = second at hevent
  cases hevent with
  | directive key value =>
    rw [hturns] at hfirst
    exact agree_applyDirective hread (hline.eq_of_directive hfirst) key value
  | @turn speaker name remainder said hname hsaid =>
    have hopen : Agree Recased
        (({ session with line } : Session).openTurn scene speaker >>= fun opened =>
          opened.speak scene remainder)
        (({ other with line := spelling } : Session).openTurn scene name >>= fun opened =>
          opened.speak scene said) := by
      refine (agree_openTurn hread hname).bind fun opened second hopened hboth => ?_
      obtain ⟨people, role, -, -, rfl⟩ := openTurn_eq_ok_iff.1 hopened
      exact agree_speak hboth rfl hsaid
    cases session.phase with
    | awaitingParticipants => exact .error hread.noReference
    | awaitingTurn => exact hopen
    | inTurn => exact hopen
  | content hsaid =>
    cases hphase : session.phase with
    | awaitingParticipants => exact .error hread.noReference
    | awaitingTurn => exact .error hread.noOpenTurn
    | inTurn =>
      obtain ⟨activity, hcurrent⟩ := exists_current_of_phase hphase
      exact agree_speak hread hcurrent hsaid

theorem agree_consumeAll {lines others : List Line} (hlines : session.config.Recased lines others)
    (hpattern : session.Patterned) (hplain : session.config.Plain) (h : session.Recased other) :
    Agree Recased (session.consumeAll scene lines) (other.consumeAll scene others) := by
  -- The lines are recased under the configuration that reading has led to, which the session has.
  generalize hconfig : session.config = config at hlines
  induction hlines generalizing session other with
  | nil config => exact .ok h
  | cons hline _ ih =>
    rw [consumeAll, consumeAll, List.foldlM_cons, List.foldlM_cons]
    rw [← hconfig] at hline
    refine (agree_consume hpattern hplain h hline).bind fun next last hnext hlast => ?_
    have hread := config_of_consume hpattern hnext
    refine ih (hpattern.consume hnext) ?_ hlast ?_
    · rw [hread]
      exact hplain.read _
    · rw [hread, hconfig]

theorem Recased.lowered_finish (h : session.Recased other) :
    other.finish.lowered = session.finish.lowered := by
  obtain ⟨warnings, line, hwarnings, -, -⟩ := h
  exact congrArg (Transcript.mk _) hwarnings

end Session

/-- A script has the same activities with its letters in either case where their case does not matter:
in the names that open turns, in the names of commands and in the arguments for the layout. Its warnings
are the same but for the letter case of the token or the value that they quote, and if it fails the error
is the same but for the letter case of the line that it quotes. -/
theorem recasing_immaterial (world : World) (options : Options) {source other : Text}
    (h : options.config.Recased (Line.ofSource source) (Line.ofSource other)) :
    ((Transcript.ofScript world options other).map Transcript.lowered).mapError ScriptError.lowered =
      ((Transcript.ofScript world options source).map Transcript.lowered).mapError
        ScriptError.lowered := by
  rw [Transcript.ofScript, Transcript.ofScript]
  cases hstart : Session.start world.now options with
  | error halt => rfl
  | ok first =>
    obtain ⟨hconfig, hpattern, -⟩ := Session.of_start_eq_ok (world.scene options) hstart
    rw [← hconfig] at h
    have hplain : first.config.Plain := by
      rw [hconfig]
      exact Configuration.plain_config options
    have hself : first.Recased first := .mk first.warnings first.line rfl rfl (Text.sameLetters_refl _)
    have hagree := @Session.agree_consumeAll (world.scene options) _ _ _ _ h hpattern hplain hself
    simp only [bind, Except.bind]
    generalize first.consumeAll (world.scene options) (Line.ofSource source) = result at hagree
    generalize first.consumeAll (world.scene options) (Line.ofSource other) = result' at hagree
    cases hagree with
    | ok hlast => exact congrArg Except.ok hlast.lowered_finish
    | error herror => exact congrArg Except.error herror

/-- A script of two lines. -/
def carousel : Text := "Zoe: hi [typing] ho\n[attachmentLayout=Carousel] [hm]"

/-- The script with other letter case in all of its names and in its layout. -/
def recasedCarousel : Text := "zOE: hi [Typing] ho\n[ATTACHMENTlayout=carouSEL] [HM]"

/-- Both scripts have a transcript, and with other letter case the warning quotes another token. -/
theorem recasing_immaterial_carousel :
    Options.named.config.Recased (Line.ofSource carousel) (Line.ofSource recasedCarousel) ∧
      ((Transcript.ofScript .bare .named recasedCarousel).map Transcript.lowered).mapError
          ScriptError.lowered =
        ((Transcript.ofScript .bare .named carousel).map Transcript.lowered).mapError
          ScriptError.lowered ∧
      (Transcript.ofScript .bare .named carousel).map Transcript.warnings =
        .ok [.unknownTag 2 "[hm]"] ∧
      (Transcript.ofScript .bare .named recasedCarousel).map Transcript.warnings =
        .ok [.unknownTag 2 "[HM]"] := by
  have hlines : Line.ofSource carousel =
      [⟨1, "Zoe: hi [typing] ho"⟩, ⟨2, "[attachmentLayout=Carousel] [hm]"⟩] := by decide +kernel
  have hothers : Line.ofSource recasedCarousel =
      [⟨1, "zOE: hi [Typing] ho"⟩, ⟨2, "[ATTACHMENTlayout=carouSEL] [HM]"⟩] := by decide +kernel
  have hturn : Segment.TextRecased " hi [typing] ho" " hi [Typing] ho" := by
    have hsegments : Segment.segments " hi [typing] ho" =
        [.dialogue " hi ", .command "typing", .dialogue " ho"] := by decide
    have htyping : Command.Recased "typing" "Typing" := .bare (by decide) (by decide) (by decide)
    refine ⟨[.dialogue " hi ", .command "Typing", .dialogue " ho"], ?_, rfl⟩
    rw [hsegments]
    exact .cons (.dialogue _) (.cons (.command htyping) (.cons (.dialogue _) .nil))
  have hcontent : Segment.TextRecased "[attachmentLayout=Carousel] [hm]"
      "[ATTACHMENTlayout=carouSEL] [HM]" := by
    have hsegments : Segment.segments "[attachmentLayout=Carousel] [hm]" =
        [.command "attachmentLayout=Carousel", .dialogue " ", .command "hm"] := by decide
    have hlayout : Command.Recased "attachmentLayout=Carousel" "ATTACHMENTlayout=carouSEL" :=
      @Command.Recased.equals "attachmentLayout" "ATTACHMENTlayout" "Carousel" "carouSEL" (by decide)
        (by decide) (.inr ⟨by decide, by decide⟩)
    have hunknown : Command.Recased "hm" "HM" := .bare (by decide) (by decide) (by decide)
    refine ⟨[.command "ATTACHMENTlayout=carouSEL", .dialogue " ", .command "HM"], ?_, rfl⟩
    rw [hsegments]
    exact .cons (.command hlayout) (.cons (.dialogue _) (.cons (.command hunknown) .nil))
  have hrecased : Options.named.config.Recased (Line.ofSource carousel)
      (Line.ofSource recasedCarousel) := by
    rw [hlines, hothers]
    refine .cons ⟨rfl, ?_⟩ (.cons ⟨rfl, .content (by decide +kernel) hcontent⟩ (.nil _))
    exact @LineEvent.TextRecased.turn _ _ "Zoe" "zOE" _ _ (by decide +kernel) (by decide) hturn
  exact ⟨hrecased, recasing_immaterial .bare .named hrecased, by decide +kernel, by decide +kernel⟩

end Colloquy
