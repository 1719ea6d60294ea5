import Colloquy.Proofs.Session.Relabel
import Colloquy.Proofs.Transcript.Prefix

/-!
# Fields of the options as lines

The options have fields for the channel and the two names, and each can also be written as a line of
the script. It makes no difference which: with the fields cleared and their lines put in front of
the script, everything comes out the same, only further down by as many lines (`ofScript_preamble`).
The two ways differ in how a value is cut and trimmed and in which line an error is found, but a
session is the same after both, except for the line that it has read last (`essence_fields`).
-/

namespace Colloquy

/-! ### Blanks at the end -/

namespace Text

theorem trimEnd_append_of_blank {text tail : Text} (hblank : ∀ c ∈ tail, isBlank c = true) :
    trimEnd (text ++ tail) = trimEnd text := by
  have htail : tail.reverse.dropWhile isBlank = [] :=
    List.dropWhile_eq_nil_iff.2 fun c hc => hblank c (List.mem_reverse.1 hc)
  rw [trimEnd, List.reverse_append, List.dropWhile_append, htail]
  rfl

theorem trim_append_of_blank {text tail : Text} (hblank : ∀ c ∈ tail, isBlank c = true) :
    trim (text ++ tail) = trim text := by
  have htail : tail.dropWhile isBlank = [] := List.dropWhile_eq_nil_iff.2 hblank
  rw [trim, trimStart, List.dropWhile_append, htail]
  split
  · rename_i hempty
    rw [trim, trimStart, List.isEmpty_iff.1 hempty]
  · exact trimEnd_append_of_blank hblank

/-- It does not matter whether the blanks at the end are gone already. -/
theorem trim_trimEnd (text : Text) : trim (trimEnd text) = trim text := by
  obtain ⟨tail, htext, hblank⟩ := trimEnd_append_blanks text
  have htrim : trim (trimEnd text ++ tail) = trim (trimEnd text) := trim_append_of_blank hblank
  rw [← htext] at htrim
  exact htrim.symm

/-- Behind a fragment only the blanks at the end are trimmed. -/
theorem trim_append {lead : Text} (hlead : Fragment lead) (text : Text) :
    trim (lead ++ text) = lead ++ trimEnd text := by
  obtain ⟨tail, htext, hblank⟩ := trimEnd_append_blanks text
  have htrim : trim (lead ++ trimEnd text ++ tail) = trim (lead ++ trimEnd text) :=
    trim_append_of_blank hblank
  rw [List.append_assoc, ← htext] at htrim
  rw [htrim]
  refine trim_of_tight ⟨?_, ?_⟩
  · intro c hc
    rw [List.head?_append_of_ne_nil _ hlead.ne_nil] at hc
    exact hlead.tight.1 c hc
  · intro c hc
    by_cases hnil : trimEnd text = []
    · rw [hnil, List.append_nil] at hc
      exact hlead.tight.2 c hc
    · rw [List.getLast?_append_of_ne_nil _ hnil] at hc
      exact getLast?_trimEnd hc

end Text

/-! ### Lines in front of a source -/

namespace Line

theorem numbered_add (number more : Nat) (raws : List Text) :
    numbered (number + more) raws = (numbered number raws).map (renumber (· + more)) := by
  induction raws generalizing number with
  | nil => rfl
  | cons raw rest ih =>
    have hnumber : number + more + 1 = number + 1 + more := by omega
    rw [numbered, numbered, hnumber, ih]
    split
    · rfl
    · rfl

/-- With lines in front, a source has its own lines further down. -/
theorem ofSource_terminated {raws : List Text} (hraws : ∀ raw ∈ raws, '\n' ∉ raw) (source : Text) :
    ofSource (Text.terminated '\n' raws ++ source) =
      numbered 1 raws ++ (ofSource source).map (renumber (· + raws.length)) := by
  have hpieces : Text.pieces '\n' (Text.terminated '\n' raws ++ source) =
      raws ++ Text.pieces '\n' source := by
    induction raws with
    | nil => rfl
    | cons raw rest ih =>
      obtain ⟨hraw, hrest⟩ := List.forall_mem_cons.1 hraws
      have hcons : Text.terminated '\n' (raw :: rest) ++ source =
          raw ++ '\n' :: (Text.terminated '\n' rest ++ source) := by
        simp [Text.terminated]
      rw [hcons, Text.pieces_append, Text.pieces_of_notMem hraw, ih hrest]
      rfl
  rw [ofSource, hpieces, numbered_append, numbered_add]
  rfl

end Line

/-! ### Fields and their lines -/

namespace Options

/-- The fields for the channel and the names, as keys and values. -/
def fields (options : Options) : List (Text × Text) :=
  (options.channel.toList.map fun value => (Configuration.channelKey, value)) ++
    (options.bot.toList.map fun value => (Role.bot.name, value)) ++
    options.user.toList.map fun value => (Role.user.name, value)

/-- The options without these fields. -/
def cleared (options : Options) : Options :=
  { options with bot := none, user := none, channel := none }

/-- A directive as it is written. -/
def written (entry : Text × Text) : Text := Text.concat [entry.1, "=", entry.2]

/-- The lines that say what the fields say. -/
def preamble (options : Options) : Text := Text.terminated '\n' (options.fields.map written)

theorem seeds_eq_append (options : Options) :
    options.seeds = options.cleared.seeds ++ options.fields := by
  simp [seeds, cleared, fields]

theorem key_mem_of_mem_fields {options : Options} {entry : Text × Text}
    (h : entry ∈ options.fields) : entry.1 ∈ LineEvent.keys := by
  simp only [fields, List.mem_append, List.mem_map] at h
  rcases h with (⟨_, -, rfl⟩ | ⟨_, -, rfl⟩) | ⟨_, -, rfl⟩ <;> simp [LineEvent.keys]

end Options

theorem LineEvent.fragment_of_mem_keys {key : Text} (hkey : key ∈ keys) :
    Text.Fragment (key ++ ['=']) := by
  simp only [keys, List.mem_cons, List.not_mem_nil, or_false] at hkey
  rcases hkey with rfl | rfl | rfl
  all_goals exact ⟨by decide, by rintro c ⟨⟩; decide, by rintro c ⟨⟩; decide⟩

/-- A written directive is read as it was written, without the blanks behind its value. -/
theorem LineEvent.directive?_written {key : Text} (hkey : key ∈ keys) (value : Text) :
    directive? (Text.trim (Options.written (key, value))) = some (key, Text.trimEnd value) := by
  have hwritten : Options.written (key, value) = key ++ ['='] ++ value := by
    simp [Options.written]
  rw [hwritten, Text.trim_append (fragment_of_mem_keys hkey)]
  simp only [keys, List.mem_cons, List.not_mem_nil, or_false] at hkey
  rcases hkey with rfl | rfl | rfl <;> rfl

/-! ### The same session but for its line -/

/-- The error without the place where it was found. -/
def ScriptError.unplaced : ScriptError → ScriptError
  | format _ _ cause => format 0 [] cause
  | reference _ _ => reference 0 []
  | noOpenTurn _ _ => noOpenTurn 0 []
  | attachment _ cause => attachment 0 cause

theorem ScriptError.unplaced_renumber (number : Nat → Nat) (cause : ScriptError) :
    (cause.renumber number).unplaced = cause.unplaced := by
  cases cause <;> rfl

namespace Session

variable {scene : Scene} {session other : Session}

/-- The session as if it had read no line. -/
def bare (session : Session) : Session := { session with line := ⟨0, []⟩ }

/-- What a computation comes to, whatever line it was in. -/
def essence (result : Except Halt Session) : Except ScriptError Session :=
  (result.map bare).mapError fun halt => halt.error.unplaced

/-- What is read from here on: the transcript or the error. -/
def reading (scene : Scene) (session : Session) (lines : List Line) : Except ScriptError Transcript :=
  ((session.consumeAll scene lines).map finish).mapError Halt.error

/-- Two computations come to the same if their first steps do and the rest does from there. -/
theorem essence_bind {step step' : Except Halt Session} {rest rest' : Session → Except Halt Session}
    (hstep : essence step = essence step')
    (hrest : ∀ next next', next.bare = next'.bare → essence (rest next) = essence (rest' next')) :
    essence (step >>= rest) = essence (step' >>= rest') := by
  cases step with
  | error halt =>
    cases step' with
    | error other => exact hstep
    | ok next' => cases hstep
  | ok next =>
    cases step' with
    | error other => cases hstep
    | ok next' => exact hrest next next' (Except.ok.inj hstep)

/-- The same directive comes to the same in whatever line, and however its value is trimmed. -/
theorem essence_applyDirective (h : session.bare = other.bare) (key : Text) {value value' : Text}
    (hvalue : Text.trim value = Text.trim value') :
    essence (session.applyDirective key value) = essence (other.applyDirective key value') := by
  have hconfig : session.bare.config = other.bare.config := congrArg Session.config h
  have hconfig : session.config = other.config := hconfig
  have happly : session.config.apply key value = other.config.apply key value' := by
    simp only [Configuration.apply, hvalue, hconfig]
  simp only [applyDirective, happly]
  generalize other.config.apply key value' = result
  obtain ⟨config, outcome⟩ := result
  cases outcome with
  | error cause => rfl
  | ok isNew =>
    cases isNew with
    | false =>
      exact congrArg (fun session : Session => Except.ok { session with config }) h
    | true =>
      exact congrArg (fun session : Session => Except.ok { session with
        config, turns := config.participants.map .ofParticipants }) h

/-- A field comes to the same as its line. -/
theorem essence_seed (h : session.bare = other.bare) {entry : Text × Text}
    (hkey : entry.1 ∈ LineEvent.keys) (number : Nat) :
    essence (session.seed entry) =
      essence (other.consume scene ⟨number, Text.trim (Options.written entry)⟩) := by
  have hevent : LineEvent.ofText other.turns (Text.trim (Options.written entry)) =
      .directive entry.1 (Text.trimEnd entry.2) := by
    rw [LineEvent.ofText, LineEvent.directive?_written hkey]
  rw [consume]
  simp only [hevent]
  exact @essence_applyDirective
    { session with line := ⟨session.line.number, Options.written entry⟩ }
    { other with line := ⟨number, Text.trim (Options.written entry)⟩ } h entry.1 _ _
    (Text.trim_trimEnd entry.2).symm

theorem essence_seeds {fields : List (Text × Text)} (hkeys : ∀ entry ∈ fields, entry.1 ∈ LineEvent.keys)
    (h : session.bare = other.bare) (number : Nat) :
    essence (fields.foldlM seed session) =
      essence (other.consumeAll scene (Line.numbered number (fields.map Options.written))) := by
  induction fields generalizing session other number with
  | nil => exact congrArg Except.ok h
  | cons entry rest ih =>
    obtain ⟨hkey, hkeys⟩ := List.forall_mem_cons.1 hkeys
    have hfirst := @essence_seed scene _ _ h entry hkey number
    -- A line that is blank would not count; this one has a key.
    have hwritten : Text.trim (Options.written entry) ≠ [] := by
      intro hnil
      have hevent := LineEvent.directive?_written hkey entry.2
      rw [hnil] at hevent
      cases hevent
    rw [List.map_cons, Line.numbered, if_neg hwritten, List.foldlM_cons, consumeAll, List.foldlM_cons]
    exact essence_bind hfirst fun next next' hnext => ih hkeys hnext (number + 1)

/-- The line before does not matter to what is read from here on. -/
theorem reading_of_bare (h : session.bare = other.bare) (lines : List Line) :
    session.reading scene lines = other.reading scene lines := by
  -- A line that is read takes the place of the one before, and the end does not look at it.
  have hline : ∀ line, ({ session with line } : Session) = { other with line } :=
    fun line => congrArg (fun session : Session => { session with line }) h
  cases lines with
  | nil =>
    have hfinish : session.bare.finish = other.bare.finish := congrArg finish h
    exact congrArg Except.ok hfinish
  | cons line rest =>
    have hconsume : session.consume scene line = other.consume scene line := by
      rw [consume, consume, hline]
    rw [reading, reading, consumeAll, consumeAll, List.foldlM_cons, List.foldlM_cons, hconsume]

/-! ### Further down -/

theorem warnings_of_seeds {seeds : List (Text × Text)} (h : seeds.foldlM seed session = .ok other) :
    other.warnings = session.warnings := by
  induction seeds generalizing session with
  | nil =>
    cases h
    rfl
  | cons entry rest ih =>
    obtain ⟨next, hnext, h⟩ := foldlM_cons_eq_ok.1 h
    rw [ih h, eq_directed_of_applyDirective hnext, warnings_directed]

end Session

/-- The transcript of the same lines further down. -/
def Transcript.down (count : Nat) (transcript : Transcript) : Transcript :=
  { transcript with warnings := transcript.warnings.map (Warning.renumber (· + count)) }

theorem Session.reading_down {session : Session} (hwarnings : session.warnings = []) (count : Nat)
    (scene : Scene) (lines : List Line) :
    session.reading scene (lines.map (Line.renumber (· + count))) =
      ((session.reading scene lines).map (Transcript.down count)).mapError
        (ScriptError.renumber (· + count)) := by
  -- There is no warning yet to be renumbered, so only the line is another one.
  have hbare : session.bare = ((Relabelling.numbers (· + count)).session session).bare := by
    have hcurrent : session.current.map (Relabelling.numbers (· + count)).activity = session.current :=
      Option.map_id'
    have hdone : session.done.map (Relabelling.numbers (· + count)).activity = session.done :=
      List.map_id' _
    simp only [Relabelling.session, bare, hcurrent, hdone, hwarnings, List.map_nil]
  have hall := relabel_consumeAll (.numbers (· + count)) session scene lines
  have hscene : (Relabelling.numbers (· + count)).scene scene = scene := rfl
  have hnumber : (Relabelling.numbers (· + count)).number = (· + count) := rfl
  rw [hscene, hnumber] at hall
  rw [reading_of_bare hbare, reading, reading, hall]
  cases session.consumeAll scene lines with
  | error halt => rfl
  | ok last =>
    have hfinish := relabel_finish (.numbers (· + count)) last
    rw [Relabelling.transcript_numbers] at hfinish
    exact congrArg Except.ok hfinish

theorem Session.reading_append (session : Session) (scene : Scene) (lines more : List Line) :
    session.reading scene (lines ++ more) =
      (session.consumeAll scene lines).mapError Halt.error >>= fun next => next.reading scene more := by
  rw [reading, consumeAll, List.foldlM_append]
  cases hall : lines.foldlM (fun session line => session.consume scene line) session with
  | error halt => rw [consumeAll, hall]; rfl
  | ok next => rw [consumeAll, hall]; rfl

/-! ### Scripts -/

variable {world : World} {options : Options} {source : Text}

theorem ofScript_of_start {first : Session} (h : Session.start world.now options = .ok first) :
    Transcript.ofScript world options source =
      first.reading (world.scene options) (Line.ofSource source) := by
  rw [Transcript.ofScript, h]
  rfl

theorem ofScript_of_start_error {halt : Halt} (h : Session.start world.now options = .error halt) :
    Transcript.ofScript world options source = .error halt.error := by
  rw [Transcript.ofScript, h]
  rfl

/-- A session starts with the table and then the fields. -/
theorem start_eq_bind (now : Time.Moment) (options : Options) :
    Session.start now options =
      Session.start now options.cleared >>= fun session => options.fields.foldlM Session.seed session := by
  rw [Session.start, options.seeds_eq_append, List.foldlM_append]
  rfl

theorem ofSource_preamble (hvalues : ∀ entry ∈ options.fields, '\n' ∉ entry.2) (source : Text) :
    Line.ofSource (options.preamble ++ source) =
      Line.numbered 1 (options.fields.map Options.written) ++
        (Line.ofSource source).map (Line.renumber (· + options.fields.length)) := by
  have hraws : ∀ raw ∈ options.fields.map Options.written, '\n' ∉ raw := by
    intro raw hraw
    obtain ⟨entry, hentry, rfl⟩ := List.mem_map.1 hraw
    have hkey := Options.key_mem_of_mem_fields hentry
    have hline : ∀ key ∈ LineEvent.keys, '\n' ∉ key := by decide
    simp [Options.written, hline _ hkey, hvalues entry hentry]
  have hsource := Line.ofSource_terminated hraws source
  rwa [List.length_map] at hsource

theorem essence_fields (options : Options) (scene : Scene) (session : Session) :
    Session.essence (options.fields.foldlM Session.seed session) =
      Session.essence
        (session.consumeAll scene (Line.numbered 1 (options.fields.map Options.written))) :=
  Session.essence_seeds (fun _ => Options.key_mem_of_mem_fields) rfl 1

/-- The lines of the fields are read first, then those of the script. -/
theorem ofScript_cleared (hvalues : ∀ entry ∈ options.fields, '\n' ∉ entry.2) {cleared : Session}
    (hcleared : Session.start world.now options.cleared = .ok cleared) :
    Transcript.ofScript world options.cleared (options.preamble ++ source) =
      (cleared.consumeAll (world.scene options)
          (Line.numbered 1 (options.fields.map Options.written))).mapError Halt.error >>=
        fun next => next.reading (world.scene options)
          ((Line.ofSource source).map (Line.renumber (· + options.fields.length))) := by
  rw [ofScript_of_start hcleared, ofSource_preamble hvalues, Session.reading_append]
  rfl

/-- If the options start a session, the script with their lines in front has what the script has,
further down. -/
theorem ofScript_preamble_of_start (hvalues : ∀ entry ∈ options.fields, '\n' ∉ entry.2)
    {first : Session} (hstart : Session.start world.now options = .ok first) :
    Transcript.ofScript world options.cleared (options.preamble ++ source) =
      ((Transcript.ofScript world options source).map
        (Transcript.down options.fields.length)).mapError
          (ScriptError.renumber (· + options.fields.length)) := by
  rw [ofScript_of_start hstart, ← Session.reading_down (Session.warnings_of_seeds hstart)]
  rw [start_eq_bind] at hstart
  obtain ⟨cleared, hcleared, hfields⟩ := bind_eq_ok.1 hstart
  have hlines := essence_fields options (world.scene options) cleared
  rw [hfields] at hlines
  rw [ofScript_cleared hvalues hcleared]
  cases hall : cleared.consumeAll (world.scene options)
      (Line.numbered 1 (options.fields.map Options.written)) with
  | error halt =>
    rw [hall] at hlines
    cases hlines
  | ok next =>
    rw [hall] at hlines
    exact (Session.reading_of_bare (Except.ok.inj hlines) _).symm

/-- If the options start no session, the script with their lines in front fails for the same reason. -/
theorem ofScript_preamble_of_start_error (hvalues : ∀ entry ∈ options.fields, '\n' ∉ entry.2)
    {halt : Halt} (hstart : Session.start world.now options = .error halt) :
    ∃ cause, Transcript.ofScript world options.cleared (options.preamble ++ source) = .error cause ∧
      cause.unplaced = halt.error.unplaced := by
  rw [start_eq_bind] at hstart
  cases hcleared : Session.start world.now options.cleared with
  | error other =>
    rw [hcleared] at hstart
    cases hstart
    exact ⟨_, ofScript_of_start_error hcleared, rfl⟩
  | ok cleared =>
    rw [hcleared] at hstart
    have hfields : options.fields.foldlM Session.seed cleared = .error halt := hstart
    have hlines := essence_fields options (world.scene options) cleared
    rw [hfields] at hlines
    rw [ofScript_cleared hvalues hcleared]
    cases hall : cleared.consumeAll (world.scene options)
        (Line.numbered 1 (options.fields.map Options.written)) with
    | error other =>
      rw [hall] at hlines
      exact ⟨other.error, rfl, (Except.error.inj hlines).symm⟩
    | ok next =>
      rw [hall] at hlines
      cases hlines

/-- Fields of the options and lines in front of the script come to the same: the same error but for
its place, or the same activities and the same warnings further down. An error that is not in the
options is only further down, too. -/
theorem ofScript_preamble (hvalues : ∀ entry ∈ options.fields, '\n' ∉ entry.2) :
    (Transcript.ofScript world options.cleared (options.preamble ++ source)).mapError
          ScriptError.unplaced =
        ((Transcript.ofScript world options source).map
          (Transcript.down options.fields.length)).mapError ScriptError.unplaced ∧
      ∀ first, Session.start world.now options = .ok first →
        Transcript.ofScript world options.cleared (options.preamble ++ source) =
          ((Transcript.ofScript world options source).map
            (Transcript.down options.fields.length)).mapError
              (ScriptError.renumber (· + options.fields.length)) := by
  refine ⟨?_, fun first => ofScript_preamble_of_start hvalues⟩
  cases hstart : Session.start world.now options with
  | error halt =>
    obtain ⟨cause, hcause, hplace⟩ := @ofScript_preamble_of_start_error world _ source hvalues _ hstart
    rw [hcause, ofScript_of_start_error hstart]
    exact congrArg Except.error hplace
  | ok first =>
    rw [ofScript_preamble_of_start hvalues hstart]
    cases Transcript.ofScript world options source with
    | error cause => exact congrArg Except.error (cause.unplaced_renumber _)
    | ok transcript => rfl

theorem ofScript_preamble_greeting :
    ∃ transcript, Transcript.ofScript .bare .named greeting = .ok transcript ∧
      Transcript.ofScript .bare Options.named.cleared ("bot=Zoe\nuser=Sam\n".toList ++ greeting) =
        .ok (transcript.down 2) := by
  obtain ⟨transcript, hscript⟩ := exists_ofScript_greeting
  have hboth := (@ofScript_preamble .bare .named greeting (by decide)).2 _ rfl
  rw [hscript] at hboth
  exact ⟨transcript, hscript, hboth⟩

end Colloquy
