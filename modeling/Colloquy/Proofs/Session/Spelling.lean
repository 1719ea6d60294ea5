import Colloquy.Proofs.Script.Separator
import Colloquy.Proofs.Session.Fetch
import Colloquy.Proofs.Session.Validity

/-!
# Spellings of a command

Two commands that mean the same do the same to a session, but for the token that a warning about them
quotes. All that comes after them in a scan does the same too, since nothing reads a warning
(`alike_scan`). So an argument can stand behind a `=` or a `:`, unless it holds a `=` itself
(`separators_alike`); in that case the colon makes a command that is not known of one that may be
(`not_separators_alike`).
-/

namespace Colloquy

/-! ### Segments that mean the same -/

/-- The segments mean the same; their warnings can quote them. -/
structure Segment.Synonyms (segment other : Segment) : Prop where
  kind : other.kind? = segment.kind?
  request : other.request? = segment.request?
  gap : ∀ usual, other.gap? usual = segment.gap? usual
  layout : other.layout? = segment.layout?
  fragment : other.fragment? = segment.fragment?
  warning : ∀ line, other.warning? line = segment.warning? line ∨
    ∃ quote, (quote = Warning.unknownTag ∨ quote = Warning.missingArgument) ∧
      segment.warning? line = some (quote line segment.raw) ∧
      other.warning? line = some (quote line other.raw)

namespace Segment

variable {body other : Text}

theorem synonyms_of_unknown (hbody : (Command.ofBody body).tag = .unknown)
    (hother : (Command.ofBody other).tag = .unknown) : Synonyms (command body) (command other) := by
  constructor
  · simp only [kind?, tag?, hbody, hother]
  · simp [request?, tag?, hbody, hother]
  · simp [gap?, tag?, hbody, hother]
  · simp [layout?, tag?, hbody, hother]
  · rfl
  · intro line
    refine .inr ⟨.unknownTag, .inl rfl, ?_, ?_⟩
    · simp only [warning?, tag?, hbody]
    · simp only [warning?, tag?, hother]

theorem synonyms_of_ofBody (h : Command.ofBody other = Command.ofBody body) :
    Synonyms (command body) (command other) := by
  have htag : (command other).tag? = (command body).tag? := by
    rw [tag?, tag?, h]
  have hargument : (command other).argument? = (command body).argument? := by
    rw [argument?, argument?, h]
  have hdelay : (command other).delay? = (command body).delay? := by
    rw [delay?, delay?, htag, hargument]
  constructor
  · rw [kind?, kind?, htag]
  · rw [request?, request?, htag, hargument]
  · intro usual
    rw [gap?, gap?, htag, hdelay]
  · rw [layout?, layout?, htag, hargument]
  · rfl
  · intro line
    rw [warning?, warning?, htag, hargument]
    split
    · exact .inr ⟨.unknownTag, .inl rfl, rfl, rfl⟩
    · exact .inl rfl
    · exact .inl rfl
    · exact .inr ⟨.missingArgument, .inr rfl, rfl, rfl⟩
    · exact .inr ⟨.missingArgument, .inr rfl, rfl, rfl⟩
    · exact .inl rfl
    · exact .inl rfl

end Segment

namespace Session

variable {scene : Scene} {old new : Text} {session other next : Session}

/-! ### Sessions that differ in a quotation -/

/-- The session but for one warning, which can quote another token. -/
inductive Requoted (old new : Text) (session : Session) : Session → Prop
  | same : Requoted old new session session
  | quoted (before after : List Warning) (quote : Nat → Text → Warning) :
      quote = .unknownTag ∨ quote = .missingArgument →
      session.warnings = before ++ quote session.line.number old :: after →
      Requoted old new session
        { session with warnings := before ++ quote session.line.number new :: after }

theorem Requoted.exists_warnings (h : Requoted old new session other) :
    ∃ warnings, other = { session with warnings } := by
  cases h with
  | same => exact ⟨session.warnings, rfl⟩
  | quoted before after quote _ _ => exact ⟨_, rfl⟩

/-- More warnings behind the others change nothing in the difference. -/
theorem Requoted.grow {more : List Warning} (h : Requoted old new session other)
    (hline : next.line = session.line) (hwarnings : next.warnings = session.warnings ++ more) :
    Requoted old new next { next with warnings := other.warnings ++ more } := by
  cases h with
  | same =>
    rw [← hwarnings]
    exact .same
  | quoted before after quote hquote hold =>
    rw [hold, List.append_assoc, List.cons_append, ← hline] at hwarnings
    rw [List.append_assoc, List.cons_append, ← hline]
    exact .quoted before (after ++ more) quote hquote hwarnings

theorem Requoted.frame (h : Requoted old new session other) (hline : next.line = session.line)
    (hwarnings : next.warnings = session.warnings) :
    Requoted old new next { next with warnings := other.warnings } := by
  have hnil : next.warnings = session.warnings ++ [] := by rw [hwarnings, List.append_nil]
  have hgrown := h.grow hline hnil
  rw [List.append_nil] at hgrown
  exact hgrown

/-- Two steps have come to the same but for what a warning quotes. -/
def Alike {α β : Type} (old new : Text) (view : α → Session) (extra : α → β) :
    Except Halt α → Except Halt α → Prop
  | .ok a, .ok b => Requoted old new (view a) (view b) ∧ extra a = extra b
  | .error a, .error b => Requoted old new a.session b.session ∧ a.error = b.error
  | _, _ => False

variable {α β α' β' : Type} {view : α → Session} {extra : α → β} {view' : α' → Session}
  {extra' : α' → β'}

theorem Alike.bind {first second : Except Halt α} {step step' : α → Except Halt α'}
    (h : Alike old new view extra first second)
    (hstep : ∀ a b, first = .ok a → Requoted old new (view a) (view b) → extra a = extra b →
      Alike old new view' extra' (step a) (step' b)) :
    Alike old new view' extra' (first >>= step) (second >>= step') := by
  cases first with
  | error halt =>
    cases second with
    | error other => exact h
    | ok b => exact h.elim
  | ok a =>
    cases second with
    | error other => exact h.elim
    | ok b => exact hstep a b rfl h.1 h.2

/-- What is open does not differ. -/
theorem Alike.current_eq {first second : Except Halt α} (h : Alike old new view extra first second) :
    (first.toOption.map fun a => (view a).current) =
      second.toOption.map fun b => (view b).current := by
  cases first with
  | error halt =>
    cases second with
    | error other => rfl
    | ok b => exact h.elim
  | ok a =>
    cases second with
    | error other => exact h.elim
    | ok b =>
      obtain ⟨warnings, hwarnings⟩ := h.1.exists_warnings
      simp [Except.toOption, hwarnings]

/-! ### Scanning -/

/-- What a scan holds besides its session. -/
def Scan.aside (scan : Scan) : List Text × Nat := (scan.pending, scan.opened)

theorem requoted_heed {segment spelling : Segment} (h : segment.Synonyms spelling) (session : Session)
    (activity : Activity) (found : List Attachment) :
    Requoted segment.raw spelling.raw (session.heed segment activity found)
      (session.heed spelling activity found) := by
  have hheed : session.heed spelling activity found =
      { session.heed segment activity found with
        warnings := session.warnings ++ (spelling.warning? session.line.number).toList } := by
    simp only [heed, h.gap, h.layout]
  rw [hheed]
  rcases h.warning session.line.number with hsame | ⟨quote, hquote, hold, hnew⟩
  · rw [hsame]
    exact .same
  · rw [hnew]
    refine .quoted session.warnings [] quote hquote ?_
    simp only [heed, hold, Option.toList_some]

theorem alike_take_of_synonyms {scan : Scan} {segment spelling : Segment} {activity : Activity}
    (h : segment.Synonyms spelling) (hcurrent : scan.session.current = some activity) :
    Alike segment.raw spelling.raw Scan.session Scan.aside (scan.take scene segment)
      (scan.take scene spelling) := by
  rw [take_eq hcurrent, take_eq hcurrent, h.kind, h.request, h.fragment]
  split
  · exact ⟨.same, rfl⟩
  · exact ⟨.same, rfl⟩
  · exact ⟨requoted_heed h _ _ _, rfl⟩
  · exact ⟨requoted_heed h _ _ _, rfl⟩

theorem alike_take {scan : Scan} {activity : Activity} (h : Requoted old new scan.session other)
    (hcurrent : scan.session.current = some activity) (segment : Segment) :
    Alike old new Scan.session Scan.aside (scan.take scene segment)
      (({ scan with session := other } : Scan).take scene segment) := by
  obtain ⟨warnings, rfl⟩ := h.exists_warnings
  have hopen : ({ scan.session with warnings } : Session).current = some activity := hcurrent
  rw [take_eq hcurrent, @take_eq scene { scan with session := { scan.session with warnings } } activity
    hopen]
  split
  · have hwarnings := warnings_close (scan.session.written activity scan.pending)
    have hline := line_close (scan.session.written activity scan.pending)
    exact ⟨h.frame hline hwarnings, rfl⟩
  · exact ⟨h.frame rfl rfl, rfl⟩
  · exact ⟨h.grow rfl rfl, rfl⟩
  · exact ⟨h.grow rfl rfl, rfl⟩

theorem Scan.eq_of_aside {scan second : Scan} (h : scan.aside = second.aside) :
    second = { scan with session := second.session } := by
  obtain ⟨session, pending, opened⟩ := second
  obtain ⟨rfl, rfl⟩ := Prod.mk.inj h
  rfl

theorem alike_takeAll {segments : List Segment} {scan : Scan} {activity : Activity}
    (h : Requoted old new scan.session other) (hcurrent : scan.session.current = some activity) :
    Alike old new Scan.session Scan.aside (segments.foldlM (Scan.take scene) scan)
      (segments.foldlM (Scan.take scene) { scan with session := other }) := by
  induction segments generalizing scan other activity with
  | nil => exact ⟨h, rfl⟩
  | cons segment rest ih =>
    rw [List.foldlM_cons, List.foldlM_cons]
    refine (alike_take h hcurrent segment).bind fun next last hnext hlast haside => ?_
    obtain ⟨-, -, changed, hchanged⟩ := kept_take hcurrent hnext
    rw [Scan.eq_of_aside haside]
    exact ih hlast hchanged

theorem alike_flush {scan : Scan} {activity : Activity} (h : Requoted old new scan.session other)
    (hcurrent : scan.session.current = some activity) :
    Alike old new Scan.session Scan.aside scan.flush ({ scan with session := other } : Scan).flush := by
  obtain ⟨warnings, rfl⟩ := h.exists_warnings
  have hopen : ({ scan.session with warnings } : Session).current = some activity := hcurrent
  rw [flush_eq hcurrent, @flush_eq { scan with session := { scan.session with warnings } } activity hopen]
  exact ⟨h.frame rfl rfl, rfl⟩

/-- Up to the segment that is spelled in another way the scans are one scan, and behind it they go on
alike. -/
theorem alike_takeAll_of_synonyms {segment spelling : Segment} (h : segment.Synonyms spelling)
    {before : List Segment} (after : List Segment) {scan : Scan} {activity : Activity}
    (hcurrent : scan.session.current = some activity) :
    Alike segment.raw spelling.raw Scan.session Scan.aside
      ((before ++ segment :: after).foldlM (Scan.take scene) scan)
      ((before ++ spelling :: after).foldlM (Scan.take scene) scan) := by
  induction before generalizing scan activity with
  | nil =>
    rw [List.nil_append, List.nil_append, List.foldlM_cons, List.foldlM_cons]
    refine (alike_take_of_synonyms h hcurrent).bind fun next last hnext hlast haside => ?_
    obtain ⟨-, -, changed, hchanged⟩ := kept_take hcurrent hnext
    rw [Scan.eq_of_aside haside]
    exact alike_takeAll hlast hchanged
  | cons first rest ih =>
    rw [List.cons_append, List.cons_append, List.foldlM_cons, List.foldlM_cons]
    cases htake : scan.take scene first with
    | error halt => exact ⟨.same, rfl⟩
    | ok next =>
      obtain ⟨-, -, changed, hchanged⟩ := kept_take hcurrent htake
      exact ih hchanged

/-- A command in its place in dialogue can be spelled in another way that means the same. -/
theorem alike_scan {activity : Activity} {front body spelling : Text}
    (hcurrent : session.current = some activity) (hfront : Segment.Closed front) (hbody : ']' ∉ body)
    (hspelling : ']' ∉ spelling)
    (h : Segment.Synonyms (.command body) (.command spelling)) (back : Text) :
    Alike (Command.bracketed body) (Command.bracketed spelling) Prod.fst Prod.snd
      (session.scan scene (front ++ (Command.bracketed body ++ back)))
      (session.scan scene (front ++ (Command.bracketed spelling ++ back))) := by
  rw [scan, scan, Segment.segments_append_command hfront hbody,
    Segment.segments_append_command hfront hspelling]
  have hstart : ({ session } : Scan).session.current = some activity := hcurrent
  refine (alike_takeAll_of_synonyms h (Segment.segments back) hstart).bind ?_
  intro next last hnext hlast haside
  obtain ⟨changed, hchanged⟩ := exists_current_takeAll hstart hnext
  rw [Scan.eq_of_aside haside]
  refine (alike_flush hlast hchanged).bind fun flushed final _ hfinal hsame => ?_
  exact ⟨hfinal, (Prod.mk.inj hsame).2⟩

/-! ### The two separators -/

/-- A command whose argument stands behind a colon does what it does with a `=` instead, whether that
succeeds or fails, but for the token that a warning quotes: if no `=` is in the argument, or the name is
not known. A `=` in the argument makes the command with the colon one that is not known, whatever the
name is. -/
theorem separators_alike {front name argument : Text} (hphase : session.phase = .inTurn)
    (hfront : Segment.Closed front) (hequals : '=' ∉ name) (hcolon : ':' ∉ name) (hname : ']' ∉ name)
    (hargument : ']' ∉ argument) (back : Text) :
    ('=' ∉ argument ∨ Tag.ofName name = .unknown →
        Alike (Command.bracketed (name ++ ':' :: argument))
          (Command.bracketed (name ++ '=' :: argument)) Prod.fst Prod.snd
          (session.scan scene
            (front ++ (Command.bracketed (name ++ ':' :: argument) ++ back)))
          (session.scan scene
            (front ++ (Command.bracketed (name ++ '=' :: argument) ++ back)))) ∧
      ('=' ∈ argument →
        (Command.ofBody (name ++ ':' :: argument)).tag = .unknown ∧
          (Command.ofBody (name ++ '=' :: argument)).tag = Tag.ofName name) := by
  obtain ⟨activity, hcurrent⟩ := exists_current_of_phase hphase
  have htag := Command.tag_equals hequals argument
  refine ⟨?_, fun hmem => ⟨Command.tag_colon hequals hmem, htag⟩⟩
  intro hspelling
  have hsynonyms : Segment.Synonyms (.command (name ++ ':' :: argument))
      (.command (name ++ '=' :: argument)) := by
    by_cases hmem : '=' ∈ argument
    · have hunknown : Tag.ofName name = .unknown := hspelling.resolve_left (not_not.2 hmem)
      exact Segment.synonyms_of_unknown (Command.tag_colon hequals hmem) (htag.trans hunknown)
    · exact Segment.synonyms_of_ofBody (Command.ofBody_colon hequals hcolon hmem).symm
  have hbodies : ∀ separator ∈ [':', '='], ']' ∉ name ++ separator :: argument := by
    simp [hname, hargument]
  exact alike_scan hcurrent hfront (hbodies ':' (by simp)) (hbodies '=' (by simp)) hsynonyms back

theorem separators_alike_greeted :
    greeted.phase = .inTurn ∧
      Alike "[attachment: ]" "[attachment= ]" Prod.fst Prod.snd
        (greeted.scan (World.bare.scene .named) "look [typing] [attachment: ] [delay=5]")
        (greeted.scan (World.bare.scene .named) "look [typing] [attachment= ] [delay=5]") := by
  have hfront : Segment.Closed "look [typing] " := by decide
  have halike := @separators_alike (World.bare.scene .named) greeted "look [typing] " "attachment" " "
    phase_greeted hfront (by decide) (by decide) (by decide) (by decide) " [delay=5]"
  exact ⟨phase_greeted, halike.1 (.inl (by decide))⟩

/-- A `=` in the argument makes the command with the colon one that is not known; and behind a bracket
that is left open the separators are in the argument of another command. -/
theorem not_separators_alike :
    greeted.phase = .inTurn ∧
      ¬Alike "[attachment:http://x.test/?b=c image/png]" "[attachment=http://x.test/?b=c image/png]"
        Prod.fst Prod.snd
        (greeted.scan (World.bare.scene .named) "[attachment:http://x.test/?b=c image/png]")
        (greeted.scan (World.bare.scene .named) "[attachment=http://x.test/?b=c image/png]") ∧
      ¬Alike "[b:c image/png]" "[b=c image/png]" Prod.fst Prod.snd
        (greeted.scan (World.bare.scene .named) "[attachment=http://x.test/[b:c image/png]")
        (greeted.scan (World.bare.scene .named) "[attachment=http://x.test/[b=c image/png]") := by
  refine ⟨phase_greeted, ?_, ?_⟩
  · intro halike
    exact absurd halike.current_eq (by decide +kernel)
  · intro halike
    exact absurd halike.current_eq (by decide +kernel)

end Session

end Colloquy
