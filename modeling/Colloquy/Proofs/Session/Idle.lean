import Colloquy.Proofs.Session.Validity

/-!
# Scanning with nothing open

Where no activity is open there is nothing that dialogue could be put to. Blank text and commands that
are not known do not need one; text and the first known command do, and the scan fails over it. A command
that opens an activity looks for the one before it first and fails without a trace. A delay and a field
move the clock before they look for the activity to stamp, so the gap is lost: the clock that is left is
`idleClock`, and all later activities are late by that gap (`idle_scan`).
-/

namespace Colloquy

namespace Segment

/-- Whether the segment is a command that stands for something. -/
def isKnown (segment : Segment) : Bool :=
  match segment.tag? with
  | none | some .unknown => false
  | some _ => true

/-- The gap by which segments move a clock for which there is no activity: that of the first command
that is known, unless this one opens an activity. -/
def toll? (usual : Int) (segments : List Segment) : Option Int := do
  let first ← segments.find? isKnown
  if first.kind?.isSome then none else first.gap? usual

/-- Whether there has to be an open activity for the segment. -/
def isBound (segment : Segment) : Bool := segment.isKnown || segment.fragment?.isSome

theorem toll?_cons_of_not_known {segment : Segment} (h : segment.isKnown = false) (usual : Int)
    (rest : List Segment) : toll? usual (segment :: rest) = toll? usual rest := by
  rw [toll?, toll?, List.find?_cons_of_neg (by simp [h])]

theorem toll?_cons_of_known {segment : Segment} (h : segment.isKnown = true) (usual : Int)
    (rest : List Segment) : toll? usual (segment :: rest) =
      if segment.kind?.isSome then none else segment.gap? usual := by
  rw [toll?, List.find?_cons_of_pos h]
  rfl

end Segment

namespace Session

variable {scene : Scene} {session : Session}

/-- The clock that is left when dialogue is scanned with nothing open. -/
def idleClock (session : Session) (dialogue : Text) : Time.Clock :=
  (Segment.toll? session.clock.gap (Segment.segments dialogue)).elim session.clock
    session.clock.tickBy

/-! ### One segment -/

theorem stamp_idle (hcurrent : session.current = none) (gap : Int) :
    session.stamp gap =
      .error ({ session with clock := session.clock.tickBy gap } : Session).noOpenTurn := by
  rw [stamp, modify, hcurrent]

/-- A delay moves the clock, if only by the usual gap, and then fails. -/
theorem delay_idle (hcurrent : session.current = none) (argument : Text) :
    ∃ warnings, session.delay argument = .error ({ session with
      clock := session.clock.tickBy ((Text.toInt64? argument).getD session.clock.gap)
      warnings := session.warnings ++ warnings } : Session).noOpenTurn := by
  rw [delay]
  cases Text.toInt64? argument with
  | some gap =>
    refine ⟨[], ?_⟩
    rw [List.append_nil]
    exact stamp_idle hcurrent gap
  | none =>
    have hwarned : (session.warn (.invalidDelay session.line.number argument)).current = none :=
      hcurrent
    exact ⟨[_], stamp_idle hwarned _⟩

/-- A field moves the clock by the usual gap, and then fails whatever its argument is. -/
theorem setField_idle (hcurrent : session.current = none) (body : Text) (argument : Option Text)
    (set : Session → Text → Except Halt Session) : session.setField body argument set =
      .error ({ session with clock := session.clock.tick } : Session).noOpenTurn := by
  rw [setField, stamp_idle hcurrent]
  rfl

/-- Collected text fails before anything is done. -/
theorem flush_idle {scan : Scan} (hcurrent : scan.session.current = none) (hscan : scan.Tidy) :
    scan.flush =
      if scan.pending = [] then .ok scan else .error scan.session.noOpenTurn := by
  rw [Scan.flush, append]
  by_cases hnil : scan.pending = []
  · rw [if_pos hnil, if_pos ((Text.join_eq_nil_iff hscan).2 hnil)]
    cases scan
    cases hnil
    rfl
  · rw [if_neg hnil, if_neg (mt (Text.join_eq_nil_iff hscan).1 hnil), modify, hcurrent]
    rfl

/-- A segment that stands for nothing collects its text and earns its warning. -/
theorem take_unknown {scan : Scan} {segment : Segment} (h : segment.isKnown = false) :
    ∃ warnings, scan.take scene segment = .ok { scan with
      session := { scan.session with warnings := scan.session.warnings ++ warnings }
      pending := scan.pending ++ segment.fragment?.toList } := by
  cases segment with
  | dialogue text =>
    refine ⟨[], ?_⟩
    rw [List.append_nil, Scan.take, Segment.fragment?]
    by_cases hblank : Text.trim text = []
    · simp [hblank]
    · simp [hblank]
  | command body =>
    simp only [Segment.isKnown, Segment.tag?] at h
    cases htag : (Command.ofBody body).tag with
    | unknown =>
      refine ⟨[.unknownTag scan.session.line.number (Command.bracketed body)], ?_⟩
      simp only [Scan.take, Scan.obey, htag]
      rw [Segment.fragment?, Option.toList_none, List.append_nil]
      rfl
    | «opens» kind => simp [htag] at h
    | delay => simp [htag] at h
    | attachment => simp [htag] at h
    | layout => simp [htag] at h

/-- A known command fails with nothing open; its gap is lost, unless it is to open an activity. -/
theorem take_known {scan : Scan} {segment : Segment} (hcurrent : scan.session.current = none)
    (hscan : scan.Tidy) (h : segment.isKnown = true) :
    ∃ warnings, scan.take scene segment = .error ({ scan.session with
      clock := (if segment.kind?.isSome then none else
        segment.gap? scan.session.clock.gap).elim scan.session.clock scan.session.clock.tickBy
      warnings := scan.session.warnings ++ warnings } : Session).noOpenTurn := by
  cases segment with
  | dialogue text => cases h
  | command body =>
    have htag? : (Segment.command body).tag? = some (Command.ofBody body).tag := rfl
    simp only [Scan.take, Scan.obey]
    cases htag : (Command.ofBody body).tag with
    | unknown => simp [Segment.isKnown, htag?, htag] at h
    | «opens» kind =>
      refine ⟨[], ?_⟩
      have hkind : (Segment.command body).kind? = some kind := by simp [Segment.kind?, htag?, htag]
      have hsplit : scan.session.split scene kind = .error scan.session.noOpenTurn := by
        rw [split, hcurrent]
      simp only [flush_idle hcurrent hscan, hkind, Option.isSome_some, if_true, Option.elim_none,
        List.append_nil]
      by_cases hnil : scan.pending = []
      · rw [if_pos hnil]
        show (scan.session.split scene kind >>= _) = _
        rw [hsplit]
        rfl
      · rw [if_neg hnil]
        rfl
    | delay =>
      obtain ⟨warnings, hdelay⟩ := delay_idle hcurrent ((Command.ofBody body).argument.getD [])
      refine ⟨warnings, ?_⟩
      have hkind : (Segment.command body).kind? = none := by simp [Segment.kind?, htag?, htag]
      have hgap : (Segment.command body).gap? scan.session.clock.gap = some
          ((Text.toInt64? ((Command.ofBody body).argument.getD [])).getD scan.session.clock.gap) := by
        simp [Segment.gap?, htag?, htag, Segment.delay?_command htag]
      simp only [hdelay, hkind, hgap]
      rfl
    | attachment =>
      refine ⟨[], ?_⟩
      simp [setField_idle hcurrent, Segment.kind?, Segment.gap?, htag?, htag, bind, Except.bind,
        Time.Clock.tick]
    | layout =>
      refine ⟨[], ?_⟩
      simp [setField_idle hcurrent, Segment.kind?, Segment.gap?, htag?, htag, bind, Except.bind,
        Time.Clock.tick]

/-! ### Whole scans -/

/-- Segments that are taken with nothing open stand for nothing; otherwise the first that does fails. -/
theorem takeAll_idle {segments : List Segment} {scan : Scan} (hcurrent : scan.session.current = none)
    (hscan : scan.Tidy) :
    (segments.any Segment.isKnown = false → ∃ warnings,
        segments.foldlM (Scan.take scene) scan = .ok { scan with
          session := { scan.session with warnings := scan.session.warnings ++ warnings }
          pending := scan.pending ++ segments.filterMap Segment.fragment? }) ∧
      (segments.any Segment.isKnown = true → ∃ warnings,
        segments.foldlM (Scan.take scene) scan = .error ({ scan.session with
          clock := (Segment.toll? scan.session.clock.gap segments).elim scan.session.clock
            scan.session.clock.tickBy
          warnings := scan.session.warnings ++ warnings } : Session).noOpenTurn) := by
  induction segments generalizing scan with
  | nil =>
    refine ⟨fun _ => ⟨[], ?_⟩, fun h => ?_⟩
    · simp
      rfl
    · cases h
  | cons segment rest ih =>
    rw [List.foldlM_cons, List.any_cons]
    cases hknown : segment.isKnown with
    | true =>
      refine ⟨fun h => ?_, fun _ => ?_⟩
      · cases h
      · obtain ⟨warnings, htake⟩ := @take_known scene scan segment hcurrent hscan hknown
        rw [htake, Segment.toll?_cons_of_known hknown]
        exact ⟨warnings, rfl⟩
    | false =>
      obtain ⟨warnings, htake⟩ := @take_unknown scene scan segment hknown
      have hnext := Scan.tidy_take hscan htake
      obtain ⟨hfree, hbound⟩ := @ih { scan with
        session := { scan.session with warnings := scan.session.warnings ++ warnings }
        pending := scan.pending ++ segment.fragment?.toList } hcurrent hnext
      rw [htake, Segment.toll?_cons_of_not_known hknown, Bool.false_or]
      refine ⟨fun h => ?_, fun h => ?_⟩
      · obtain ⟨more, hmore⟩ := hfree h
        refine ⟨warnings ++ more, hmore.trans ?_⟩
        cases hfragment : segment.fragment? <;> simp [hfragment]
      · obtain ⟨more, hmore⟩ := hbound h
        refine ⟨warnings ++ more, hmore.trans ?_⟩
        rw [List.append_assoc]

theorem idleClock_of_opens {dialogue : Text}
    (h : ∀ first, (Segment.segments dialogue).find? Segment.isKnown = some first → first.kind? ≠ none) :
    session.idleClock dialogue = session.clock := by
  have htoll : Segment.toll? session.clock.gap (Segment.segments dialogue) = none := by
    rw [Segment.toll?]
    cases hfirst : (Segment.segments dialogue).find? Segment.isKnown with
    | none => rfl
    | some first =>
      have hkind : first.kind?.isSome = true := Option.isSome_iff_ne_none.2 (h first hfirst)
      exact if_pos hkind
  rw [idleClock, htoll]
  rfl

theorem any_isBound_iff {segments : List Segment} (h : segments.any Segment.isKnown = false) :
    segments.any Segment.isBound = true ↔ segments.filterMap Segment.fragment? ≠ [] := by
  rw [Ne, List.filterMap_eq_nil_iff, List.any_eq_true]
  push Not
  refine exists_congr fun segment => and_congr_right fun hsegment => ?_
  have hknown : segment.isKnown = false := by simpa using List.any_eq_false.1 h segment hsegment
  rw [Segment.isBound, hknown, Bool.false_or, Option.isSome_iff_ne_none]

/-- What comes of a scan with nothing open. -/
theorem scan_of_idle (hcurrent : session.current = none) (dialogue : Text) :
    ∃ warnings, session.scan scene dialogue =
      if (Segment.segments dialogue).any Segment.isBound then
        .error ({ session with
          clock := session.idleClock dialogue
          warnings := session.warnings ++ warnings } : Session).noOpenTurn
      else .ok ({ session with warnings := session.warnings ++ warnings }, 0) := by
  have hstart : Scan.Tidy { session } := Scan.tidy_of_pending_eq_nil rfl
  have hall := @takeAll_idle scene (Segment.segments dialogue) { session } hcurrent hstart
  cases hknown : (Segment.segments dialogue).any Segment.isKnown with
  | true =>
    obtain ⟨warnings, htaken⟩ := hall.2 hknown
    obtain ⟨segment, hsegment, hsome⟩ := List.any_eq_true.1 hknown
    have hbound : (Segment.segments dialogue).any Segment.isBound = true :=
      List.any_eq_true.2 ⟨segment, hsegment, by rw [Segment.isBound, hsome, Bool.true_or]⟩
    refine ⟨warnings, ?_⟩
    rw [scan, htaken, if_pos hbound]
    rfl
  | false =>
    obtain ⟨warnings, htaken⟩ := hall.1 hknown
    have htidy := (@touches_takeAll scene (fun _ => True) _ (fun _ _ _ _ => trivial) _ hstart).2 _ htaken
    have hclock : session.idleClock dialogue = session.clock := by
      refine idleClock_of_opens fun first hfirst => ?_
      have hnone := List.find?_eq_none.2 fun segment hsegment => List.any_eq_false.1 hknown segment hsegment
      rw [hnone] at hfirst
      cases hfirst
    have hflush : Scan.flush ⟨{ session with warnings := session.warnings ++ warnings },
        (Segment.segments dialogue).filterMap Segment.fragment?, 0⟩ =
        if (Segment.segments dialogue).filterMap Segment.fragment? = [] then
          .ok ⟨{ session with warnings := session.warnings ++ warnings },
            (Segment.segments dialogue).filterMap Segment.fragment?, 0⟩
        else .error ({ session with warnings := session.warnings ++ warnings } : Session).noOpenTurn :=
      flush_idle hcurrent htidy
    refine ⟨warnings, ?_⟩
    rw [scan, htaken]
    show (Scan.flush ⟨{ session with warnings := session.warnings ++ warnings },
      (Segment.segments dialogue).filterMap Segment.fragment?, 0⟩ >>= _) = _
    rw [hflush]
    by_cases hnil : (Segment.segments dialogue).filterMap Segment.fragment? = []
    · rw [if_pos hnil, if_neg (by rw [any_isBound_iff hknown]; exact not_not_intro hnil)]
      rfl
    · rw [if_neg hnil, if_pos ((any_isBound_iff hknown).2 hnil), hclock]
      rfl

/-- A scan with nothing open fails over text that is not blank and over commands that are known, and over
nothing else. It says that no turn is open, and leaves the activities, the configuration and what opens
turns as they were; but the clock has moved if the first command that is known is a delay or a field, and
the next turn is late by as much. If that command opens an activity, or there is none, no time is lost. -/
theorem idle_scan (hcurrent : session.current = none) (scene : Scene) (dialogue : Text) :
    ((∃ halt, session.scan scene dialogue = .error halt) ↔
        (Segment.segments dialogue).any Segment.isBound = true) ∧
      (∀ halt, session.scan scene dialogue = .error halt →
        halt.error = .noOpenTurn session.line.number session.line.text ∧
          (∃ warnings, halt.session = { session with
            clock := session.idleClock dialogue
            warnings := session.warnings ++ warnings }) ∧
          ∀ speaker turned, halt.session.openTurn scene speaker = .ok turned →
            ∃ other, session.openTurn scene speaker = .ok other ∧
              turned.current = other.current.map fun activity =>
                { activity with time := (session.idleClock dialogue).tick.now }) ∧
      ((∀ first, (Segment.segments dialogue).find? Segment.isKnown = some first →
          first.kind? ≠ none) →
        session.idleClock dialogue = session.clock) := by
  obtain ⟨warnings, hscan⟩ := @scan_of_idle scene session hcurrent dialogue
  refine ⟨?_, ?_, idleClock_of_opens⟩
  · rw [hscan]
    split <;> simp_all
  · intro halt h
    rw [hscan] at h
    split at h
    · cases h
      refine ⟨rfl, ⟨warnings, rfl⟩, fun speaker turned hturned => ?_⟩
      obtain ⟨people, role, hpeople, hrole, rfl⟩ := openTurn_eq_ok_iff.1 hturned
      refine ⟨_, openTurn_eq_ok_iff.2 ⟨people, role, hpeople, hrole, rfl⟩, ?_⟩
      simp [turned, openActivity, Configuration.channel, close, hcurrent, noOpenTurn]
    · cases h

/-- A delay of five seconds that is scanned before the first turn makes this turn late. -/
theorem idle_scan_hasty : ∃ halt,
    outset.scan (World.bare.scene .named) "[delay=5000]" = .error halt ∧
      halt.session.done = outset.done ∧
      halt.session.config = outset.config ∧
      ∃ turned, halt.session.openTurn (World.bare.scene .named) "Zoe" = .ok turned ∧
        turned.current.map Activity.time = some (Time.Moment.epoch.advance 7000) := by
  obtain ⟨hfails, hleft, -⟩ :=
    @idle_scan outset (by decide +kernel) (World.bare.scene .named) "[delay=5000]"
  obtain ⟨halt, hhalt⟩ := hfails.2 (by decide +kernel)
  obtain ⟨-, ⟨warnings, hsession⟩, hturn⟩ := hleft halt hhalt
  refine ⟨halt, hhalt, ?_, ?_, ?_⟩
  · rw [hsession]
  · rw [hsession]
  · have hspeaker : ∃ turned, halt.session.openTurn (World.bare.scene .named) "Zoe" = .ok turned := by
      refine ⟨_, openTurn_eq_ok_iff.2 ⟨.ofNames "Zoe" "Sam", .bot, ?_, by decide +kernel, rfl⟩⟩
      rw [hsession]
      show outset.config.participants = some (.ofNames "Zoe" "Sam")
      decide +kernel
    obtain ⟨turned, hturned⟩ := hspeaker
    obtain ⟨other, hother, hcurrent⟩ := hturn "Zoe" turned hturned
    have hopened : other.current.isSome = true := by
      obtain ⟨people, role, -, -, rfl⟩ := openTurn_eq_ok_iff.1 hother
      rfl
    have hclock : (outset.idleClock "[delay=5000]").tick.now = Time.Moment.epoch.advance 7000 := by
      decide +kernel
    obtain ⟨activity, hactivity⟩ := Option.isSome_iff_exists.1 hopened
    refine ⟨turned, hturned, ?_⟩
    rw [hcurrent, hactivity, hclock]
    rfl

/-- The time of the first turn depends on what has been scanned in vain before it. -/
theorem not_idle_scan :
    ¬ ∀ (world : World) (options : Options) (first : Session) (calls : List Call) (dialogue : Text)
        (halt : Halt), Session.start world.now options = .ok first →
        (first.run (world.scene options) calls).current = none →
        (first.run (world.scene options) calls).scan (world.scene options) dialogue = .error halt →
        halt.session.clock = (first.run (world.scene options) calls).clock := by
  intro hall
  have hlate : (left Prod.fst (outset.scan (World.bare.scene .named) "[delay=5000]")).clock ≠
      outset.clock := by
    decide +kernel
  cases hscan : outset.scan (World.bare.scene .named) "[delay=5000]" with
  | ok result =>
    have hfails : (outset.scan (World.bare.scene .named) "[delay=5000]").isOk = false := by
      decide +kernel
    rw [hscan] at hfails
    cases hfails
  | error halt =>
    rw [hscan] at hlate
    exact hlate (hall .bare .named outset [] "[delay=5000]" halt rfl (by decide +kernel) hscan)

end Session

end Colloquy
