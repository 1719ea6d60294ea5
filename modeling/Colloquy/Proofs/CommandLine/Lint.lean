import Colloquy.CommandLine.Request
import Colloquy.Proofs.Activity.Codec
import Colloquy.Proofs.Activity.Validity
import Colloquy.Proofs.Session.Header
import Colloquy.Proofs.Session.Naming

/-!
# What lint says about compiling

Both commands load the same transcript. Lint looks for problems in it, compiling for times that cannot
be written. Of these there is one kind only: a clock that delays have turned back before year 0
(`dated_ofScript`). Times are in order where lint finds no problem, so it is the first activity that
decides whether a script that lint accepts compiles: `compile_of_lint`. A script with a large negative
delay passes the one and fails the other (`not_compile_of_lint`).
-/

namespace Colloquy

/-! ### Times of a session -/

namespace Session

variable {scene : Scene} {delays : Int → Prop} {session next : Session} {offset : Int}

/-- The times of a session's activities. -/
def times (session : Session) : List Time.Moment := session.activities.map Activity.time

/-- The clock keeps an offset, which the times that it has given share, and none of these is beyond
its end. -/
structure Dated (offset : Int) (session : Session) : Prop where
  clock : session.clock.now.offset = offset
  times : ∀ time ∈ session.times, time.offset = offset ∧ time.wall ≤ Time.Moment.latest

theorem Dated.frame (h : session.Dated offset) (hclock : next.clock = session.clock)
    (htimes : next.times = session.times) : next.Dated offset := by
  constructor
  · rw [hclock]
    exact h.clock
  · rw [htimes]
    exact h.times

/-- The clock gives a time that is not beyond its end. -/
theorem Dated.tickBy (h : session.Dated offset) (gap : Int) :
    (session.clock.tickBy gap).now.offset = offset ∧
      (session.clock.tickBy gap).now.wall ≤ Time.Moment.latest :=
  ⟨h.clock, (Time.Moment.advance_mem _ _).2⟩

theorem Dated.opened (h : session.Dated offset) (hclock : next.clock = session.clock.tick)
    (htimes : next.times = session.times ++ [session.clock.tick.now]) : next.Dated offset := by
  constructor
  · rw [hclock]
    exact h.clock
  · rw [htimes]
    exact List.forall_mem_append.2 ⟨h.times, List.forall_mem_singleton.2 (h.tickBy _)⟩

theorem Dated.stamped (h : session.Dated offset) (gap : Int) :
    (session.stamped gap).Dated offset := by
  have htimes := h.times
  constructor
  · exact h.clock
  · simp only [Session.times, activities, Session.stamped, List.map_append,
      List.forall_mem_append] at htimes ⊢
    refine ⟨htimes.1, ?_⟩
    cases session.current with
    | none => exact List.forall_mem_nil _
    | some activity => exact List.forall_mem_singleton.2 (h.tickBy gap)

theorem Dated.move (h : session.Dated offset) (hmove : Move scene delays session next) :
    next.Dated offset := by
  cases hmove with
  | read line => exact h.frame rfl rfl
  | direct key value =>
    refine h.frame (clock_directed session key value) ?_
    rw [Session.times, activities_directed, Session.times]
  | warn warning => exact h.frame rfl rfl
  | stamp gap _ => exact h.stamped gap
  | append activity fragment hcurrent _ => exact h.frame rfl (map_activities_of_current hcurrent rfl)
  | attach activity argument attachment hcurrent _ =>
    exact h.frame rfl (map_activities_of_current hcurrent rfl)
  | arrange activity layout hcurrent => exact h.frame rfl (map_activities_of_current hcurrent rfl)
  | turn people speaker role _ _ =>
    exact h.opened (by simp [turned, openActivity])
      (map_activities_turned (fun _ _ => rfl) session people role)
  | split activity kind _ =>
    exact h.opened (by simp [openActivity]) (map_activities_split (fun _ _ => rfl) session kind _ _)

theorem Dated.moves (h : session.Dated offset) (hmoves : Moves scene delays session next) :
    next.Dated offset := by
  induction hmoves with
  | refl => exact h
  | tail _ hmove ih => exact ih.move hmove

end Session

/-- All times of a transcript keep the offset that the clock starts with, and none is beyond its
end. -/
theorem dated_ofScript {world : World} {options : Options} {source : Text} {transcript : Transcript}
    (h : Transcript.ofScript world options source = .ok transcript) :
    ∀ time ∈ transcript.activities.map Activity.time,
      time.offset = (options.start.getD world.now).offset ∧ time.wall ≤ Time.Moment.latest := by
  obtain ⟨first, last, hstart, hlast, rfl⟩ := ofScript_eq_ok_iff.1 h
  have hmoves := @Session.moves_run_of_any (world.scene options) first
    ((Line.ofSource source).map .line)
  rw [Session.run_of_consumeAll hlast] at hmoves
  have hfresh : (Session.fresh world.now options).Dated (options.start.getD world.now).offset :=
    ⟨rfl, List.forall_mem_nil _⟩
  have hdated := (hfresh.moves
    (@Session.moves_start (world.scene options) (fun _ => True) _ _ _ hstart)).moves hmoves
  rw [Session.map_finish (fun _ _ => rfl)]
  exact hdated.times

/-! ### The start of the clock -/

theorem Options.writable_start {text : Text} {options : Options} (h : ofToml? text = some options) :
    ∀ start, options.start = some start → Time.Rfc3339.Writable start := by
  obtain ⟨entries, -, h⟩ := Option.bind_eq_some_iff.1 h
  obtain ⟨bot, -, h⟩ := Option.bind_eq_some_iff.1 h
  obtain ⟨user, -, h⟩ := Option.bind_eq_some_iff.1 h
  obtain ⟨channel, -, h⟩ := Option.bind_eq_some_iff.1 h
  obtain ⟨directives, -, h⟩ := Option.bind_eq_some_iff.1 h
  obtain ⟨directory, -, h⟩ := Option.bind_eq_some_iff.1 h
  obtain ⟨gap, -, h⟩ := Option.bind_eq_some_iff.1 h
  obtain ⟨found, hfound, h⟩ := Option.bind_eq_some_iff.1 h
  obtain ⟨timeout, -, h⟩ := Option.bind_eq_some_iff.1 h
  obtain ⟨retries, -, h⟩ := Option.bind_eq_some_iff.1 h
  cases h
  intro start hstart
  obtain rfl : found = some start := hstart
  rw [field?] at hfound
  split at hfound
  · cases hfound
  · obtain ⟨moment, hmoment, hsame⟩ := Option.map_eq_some_iff.1 hfound
    obtain ⟨written, -, hread⟩ := Option.bind_eq_some_iff.1 hmoment
    rw [← Option.some.inj hsame]
    exact Time.Rfc3339.writable_of_read? hread

namespace CommandLine

variable {world : World} {script : ScriptArguments} {transcript : Transcript}

/-- The clock of a script starts at the epoch, at a moment that can be written or at the time of
day. -/
theorem start_options {options : Options} (h : CommandLine.options world script = .ok options) :
    ∀ start, options.start = some start → Time.Rfc3339.Writable start := by
  have hstart : ∀ found : Options, (∀ start, found.start = some start →
      Time.Rfc3339.Writable start) → ∀ start,
      (if script.fromEpoch = true then some Time.Moment.epoch else found.start) = some start →
        Time.Rfc3339.Writable start := by
    intro found hfound start hstart
    split at hstart
    · cases hstart
      decide
    · exact hfound start hstart
  simp only [CommandLine.options] at h
  split at h
  · obtain ⟨found, hfile, h⟩ := bind_eq_ok.1 h
    cases h
    obtain ⟨text, -, hfound⟩ := bind_eq_ok.1 (mapError_eq_ok.1 hfile)
    cases htoml : Options.ofToml? text with
    | none =>
      rw [htoml] at hfound
      cases hfound
    | some read =>
      rw [htoml] at hfound
      cases hfound
      exact hstart found (Options.writable_start htoml)
  · cases h
    exact hstart {} (by rintro start ⟨⟩)

/-- If the time of day is UTC, the offset of the clock can be written. -/
theorem offset_options (hnow : world.now.offset = 0) {options : Options}
    (h : CommandLine.options world script = .ok options) :
    (options.start.getD world.now).offset % 60 = 0 ∧
      (options.start.getD world.now).offset.natAbs < 86400 := by
  cases hstart : options.start with
  | none =>
    rw [Option.getD_none, hnow]
    decide
  | some start => exact (start_options h start hstart).2.2

/-! ### Loading -/

theorem load_eq_ok_iff : load world script = .ok transcript ↔
    ∃ options source, CommandLine.options world script = .ok options ∧
      world.files.readText script.file = .ok source ∧
      Transcript.ofScript world options source = .ok transcript := by
  rw [load, bind_eq_ok]
  constructor
  · rintro ⟨options, hoptions, h⟩
    obtain ⟨source, hsource, h⟩ := bind_eq_ok.1 h
    exact ⟨options, source, hoptions, mapError_eq_ok.1 hsource, mapError_eq_ok.1 h⟩
  · rintro ⟨options, source, hoptions, hsource, h⟩
    refine ⟨options, hoptions, bind_eq_ok.2 ⟨source, ?_, ?_⟩⟩
    · rw [hsource]
      rfl
    · rw [h]
      rfl

/-- The other command loads the same transcript up to the identifiers, which are drawn anew. -/
theorem load_of_ids (h : load world script = .ok transcript) (ids : Nat → Text) :
    ∃ other, load { world with ids } script = .ok other ∧ other.anonymous = transcript.anonymous := by
  obtain ⟨options, source, hoptions, hsource, h⟩ := load_eq_ok_iff.1 h
  obtain ⟨other, hother, hsame⟩ := ofScript_of_ids h ids
  exact ⟨other, load_eq_ok_iff.2 ⟨options, source, hoptions, hsource, hother⟩, hsame⟩

/-- The times of a transcript that is loaded share an offset, and can be written but for those before
year 0. -/
theorem times_of_load (hnow : world.now.offset = 0) (h : load world script = .ok transcript) :
    ∃ offset, ∀ time ∈ transcript.activities.map Activity.time,
      time.offset = offset ∧ (Time.Rfc3339.Writable time ↔ 0 ≤ time.date.year) := by
  obtain ⟨options, source, hoptions, -, h⟩ := load_eq_ok_iff.1 h
  have hoffset := offset_options hnow hoptions
  refine ⟨(options.start.getD world.now).offset, fun time htime => ?_⟩
  obtain ⟨hsame, hwall⟩ := dated_ofScript h time htime
  refine ⟨hsame, ?_⟩
  rw [← hsame] at hoffset
  rw [Time.Rfc3339.Writable]
  have hyear := Time.Rfc3339.year_le_of_wall_le hwall
  tauto

/-- Of times that are in order and of one offset the first decides whether there is one before year
0. -/
theorem years_iff_head {times : List Time.Moment} {offset : Int}
    (hoffset : ∀ time ∈ times, time.offset = offset)
    (hordered : times.Pairwise fun a b => a.instant ≤ b.instant) :
    (∀ time ∈ times, 0 ≤ time.date.year) ↔
      ∀ first, times.head? = some first → 0 ≤ first.date.year := by
  cases times with
  | nil => simp
  | cons first rest =>
    obtain ⟨hsame, hoffset⟩ := List.forall_mem_cons.1 hoffset
    obtain ⟨hfirst, -⟩ := List.pairwise_cons.1 hordered
    simp only [List.forall_mem_cons, List.head?_cons, Option.some.injEq, forall_eq']
    refine ⟨And.left, fun hyear => ⟨hyear, fun time htime => ?_⟩⟩
    have hlater := hfirst time htime
    rw [Time.Moment.instant, Time.Moment.instant, hsame, hoffset time htime] at hlater
    rw [Time.Rfc3339.year_nonneg_iff] at hyear ⊢
    omega

/-- A transcript that is loaded and in order can be written if its first activity is not from before
year 0. -/
theorem exists_writeAll?_iff_of_load (hnow : world.now.offset = 0)
    (h : load world script = .ok transcript)
    (hordered : (transcript.activities.map Activity.time).Pairwise
      fun a b => a.instant ≤ b.instant) (style : Json.Style) :
    (∃ text, Activity.writeAll? style transcript.activities = some text) ↔
      ∀ first, transcript.activities.head? = some first → 0 ≤ first.time.date.year := by
  obtain ⟨offset, htimes⟩ := times_of_load hnow h
  have hhead := years_iff_head (fun time htime => (htimes time htime).1) hordered
  calc (∃ text, Activity.writeAll? style transcript.activities = some text)
      ↔ ∀ time ∈ transcript.activities.map Activity.time, Time.Rfc3339.Writable time := by
        rw [Activity.exists_writeAll?_iff, List.forall_mem_map]
    _ ↔ ∀ time ∈ transcript.activities.map Activity.time, 0 ≤ time.date.year :=
        forall₂_congr fun time htime => (htimes time htime).2
    _ ↔ ∀ first, transcript.activities.head? = some first → 0 ≤ first.time.date.year := by
        rw [hhead, List.head?_map]
        cases transcript.activities.head? <;> simp

/-! ### From lint to compile -/

theorem exists_load_of_lint {denyWarnings : Bool}
    (h : ((Request.lint script denyWarnings).run world).exit = 0) :
    ∃ transcript, load world script = .ok transcript ∧ Activity.Valid transcript.activities := by
  rw [Request.run, lint] at h
  cases hload : load world script with
  | error failure =>
    rw [hload] at h
    cases h
  | ok transcript =>
    rw [hload] at h
    refine ⟨transcript, rfl, ?_⟩
    rw [← Activity.problems_eq_nil_iff]
    by_contra hproblems
    simp only [ne_eq, hproblems, not_false_eq_true, if_true] at h
    cases h

theorem run_compile_of_load (h : load world script = .ok transcript) (compact : Bool) :
    (Request.compile script none compact).run world =
      (Activity.writeAll? (if compact then .compact else .pretty) transcript.activities).elim
        (failed world (warningLines transcript) .unwritableTime)
        fun text => ⟨0, line text, warningLines transcript, world.files⟩ := by
  cases hwritten :
      Activity.writeAll? (if compact then .compact else .pretty) transcript.activities with
  | none => simp only [Request.run, compile, h, hwritten, Option.elim_none]
  | some text => simp only [Request.run, compile, h, hwritten, Option.elim_some]

theorem times_of_anonymous {other : Transcript} (h : other.anonymous = transcript.anonymous) :
    other.activities.map Activity.time = transcript.activities.map Activity.time := by
  have hactivities := congrArg (List.map Activity.time ∘ Transcript.activities) h
  simpa [Transcript.anonymous, Function.comp_def, Activity.anonymous] using hactivities

/-- What lint accepts is loaded by compile, with whatever identifiers, and written to the output
unless the first activity is from before year 0; in that case compile fails for it. -/
theorem compile_of_lint {denyWarnings : Bool} (hnow : world.now.offset = 0)
    (hlint : ((Request.lint script denyWarnings).run world).exit = 0) (ids : Nat → Text)
    (compact : Bool) :
    ∃ transcript, load { world with ids } script = .ok transcript ∧
      (((Request.compile script none compact).run { world with ids }).exit = 0 ↔
        ∀ first, transcript.activities.head? = some first → 0 ≤ first.time.date.year) ∧
      (((Request.compile script none compact).run { world with ids }).exit = 0 →
        ∃ text, Activity.writeAll? (if compact then .compact else .pretty) transcript.activities =
            some text ∧
          (Request.compile script none compact).run { world with ids } =
            ⟨0, line text, warningLines transcript, world.files⟩) ∧
      (((Request.compile script none compact).run { world with ids }).exit ≠ 0 →
        (Request.compile script none compact).run { world with ids } =
          failed world (warningLines transcript) .unwritableTime) := by
  obtain ⟨linted, hlinted, hvalid⟩ := exists_load_of_lint hlint
  obtain ⟨transcript, hload, hsame⟩ := load_of_ids hlinted ids
  have hordered : (transcript.activities.map Activity.time).Pairwise
      fun a b => a.instant ≤ b.instant := by
    rw [times_of_anonymous hsame]
    exact List.pairwise_map.2 hvalid.ordered
  refine ⟨transcript, hload, ?_⟩
  have hnow : ({ world with ids } : World).now.offset = 0 := hnow
  rw [← exists_writeAll?_iff_of_load hnow hload hordered (if compact then .compact else .pretty),
    run_compile_of_load hload]
  cases Activity.writeAll? (if compact then .compact else .pretty) transcript.activities with
  | none => simp [failed]
  | some text => simp

/-- The bare world with a script. -/
def scripted (text : Text) : World :=
  { World.bare with
    files := ⟨[], fun place =>
      if place = [] then some .directory
      else if place = ["s.chat"] then some (.file (Utf8.encode text))
      else none⟩ }

/-- A script whose only delay goes back as far as its argument says. -/
def rewound (milliseconds : Text) : Text := Text.join "\n"
  ["bot=Sam", "user=Zoe", Text.concat ["Zoe: hi [Delay=-", milliseconds, "]"], "Sam: hello"]

/-- A delay of an hour back from the epoch is no obstacle. -/
theorem compile_of_lint_rewound :
    ∃ transcript text, load (scripted (rewound "3600000")) { file := "s.chat" } = .ok transcript ∧
      Activity.writeAll? .compact transcript.activities = some text ∧
      ((Request.compile { file := "s.chat" } none true).run (scripted (rewound "3600000"))).stdout =
        line text := by
  obtain ⟨transcript, hload, -, hstdout, -⟩ := @compile_of_lint (scripted (rewound "3600000"))
    { file := "s.chat" } true (by decide +kernel) (by decide +kernel) World.bare.ids true
  have hzero : ((Request.compile { file := "s.chat" } none true).run
      (scripted (rewound "3600000"))).exit = 0 := by
    decide +kernel
  obtain ⟨text, hwritten, hrun⟩ := hstdout hzero
  exact ⟨transcript, text, hload, hwritten, congrArg Outcome.stdout hrun⟩

/-- A delay of three thousand years back is: lint reports nothing, and compile fails. -/
theorem not_compile_of_lint :
    ((Request.lint { file := "s.chat" } true).run (scripted (rewound "99999999999999"))).exit = 0 ∧
      ((Request.compile { file := "s.chat" } none false).run
        (scripted (rewound "99999999999999"))).exit = 1 := by
  decide +kernel

end CommandLine

end Colloquy
