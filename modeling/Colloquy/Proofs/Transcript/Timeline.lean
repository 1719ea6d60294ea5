import Colloquy.Proofs.Session.Draft
import Colloquy.Proofs.Time.Clock

/-!
# Times of a transcript

The clock moves once for every turn, every command of a kind, every delay and every field, and
what is open is stamped each time, so the open activity always shows the time of the clock. The
time of an activity is therefore the start of the clock moved through all gaps up to the end of
its piece (`times_ofScript`), and as long as the clock stays away from its ends the times of
neighbours are apart by the gaps of the later piece.
-/

namespace Colloquy

/-! ### Timelines -/

/-- For every piece the moment moved through all gaps up to its end. -/
def Piece.timeline (clock : Time.Clock) (pieces : List Piece) : List Time.Moment :=
  (List.range pieces.length).map fun k =>
    clock.now.through ((pieces.take (k + 1)).flatMap (Piece.gaps clock.gap))

theorem Piece.timeline_snoc (clock : Time.Clock) (pieces : List Piece) (piece : Piece) :
    timeline clock (pieces ++ [piece]) =
      timeline clock pieces ++
        [clock.now.through ((pieces ++ [piece]).flatMap (Piece.gaps clock.gap))] := by
  rw [timeline, List.length_append, List.length_singleton, List.range_succ, List.map_append,
    List.map_singleton, List.take_of_length_le (by simp)]
  congr 1
  refine List.map_congr_left ?_
  intro k hk
  have hlt : k < pieces.length := List.mem_range.1 hk
  rw [List.take_append_of_le_length (by omega)]

namespace Session

variable {scene : Scene} {clock : Time.Clock} {session next : Session}

/-- The clock has moved through the gaps of the pieces, the open activity shows its time, and the
activities are on the timeline of their pieces. -/
structure Timed (clock : Time.Clock) (pieces : List Piece) (session : Session) : Prop where
  gap : session.clock.gap = clock.gap
  now : session.clock.now = clock.now.through (pieces.flatMap (Piece.gaps clock.gap))
  current : ∀ activity, session.current = some activity → activity.time = session.clock.now
  times : session.activities.map Activity.time = Piece.timeline clock pieces

theorem Timed.frame {pieces : List Piece} (h : Timed clock pieces session)
    (hclock : next.clock = session.clock) (hcurrent : next.current = session.current)
    (hdone : next.done = session.done) : Timed clock pieces next := by
  have hactivities : next.activities = session.activities := by
    rw [activities, hcurrent, hdone, activities]
  constructor
  · rw [hclock]
    exact h.gap
  · rw [hclock]
    exact h.now
  · rw [hclock, hcurrent]
    exact h.current
  · rw [hactivities]
    exact h.times

/-- A token that opens an activity moves the clock once. -/
theorem Timed.opened {pieces : List Piece} {token : Token} (h : Timed clock pieces session)
    (htoken : token.gap? clock.gap = some clock.gap) (hclock : next.clock = session.clock.tick)
    (hcurrent : ∀ activity, next.current = some activity → activity.time = next.clock.now)
    (htimes : next.activities.map Activity.time =
      session.activities.map Activity.time ++ [session.clock.tick.now]) :
    Timed clock (pieces ++ [⟨token, []⟩]) next := by
  have hgaps : Piece.gaps clock.gap ⟨token, []⟩ = [clock.gap] := by
    simp [Piece.gaps, Piece.tokens, htoken]
  have hnow : session.clock.tick.now =
      clock.now.through
        ((pieces ++ [(⟨token, []⟩ : Piece)]).flatMap (Piece.gaps clock.gap)) := by
    rw [List.flatMap_append, List.flatMap_singleton, hgaps, Time.Moment.through_append, ← h.now,
      Time.Clock.now_tick, h.gap]
    rfl
  constructor
  · rw [hclock, Time.Clock.gap_tick]
    exact h.gap
  · rw [hclock, hnow]
  · exact hcurrent
  · rw [htimes, h.times, Piece.timeline_snoc, hnow]

/-- Any other token moves the clock by its gap, if it has one, and the open activity with it. -/
theorem Timed.add {pieces : List Piece} {piece : Piece} {token : Token} {activity changed : Activity}
    (h : Timed clock (pieces ++ [piece]) session) (hcurrent : session.current = some activity)
    (hdone : next.done = session.done) (hchanged : next.current = some changed)
    (htime : changed.time = next.clock.now) (hgap : next.clock.gap = session.clock.gap)
    (hnow : next.clock.now = session.clock.now.through (token.gap? clock.gap).toList) :
    Timed clock (pieces ++ [piece.add token]) next := by
  have hthrough : next.clock.now =
      clock.now.through ((pieces ++ [piece.add token]).flatMap (Piece.gaps clock.gap)) := by
    rw [hnow, h.now, List.flatMap_append, List.flatMap_singleton, List.flatMap_append,
      List.flatMap_singleton, Piece.gaps_add, ← List.append_assoc]
    exact (Time.Moment.through_append _ _ _).symm
  constructor
  · rw [hgap]
    exact h.gap
  · exact hthrough
  · intro other hother
    rw [hchanged] at hother
    rw [← Option.some.inj hother]
    exact htime
  · have htimes := h.times
    rw [Piece.timeline_snoc, activities, hcurrent, List.map_append] at htimes
    obtain ⟨hclosed, -⟩ := List.append_singleton_inj.1 htimes
    rw [Piece.timeline_snoc, activities, hdone, hchanged, List.map_append, hclosed, ← hthrough]
    simp [htime]

theorem timed_of_drafted {pieces : List Piece} {pending : List Text}
    (h : Drafted scene clock pieces session pending) : Timed clock pieces session := by
  induction h with
  | start =>
    refine ⟨rfl, rfl, ?_, rfl⟩
    intro activity hcurrent
    cases hcurrent
  | read line _ ih => exact ih.frame rfl rfl rfl
  | direct key value _ ih =>
    exact ih.frame (clock_directed _ key value) (current_directed _ key value)
      (done_directed _ key value)
  | turn speaker _ _ _ ih =>
    refine ih.opened rfl ?_ ?_ (map_activities_turned (fun _ _ => rfl) _ _ _)
    · simp [turned, openActivity]
    · intro activity hcurrent
      rw [← Option.some.inj hcurrent]
      rfl
  | split segment _ hcurrent hkind ih =>
    refine ih.opened (Segment.gap?_of_kind? hkind _) ?_ ?_ ?_
    · simp [openActivity, written]
    · intro activity hcurrent
      rw [← Option.some.inj hcurrent]
      rfl
    · rw [map_activities_split (fun _ _ => rfl), map_activities_written (fun _ _ => rfl) hcurrent]
      rfl
  | @heed pieces piece session pending activity found segment _ hcurrent hkind _ ih =>
    refine ih.add hcurrent rfl rfl ?_ ?_ ?_
    · have htime := ih.current activity hcurrent
      rw [Session.heed]
      cases segment.gap? session.clock.gap with
      | none => exact htime
      | some gap => rfl
    · rw [Session.heed]
      cases segment.gap? session.clock.gap <;> rfl
    · rw [Session.heed, ← ih.gap, Token.gap?]
      cases segment.gap? session.clock.gap <;> rfl
  | @lineEnd pieces piece session pending activity _ hcurrent ih =>
    refine ih.add hcurrent rfl rfl ?_ rfl rfl
    rw [Activity.time_write]
    exact ih.current activity hcurrent

end Session

/-- The gaps of the pieces are the gaps of all tokens if none comes before the first piece. -/
theorem Token.gaps_cut {tokens : List Token} (usual : Int) (hlead : (cut tokens).1 = []) :
    (cut tokens).2.flatMap (Piece.gaps usual) = tokens.filterMap (gap? usual) := by
  calc (cut tokens).2.flatMap (Piece.gaps usual)
      = ((cut tokens).2.flatMap Piece.tokens).filterMap (gap? usual) := List.filterMap_flatMap.symm
    _ = tokens.filterMap (gap? usual) := by rw [flatMap_tokens_cut hlead]

theorem Piece.getElem?_timeline {clock : Time.Clock} {pieces : List Piece} {k : Nat}
    {moment : Time.Moment} (h : (timeline clock pieces)[k]? = some moment) :
    moment = clock.now.through ((pieces.take (k + 1)).flatMap (Piece.gaps clock.gap)) := by
  rw [timeline, List.getElem?_map, Option.map_eq_some_iff] at h
  obtain ⟨j, hj, hmoment⟩ := h
  have hjk : j = k := by
    rw [List.getElem?_eq_some_iff] at hj
    obtain ⟨hlt, hget⟩ := hj
    rw [← hget, List.getElem_range]
  rw [← hmoment, hjk]

/-- Away from the ends of the clock a piece moves the time of its activity on from that of the one
before by the sum of its gaps. -/
theorem Piece.wall_timeline {clock : Time.Clock} {pieces : List Piece} {k : Nat} {piece : Piece}
    {before after : Time.Moment}
    (hclock : clock.now.Unsaturated (pieces.flatMap (Piece.gaps clock.gap)))
    (hpiece : pieces[k + 1]? = some piece) (hbefore : (timeline clock pieces)[k]? = some before)
    (hafter : (timeline clock pieces)[k + 1]? = some after) :
    after.wall = before.wall + (piece.gaps clock.gap).sum * Time.Moment.millisecond ∧
      after.offset = before.offset := by
  have htake : pieces.take (k + 1 + 1) = pieces.take (k + 1) ++ [piece] := by
    rw [List.take_add_one, hpiece]
    rfl
  have hafter' := getElem?_timeline hafter
  rw [htake, List.flatMap_append, List.flatMap_singleton] at hafter'
  have hall : clock.now.Unsaturated
      ((pieces.take (k + 1)).flatMap (Piece.gaps clock.gap) ++ piece.gaps clock.gap) := by
    rw [← List.take_append_drop (k + 1 + 1) pieces, htake, List.flatMap_append, List.flatMap_append,
      List.flatMap_singleton] at hclock
    exact hclock.of_append
  rw [getElem?_timeline hbefore, hafter']
  constructor
  · rw [Time.Moment.wall_through hall, Time.Moment.wall_through hall.of_append, List.sum_append,
      Int.add_mul]
    omega
  · rw [Time.Moment.offset_through, Time.Moment.offset_through]

/-- The times of the activities are the timeline of the pieces, whose gaps are those of the script
in their order; and where no gap is cut off at an end of the clock, neighbours are apart by the
gaps of the later piece. -/
theorem times_ofScript {world : World} {options : Options} {source : Text} {start : Time.Moment}
    {transcript : Transcript} (hstart : options.start = some start)
    (h : Transcript.ofScript world options source = .ok transcript) :
    (options.pieces source).flatMap (Piece.gaps options.gap) =
        (options.tokens source).filterMap (Token.gap? options.gap) ∧
      transcript.activities.map Activity.time =
        (List.range (options.pieces source).length).map (fun k =>
          start.wholeSecond.through
            (((options.pieces source).take (k + 1)).flatMap (Piece.gaps options.gap))) ∧
      (start.wholeSecond.Unsaturated ((options.tokens source).filterMap (Token.gap? options.gap)) →
        ∀ k piece before after, (options.pieces source)[k + 1]? = some piece →
          transcript.activities[k]? = some before → transcript.activities[k + 1]? = some after →
          after.time.wall =
              before.time.wall + (piece.gaps options.gap).sum * Time.Moment.millisecond ∧
            after.time.offset = before.time.offset) := by
  obtain ⟨hlead, last, hdrafted, rfl⟩ := Session.drafted_ofScript h
  rw [hstart] at hdrafted
  have hgaps := Token.gaps_cut options.gap hlead
  have htimes : last.finish.activities.map Activity.time =
      Piece.timeline (.start start options.gap) (options.pieces source) := by
    rw [Session.map_finish (fun _ _ => rfl)]
    exact (Session.timed_of_drafted hdrafted).times
  refine ⟨hgaps, htimes, ?_⟩
  intro hclock k piece before after hpiece hbefore hafter
  rw [← hgaps] at hclock
  have hk : ∀ (j : Nat) (activity : Activity), last.finish.activities[j]? = some activity →
      (Piece.timeline (.start start options.gap) (options.pieces source))[j]? =
        some activity.time := by
    intro j activity hj
    rw [← htimes, List.getElem?_map, hj]
    rfl
  exact Piece.wall_timeline hclock hpiece (hk k before hbefore) (hk (k + 1) after hafter)

theorem times_ofScript_greeting : ∃ transcript,
    Transcript.ofScript .bare .named greeting = .ok transcript ∧
      transcript.activities.map Activity.time =
        [2000, 8005, 12005, 14002].map Time.Moment.epoch.advance ∧
      Time.Moment.epoch.wholeSecond.Unsaturated
        ((Options.tokens .named greeting).filterMap (Token.gap? 2000)) := by
  have htimes : (List.range (Options.pieces .named greeting).length).map (fun k =>
      Time.Moment.epoch.wholeSecond.through
        (((Options.pieces .named greeting).take (k + 1)).flatMap (Piece.gaps 2000))) =
      [2000, 8005, 12005, 14002].map Time.Moment.epoch.advance := by
    decide +kernel
  obtain ⟨transcript, h⟩ := exists_ofScript_greeting
  exact ⟨transcript, h, (times_ofScript rfl h).2.1.trans htimes, by decide +kernel⟩

end Colloquy
