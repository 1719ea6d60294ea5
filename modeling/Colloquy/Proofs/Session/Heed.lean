import Colloquy.Session.Scan
import Colloquy.Proofs.Outcome
import Colloquy.Proofs.Script.Segment

/-!
# What a segment does

With an activity open, a segment that is taken without an error does what its reading says, and
nothing else: a command of a kind puts the collected text to the open activity and opens another
one (`take_opens`), every other segment moves the clock by its gap, adds its attachment, its layout
and its warning, and collects its text (`take_heed`). Nothing but an attachment that cannot be had can
foil a segment (`take_eq`).
-/

namespace Colloquy

/-- The activity with a fragment put to its text. -/
def Activity.write (activity : Activity) (fragment : Text) : Activity :=
  if fragment = [] then activity else { activity with text := activity.text ++ fragment ++ ['\n'] }

theorem Activity.view_write {α : Type} {view : Activity → α}
    (hview : ∀ activity text, view { activity with text } = view activity) (activity : Activity)
    (fragment : Text) : view (activity.write fragment) = view activity := by
  rw [write]
  split
  · rfl
  · exact hview activity _

@[simp] theorem Activity.sender_write (activity : Activity) (fragment : Text) :
    (activity.write fragment).sender = activity.sender :=
  view_write (fun _ _ => rfl) activity fragment

@[simp] theorem Activity.recipient_write (activity : Activity) (fragment : Text) :
    (activity.write fragment).recipient = activity.recipient :=
  view_write (fun _ _ => rfl) activity fragment

@[simp] theorem Activity.time_write (activity : Activity) (fragment : Text) :
    (activity.write fragment).time = activity.time :=
  view_write (fun _ _ => rfl) activity fragment

namespace Session

variable {scene : Scene} {session next : Session}

/-- The session with the collected text put to its open activity. -/
def written (session : Session) (activity : Activity) (pending : List Text) : Session :=
  { session with current := some (activity.write (Text.join [' '] pending)) }

/-- The session after a segment that opens nothing, for which some attachments have been found. -/
def heed (session : Session) (segment : Segment) (activity : Activity) (found : List Attachment) :
    Session :=
  let clock := (segment.gap? session.clock.gap).elim session.clock session.clock.tickBy
  { session with
    clock
    current := some { activity with
      time := (segment.gap? session.clock.gap).elim activity.time fun _ => clock.now
      attachments := activity.attachments ++ found
      layout := segment.layout?.or activity.layout }
    warnings := session.warnings ++ (segment.warning? session.line.number).toList }

/-! ### What succeeds -/

theorem flush_eq {scan : Scan} {activity : Activity} (hcurrent : scan.session.current = some activity) :
    scan.flush = .ok { scan with
      session := scan.session.written activity scan.pending
      pending := [] } := by
  rw [Scan.flush, append]
  by_cases hnil : Text.join [' '] scan.pending = []
  · rw [if_pos hnil, written, Activity.write, if_pos hnil, ← hcurrent]
    rfl
  · rw [if_neg hnil, written, Activity.write, if_neg hnil, modify, hcurrent]
    rfl

theorem stamp_eq {activity : Activity} (hcurrent : session.current = some activity) (gap : Int) :
    session.stamp gap = .ok { session with
      clock := session.clock.tickBy gap
      current := some { activity with time := (session.clock.tickBy gap).now } } := by
  rw [stamp, modify, hcurrent]

theorem take_opens {scan next : Scan} {segment : Segment} {activity : Activity} {kind : ActivityKind}
    (hcurrent : scan.session.current = some activity) (hkind : segment.kind? = some kind)
    (h : scan.take scene segment = .ok next) :
    next = ⟨(scan.session.written activity scan.pending).close.openActivity scene kind
      activity.sender activity.recipient, [], scan.opened + 1⟩ := by
  obtain ⟨body, rfl, htag⟩ := Segment.exists_body_of_kind? hkind
  simp only [Scan.take, Scan.obey, htag] at h
  obtain ⟨flushed, hflush, h⟩ := bind_eq_ok.1 h
  rw [flush_eq hcurrent] at hflush
  cases hflush
  obtain ⟨opened, hopened, h⟩ := bind_eq_ok.1 h
  cases h
  simp only [split, written, Activity.sender_write, Activity.recipient_write] at hopened
  cases hopened
  rfl

theorem heed_of_delay {body : Text} {activity : Activity}
    (hcurrent : session.current = some activity) (htag : (Command.ofBody body).tag = .delay)
    (h : session.delay ((Command.ofBody body).argument.getD []) = .ok next) :
    next = session.heed (.command body) activity [] := by
  have htag? : (Segment.command body).tag? = some .delay := congrArg some htag
  have hdelay := Segment.delay?_command htag
  have hwarning := Segment.warning?_delay htag session.line.number
  rw [delay] at h
  cases hgap : Text.toInt64? ((Command.ofBody body).argument.getD []) with
  | some gap =>
    rw [hgap] at h hdelay hwarning
    simp only [stamp_eq hcurrent] at h
    cases h
    simp [heed, Segment.gap?, Segment.layout?, htag?, hdelay, hwarning]
  | none =>
    rw [hgap] at h hdelay hwarning
    have hwarned : (session.warn (.invalidDelay session.line.number
        ((Command.ofBody body).argument.getD []))).current = some activity := hcurrent
    simp only [stamp_eq hwarned] at h
    cases h
    simp [heed, Segment.gap?, Segment.layout?, htag?, hdelay, hwarning, warn]

/-- A field is stamped first; without an argument there is a warning, and otherwise it is set. -/
theorem of_setField_eq_ok {body : Text} {activity : Activity}
    {set : Session → Text → Except Halt Session} (hcurrent : session.current = some activity)
    (h : session.setField body (Command.ofBody body).argument set = .ok next) :
    ∃ stamped, session.stamp session.clock.gap = .ok stamped ∧
      (((Segment.command body).argument? = none ∧
          next = stamped.warn (.missingArgument session.line.number (Command.bracketed body))) ∨
        ∃ argument, (Segment.command body).argument? = some argument ∧
          set stamped argument = .ok next) := by
  obtain ⟨stamped, hstamped, h⟩ := bind_eq_ok.1 h
  refine ⟨stamped, hstamped, ?_⟩
  have hline : stamped.line = session.line := by
    rw [stamp_eq hcurrent] at hstamped
    cases hstamped
    rfl
  have hsame : (Command.ofBody body).argument.filter (· ≠ []) = (Segment.command body).argument? := rfl
  rw [hsame] at h
  cases hargument : (Segment.command body).argument? with
  | none =>
    rw [hargument] at h
    cases h
    exact .inl ⟨rfl, by rw [hline]⟩
  | some argument =>
    rw [hargument] at h
    exact .inr ⟨argument, rfl, h⟩

theorem heed_of_attachment {body : Text} {activity : Activity}
    (hcurrent : session.current = some activity) (htag : (Command.ofBody body).tag = .attachment)
    (h : session.setField body (Command.ofBody body).argument (fun s => s.attach scene) = .ok next) :
    ∃ found, (Segment.command body).request?.toList.map (Attachment.resolve scene.around) =
        found.map .ok ∧
      next = session.heed (.command body) activity found := by
  have htag? : (Segment.command body).tag? = some .attachment := congrArg some htag
  obtain ⟨stamped, hstamped, hset⟩ := of_setField_eq_ok hcurrent h
  rw [stamp_eq hcurrent] at hstamped
  cases hstamped
  rcases hset with ⟨hargument, rfl⟩ | ⟨argument, hargument, hset⟩
  · refine ⟨[], ?_, ?_⟩
    · simp [Segment.request?, htag?, hargument]
    · simp [heed, Segment.gap?, Segment.layout?, Segment.warning?, htag?, hargument, warn,
        Segment.raw]
  · simp only [attach] at hset
    cases hresolve : Attachment.resolve scene.around argument with
    | error cause =>
      rw [hresolve] at hset
      cases hset
    | ok attachment =>
      rw [hresolve] at hset
      cases hset
      refine ⟨[attachment], ?_, ?_⟩
      · simp [Segment.request?, htag?, hargument, hresolve]
      · simp [heed, Segment.gap?, Segment.layout?, Segment.warning?, htag?, hargument]

theorem heed_of_layout {body : Text} {activity : Activity}
    (hcurrent : session.current = some activity) (htag : (Command.ofBody body).tag = .layout)
    (h : session.setField body (Command.ofBody body).argument arrange = .ok next) :
    next = session.heed (.command body) activity [] := by
  have htag? : (Segment.command body).tag? = some .layout := congrArg some htag
  obtain ⟨stamped, hstamped, hset⟩ := of_setField_eq_ok hcurrent h
  rw [stamp_eq hcurrent] at hstamped
  cases hstamped
  rcases hset with ⟨hargument, rfl⟩ | ⟨argument, hargument, hset⟩
  · simp [heed, Segment.gap?, Segment.layout?, Segment.warning?, htag?, hargument, warn, Segment.raw]
  · simp only [arrange] at hset
    cases hlayout : Layout.ofName? argument with
    | none =>
      rw [hlayout] at hset
      cases hset
      simp [heed, Segment.gap?, Segment.layout?, Segment.warning?, htag?, hargument, hlayout, warn]
    | some layout =>
      rw [hlayout] at hset
      cases hset
      simp [heed, Segment.gap?, Segment.layout?, Segment.warning?, htag?, hargument, hlayout]

/-- A segment that neither says nor does anything leaves the session as it is. -/
theorem heed_eq_warn {segment : Segment} {activity : Activity}
    (hcurrent : session.current = some activity) (hgap : ∀ usual, segment.gap? usual = none)
    (hlayout : segment.layout? = none) :
    session.heed segment activity [] =
      { session with
        warnings := session.warnings ++ (segment.warning? session.line.number).toList } := by
  simp [heed, hgap, hlayout, ← hcurrent]

/-- Whatever segment is taken without an error, if it opens nothing it is heeded and its text is
collected. -/
theorem take_heed {scan next : Scan} {segment : Segment} {activity : Activity}
    (hcurrent : scan.session.current = some activity) (hkind : segment.kind? = none)
    (h : scan.take scene segment = .ok next) :
    ∃ found, segment.request?.toList.map (Attachment.resolve scene.around) = found.map .ok ∧
      next = { scan with
        session := scan.session.heed segment activity found
        pending := scan.pending ++ segment.fragment?.toList } := by
  cases segment with
  | dialogue text =>
    refine ⟨[], rfl, ?_⟩
    rw [heed_eq_warn hcurrent (fun _ => rfl) rfl, Segment.fragment?]
    simp only [Scan.take] at h
    split at h
    · rename_i hblank
      cases h
      simp [Segment.warning?, Segment.tag?, hblank]
    · rename_i hblank
      cases h
      simp [Segment.warning?, Segment.tag?, hblank]
  | command body =>
    simp only [Scan.take, Scan.obey] at h
    have hfragment : (Segment.command body).fragment? = none := rfl
    cases htag : (Command.ofBody body).tag with
    | unknown =>
      have htag? : (Segment.command body).tag? = some .unknown := congrArg some htag
      simp only [htag] at h
      cases h
      refine ⟨[], ?_, ?_⟩
      · simp [Segment.request?, htag?]
      · have hgap : ∀ usual, (Segment.command body).gap? usual = none := by
          intro usual
          rw [Segment.gap?, htag?]
        have hlayout : (Segment.command body).layout? = none := by
          rw [Segment.layout?, htag?]
          rfl
        rw [heed_eq_warn hcurrent hgap hlayout]
        simp [Segment.warning?, htag?, hfragment, warn, Segment.raw]
    | «opens» kind =>
      have hsome : (Segment.command body).kind? = some kind := by
        simp [Segment.kind?, Segment.tag?, htag]
      rw [hkind] at hsome
      cases hsome
    | delay =>
      simp only [htag] at h
      obtain ⟨delayed, hdelayed, h⟩ := bind_eq_ok.1 h
      cases h
      refine ⟨[], ?_, ?_⟩
      · simp [Segment.request?, Segment.tag?, htag]
      · simp [heed_of_delay hcurrent htag hdelayed, hfragment]
    | attachment =>
      simp only [htag] at h
      obtain ⟨set, hset, h⟩ := bind_eq_ok.1 h
      cases h
      obtain ⟨found, hfound, rfl⟩ := heed_of_attachment hcurrent htag hset
      refine ⟨found, hfound, ?_⟩
      simp [hfragment]
    | layout =>
      simp only [htag] at h
      obtain ⟨set, hset, h⟩ := bind_eq_ok.1 h
      cases h
      refine ⟨[], ?_, ?_⟩
      · simp [Segment.request?, Segment.tag?, htag]
      · simp [heed_of_layout hcurrent htag hset, hfragment]

/-! ### What fails -/

/-- The session as an attachment that cannot be had leaves it: the clock has moved, and what is open
carries its time. -/
def foiled (session : Session) (activity : Activity) : Session :=
  { session with
    clock := session.clock.tick
    current := some { activity with time := session.clock.tick.now } }

theorem take_foiled {scan : Scan} {segment : Segment} {activity : Activity} {argument : Text}
    {cause : AttachmentError} (hcurrent : scan.session.current = some activity)
    (hrequest : segment.request? = some argument)
    (hresolve : Attachment.resolve scene.around argument = .error cause) :
    scan.take scene segment =
      .error ⟨.attachment scan.session.line.number cause, scan.session.foiled activity⟩ := by
  obtain ⟨body, rfl, htag, hargument⟩ := Segment.exists_body_of_request? hrequest
  simp only [Scan.take, Scan.obey, htag, setField, stamp_eq hcurrent, hargument]
  simp only [bind, Except.bind, attach, hresolve]
  rfl

theorem exists_take {scan : Scan} {segment : Segment} {activity : Activity}
    (hcurrent : scan.session.current = some activity)
    (hfound : ∀ argument, segment.request? = some argument →
      ∃ attachment, Attachment.resolve scene.around argument = .ok attachment) :
    ∃ next, scan.take scene segment = .ok next := by
  cases segment with
  | dialogue text =>
    simp only [Scan.take]
    split <;> exact ⟨_, rfl⟩
  | command body =>
    have hargument? : (Segment.command body).argument? =
        (Command.ofBody body).argument.filter (· ≠ []) := rfl
    simp only [Scan.take, Scan.obey]
    cases htag : (Command.ofBody body).tag with
    | unknown => exact ⟨_, rfl⟩
    | «opens» kind =>
      simp only [flush_eq hcurrent, bind, Except.bind, split, written]
      exact ⟨_, rfl⟩
    | delay =>
      simp only [delay]
      cases Text.toInt64? ((Command.ofBody body).argument.getD []) with
      | some gap =>
        simp only [stamp_eq hcurrent]
        exact ⟨_, rfl⟩
      | none =>
        simp only [@stamp_eq (scan.session.warn _) activity hcurrent]
        exact ⟨_, rfl⟩
    | attachment =>
      have hrequest? : (Segment.command body).request? =
          (Command.ofBody body).argument.filter (· ≠ []) := by
        rw [Segment.request?, Segment.tag?, htag]
        rfl
      simp only [setField, stamp_eq hcurrent]
      cases hargument : (Command.ofBody body).argument.filter (· ≠ []) with
      | none => exact ⟨_, rfl⟩
      | some argument =>
        obtain ⟨attachment, hresolve⟩ := hfound argument (hrequest?.trans hargument)
        simp only [attach, hresolve, modify, bind, Except.bind]
        exact ⟨_, rfl⟩
    | layout =>
      simp only [setField, stamp_eq hcurrent]
      cases (Command.ofBody body).argument.filter (· ≠ []) with
      | none => exact ⟨_, rfl⟩
      | some argument =>
        simp only [arrange, modify, bind, Except.bind]
        cases Layout.ofName? argument <;> exact ⟨_, rfl⟩

/-- What comes of a segment with an activity open: only an attachment can foil it. -/
theorem take_eq {scan : Scan} {activity : Activity} (hcurrent : scan.session.current = some activity)
    (segment : Segment) :
    scan.take scene segment =
      match segment.kind?, segment.request?.map (Attachment.resolve scene.around) with
      | some kind, _ => .ok ⟨(scan.session.written activity scan.pending).close.openActivity scene kind
          activity.sender activity.recipient, [], scan.opened + 1⟩
      | none, some (.error cause) =>
        .error ⟨.attachment scan.session.line.number cause, scan.session.foiled activity⟩
      | none, some (.ok attachment) => .ok { scan with
          session := scan.session.heed segment activity [attachment]
          pending := scan.pending ++ segment.fragment?.toList }
      | none, none => .ok { scan with
          session := scan.session.heed segment activity []
          pending := scan.pending ++ segment.fragment?.toList } := by
  cases hkind : segment.kind? with
  | some kind =>
    obtain ⟨body, rfl, htag⟩ := Segment.exists_body_of_kind? hkind
    have hnone : (Segment.command body).request? = none := by
      simp [Segment.request?, Segment.tag?, htag]
    obtain ⟨next, hnext⟩ := @exists_take scene scan (.command body) activity hcurrent (by simp [hnone])
    rw [hnext, take_opens hcurrent hkind hnext]
  | none =>
    cases hrequest : segment.request? with
    | none =>
      obtain ⟨next, hnext⟩ := @exists_take scene scan segment activity hcurrent (by simp [hrequest])
      obtain ⟨found, hfound, rfl⟩ := take_heed hcurrent hkind hnext
      have hnil : found = [] := by simpa [hrequest] using hfound
      rw [hnext, hnil]
      rfl
    | some argument =>
      cases hresolve : Attachment.resolve scene.around argument with
      | error cause =>
        rw [take_foiled hcurrent hrequest hresolve]
        simp [hresolve]
      | ok attachment =>
        obtain ⟨next, hnext⟩ := @exists_take scene scan segment activity hcurrent
          (by simp [hrequest, hresolve])
        obtain ⟨found, hfound, rfl⟩ := take_heed hcurrent hkind hnext
        rw [hrequest, Option.toList_some, List.map_singleton, hresolve] at hfound
        obtain ⟨other, rfl, hother⟩ := List.map_eq_singleton_iff.1 hfound.symm
        cases hother
        rw [hnext, Option.map_some, hresolve]

end Session

end Colloquy
