import Colloquy.Proofs.Session.Freeze

/-!
# The parties of a transcript

The list of problems looks at the two accounts of an activity by themselves: they have to be of
opposite roles and of different identifiers. So it says of each activity that a bot and a user take
part, but not that it is the same bot and the same user throughout. Whether it is can be told from
neighbours (`twoParty_iff`), which are not compared in this respect: transcripts of one conversation
between different pairs of accounts are accepted as one transcript (`problems_append_eq_nil`).
Sessions, whatever happens in them, write for one pair only.
-/

namespace Colloquy

namespace Activity

/-! ### The accounts of an activity -/

/-- The activity goes from one of two accounts to the other. -/
def Between (bot user : Account) (activity : Activity) : Prop :=
  (activity.sender = bot ∧ activity.recipient = user) ∨
    (activity.sender = user ∧ activity.recipient = bot)

/-- All activities go from one to the other of two accounts, a bot's and a user's. -/
def TwoParty (activities : List Activity) : Prop :=
  ∃ bot user : Account, bot.role = .bot ∧ user.role = .user ∧
    ∀ activity ∈ activities, activity.Between bot user

/-- The account that takes part in the activity as a bot or as a user. -/
def account (activity : Activity) (role : Role) : Account :=
  if activity.sender.role = role then activity.sender else activity.recipient

/-- The same accounts take part in both activities, each in its role. -/
def SameParties (activity other : Activity) : Prop :=
  activity.account .bot = other.account .bot ∧ activity.account .user = other.account .user

instance (activity other : Activity) : Decidable (SameParties activity other) :=
  inferInstanceAs (Decidable (_ ∧ _))

theorem SameParties.trans {activity other last : Activity} (h : SameParties activity other)
    (hlast : SameParties other last) : SameParties activity last :=
  ⟨h.1.trans hlast.1, h.2.trans hlast.2⟩

/-- An activity between opposite roles is sent by the bot or by the user. -/
theorem accounts_of_roles {activity : Activity}
    (h : activity.sender.role ≠ activity.recipient.role) :
    (activity.sender = activity.account .bot ∧ activity.recipient = activity.account .user ∧
        activity.sender.role = .bot ∧ activity.recipient.role = .user) ∨
      (activity.sender = activity.account .user ∧ activity.recipient = activity.account .bot ∧
        activity.sender.role = .user ∧ activity.recipient.role = .bot) := by
  rw [account, account]
  cases hsender : activity.sender.role with
  | bot =>
    cases hrecipient : activity.recipient.role with
    | bot => exact absurd (hsender.trans hrecipient.symm) h
    | user => simp
  | user =>
    cases hrecipient : activity.recipient.role with
    | user => exact absurd (hsender.trans hrecipient.symm) h
    | bot => simp

theorem role_account {activity : Activity} (h : activity.sender.role ≠ activity.recipient.role) :
    (activity.account .bot).role = .bot ∧ (activity.account .user).role = .user := by
  rcases accounts_of_roles h with ⟨hsender, hrecipient, hbot, huser⟩ | ⟨hsender, hrecipient, huser, hbot⟩
  · exact ⟨hsender ▸ hbot, hrecipient ▸ huser⟩
  · exact ⟨hrecipient ▸ hbot, hsender ▸ huser⟩

/-- Of a bot and a user there is only one choice for an activity. -/
theorem between_iff {activity : Activity} {bot user : Account}
    (h : activity.sender.role ≠ activity.recipient.role) (hbot : bot.role = .bot)
    (huser : user.role = .user) :
    activity.Between bot user ↔ activity.account .bot = bot ∧ activity.account .user = user := by
  constructor
  · rintro (⟨hsender, hrecipient⟩ | ⟨hsender, hrecipient⟩)
    · simp [account, hsender, hrecipient, hbot]
    · simp [account, hsender, hrecipient, huser]
  · rintro ⟨rfl, rfl⟩
    rcases accounts_of_roles h with ⟨hsender, hrecipient, -⟩ | ⟨hsender, hrecipient, -⟩
    · exact .inl ⟨hsender, hrecipient⟩
    · exact .inr ⟨hsender, hrecipient⟩

/-! ### The accounts of a transcript -/

/-- Activities between opposite roles are a conversation of two exactly if neighbours have the same
accounts. -/
theorem twoParty_iff {activities : List Activity}
    (h : ∀ activity ∈ activities, activity.sender.role ≠ activity.recipient.role) :
    TwoParty activities ↔ activities.IsChain SameParties := by
  have htrans : IsTrans Activity SameParties := ⟨fun _ _ _ => SameParties.trans⟩
  constructor
  · rintro ⟨bot, user, hbot, huser, hbetween⟩
    refine (List.pairwise_of_forall_mem_list ?_).isChain
    intro activity hactivity other hother
    obtain ⟨hfirst, hsecond⟩ := (between_iff (h activity hactivity) hbot huser).1
      (hbetween activity hactivity)
    obtain ⟨hfirst', hsecond'⟩ := (between_iff (h other hother) hbot huser).1 (hbetween other hother)
    exact ⟨hfirst.trans hfirst'.symm, hsecond.trans hsecond'.symm⟩
  · intro hchain
    cases activities with
    | nil => exact ⟨⟨[], [], .bot⟩, ⟨[], [], .user⟩, rfl, rfl, by simp⟩
    | cons first rest =>
      obtain ⟨hbot, huser⟩ := role_account (h first (List.mem_cons_self ..))
      refine ⟨first.account .bot, first.account .user, hbot, huser, ?_⟩
      intro activity hactivity
      refine (between_iff (h activity hactivity) hbot huser).2 ?_
      rcases List.mem_cons.1 hactivity with rfl | hrest
      · exact ⟨rfl, rfl⟩
      · obtain ⟨hsame, hsame'⟩ := (List.pairwise_cons.1 (List.isChain_iff_pairwise.1 hchain)).1
          activity hrest
        exact ⟨hsame.symm, hsame'.symm⟩

/-- Transcripts of one conversation are accepted as one transcript if identifiers do not come again
and time goes on, whoever takes part. -/
theorem problems_append_eq_nil {activities more : List Activity} (h : problems activities = [])
    (hmore : problems more = [])
    (hbehind : ∀ a ∈ activities, ∀ b ∈ more,
      a.id ≠ b.id ∧ a.conversation = b.conversation ∧ a.time.instant ≤ b.time.instant) :
    problems (activities ++ more) = [] := by
  have hfront := (problems_eq_nil_iff _).1 h
  have hback := (problems_eq_nil_iff _).1 hmore
  rw [problems_eq_nil_iff]
  constructor
  · rw [List.map_append, List.nodup_append]
    refine ⟨hfront.ids, hback.ids, ?_⟩
    intro id hid other hother
    obtain ⟨a, ha, rfl⟩ := List.mem_map.1 hid
    obtain ⟨b, hb, rfl⟩ := List.mem_map.1 hother
    exact (hbehind a ha b hb).1
  · intro a ha b hb
    rcases List.mem_append.1 ha with ha | ha <;> rcases List.mem_append.1 hb with hb | hb
    · exact hfront.conversations a ha b hb
    · exact (hbehind a ha b hb).2.1
    · exact (hbehind b hb a ha).2.1.symm
    · exact hback.conversations a ha b hb
  · exact List.pairwise_append.2
      ⟨hfront.ordered, hback.ordered, fun a ha b hb => (hbehind a ha b hb).2.2⟩
  · exact List.forall_mem_append.2 ⟨hfront.roles, hback.roles⟩
  · exact List.forall_mem_append.2 ⟨hfront.accounts, hback.accounts⟩
  · exact List.forall_mem_append.2 ⟨hfront.attachments, hback.attachments⟩

end Activity

namespace Session

variable {session : Session}

/-- The transcript of a governed session is a conversation of two. -/
theorem Governed.twoParty_finish (h : session.Governed) :
    Activity.TwoParty session.finish.activities := by
  cases hpeople : session.config.participants with
  | none =>
    refine ⟨⟨[], [], .bot⟩, ⟨[], [], .user⟩, rfl, rfl, ?_⟩
    intro activity hactivity
    have hheader : activity.header ∈ session.headers :=
      view_mem_of_mem_finish (fun _ _ => rfl) hactivity
    obtain ⟨people, role, hsome, -⟩ := h.sides _ hheader
    cases hpeople.symm.trans hsome
  | some people =>
    obtain ⟨bot, user, rfl, -⟩ := h.coherent.made people hpeople
    refine ⟨.ofName .bot bot, .ofName .user user, rfl, rfl, ?_⟩
    intro activity hactivity
    obtain ⟨-, role, hsender, hrecipient⟩ := h.activities_finish hpeople activity hactivity
    cases role with
    | bot => exact .inl ⟨hsender, hrecipient⟩
    | user => exact .inr ⟨hsender, hrecipient⟩

end Session

namespace Activity

/-- In a transcript without problems each activity goes from one to the other of a bot and a user
who have different identifiers; it is a conversation of two exactly if these are the same for
neighbours. That is not asked for: what different pairs say in one conversation is accepted together.
Every session leaves a conversation of two, whatever calls it gets and however many of them fail. -/
theorem twoParty_of_problems {activities : List Activity} (h : problems activities = []) :
    (∀ activity ∈ activities, ∃ bot user : Account, bot.role = .bot ∧ user.role = .user ∧
        bot.id ≠ user.id ∧ activity.Between bot user) ∧
      (TwoParty activities ↔ activities.IsChain SameParties) ∧
      (∀ more : List Activity, problems more = [] →
        (∀ a ∈ activities, ∀ b ∈ more,
          a.id ≠ b.id ∧ a.conversation = b.conversation ∧ a.time.instant ≤ b.time.instant) →
        problems (activities ++ more) = []) ∧
      ∀ (world : World) (options : Options) (first : Session) (calls : List Session.Call),
        Session.start world.now options = .ok first →
        TwoParty (first.run (world.scene options) calls).finish.activities := by
  have hvalid := (problems_eq_nil_iff _).1 h
  refine ⟨?_, twoParty_iff hvalid.roles, fun _ hmore hbehind => problems_append_eq_nil h hmore hbehind,
    ?_⟩
  · intro activity hactivity
    have hroles := hvalid.roles activity hactivity
    have hne := hvalid.accounts activity hactivity
    obtain ⟨hbot, huser⟩ := role_account hroles
    refine ⟨activity.account .bot, activity.account .user, hbot, huser, ?_,
      (between_iff hroles hbot huser).2 ⟨rfl, rfl⟩⟩
    rcases accounts_of_roles hroles with ⟨hsender, hrecipient, -⟩ | ⟨hsender, hrecipient, -⟩
    · rw [← hsender, ← hrecipient]
      exact hne
    · rw [← hsender, ← hrecipient]
      exact hne.symm
  · intro world options first calls hstart
    exact ((Session.governed_start _).moves (Session.moves_history hstart calls)).twoParty_finish

/-- What a bot says to a user, both named by a letter, in the first conversation. -/
def word (id bot user : Text) : Activity where
  id := id
  kind := .message
  sender := ⟨bot, bot, .bot⟩
  recipient := ⟨user, user, .user⟩
  conversation := Configuration.defaultChannel
  time := .epoch

/-- One pair of accounts throughout, a second pair that is accepted behind it, and a session in which
calls fail. -/
theorem twoParty_of_problems_pairs :
    TwoParty [word "1" "b" "u", word "2" "b" "u"] ∧
      problems ([word "1" "b" "u", word "2" "b" "u"] ++ [word "3" "c" "v"]) = [] ∧
      TwoParty (Session.outset.run (World.bare.scene .named) Session.mishaps).finish.activities := by
  have hfront : problems [word "1" "b" "u", word "2" "b" "u"] = [] := by decide
  obtain ⟨-, hpair, happend, hsessions⟩ := twoParty_of_problems hfront
  refine ⟨hpair.2 (by decide), happend _ (by decide) (by decide), ?_⟩
  exact hsessions .bare .named Session.outset Session.mishaps rfl

/-- Two bots talk to two users, and nothing is wrong with the transcript. -/
theorem not_twoParty_of_problems :
    problems [word "1" "b" "u", word "2" "c" "v"] = [] ∧
      ¬TwoParty [word "1" "b" "u", word "2" "c" "v"] := by
  have hclean : problems [word "1" "b" "u", word "2" "c" "v"] = [] := by decide
  refine ⟨hclean, ?_⟩
  rw [twoParty_iff ((problems_eq_nil_iff _).1 hclean).roles]
  decide

end Activity

end Colloquy
