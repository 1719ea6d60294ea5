import Mathlib.Data.Bool.AllAny
import Colloquy.Proofs.Configuration.Registry
import Colloquy.Proofs.Session.Run

/-!
# Sessions and their options

A session starts with the directives of its options, one after another: first the table, then the
fields of their own. The configuration that they leave holds for each key the value that was given
last, so the fields win. But each directive is judged when it comes, so there is a session only if
the two names are never the same letters on the way: `exists_start_iff`.

With both fields given, that depends on the names that the table sets (`start_explicit`). A table that
names the user like the bot of the fields is in the way (`not_start_explicit`), though the user of the
fields is another one.
-/

namespace Colloquy

namespace Configuration

variable {config : Configuration} {entries : List (Text × Text)} {entry : Text × Text}

/-! ### What directives leave -/

/-- The value that is given last under a key. -/
def last? (entries : List (Text × Text)) (key : Text) : Option Text :=
  (entries.reverse.find? fun entry => Text.trim entry.1 == key).map fun entry => Text.trim entry.2

theorem last?_concat (entries : List (Text × Text)) (entry : Text × Text) (key : Text) :
    last? (entries ++ [entry]) key =
      if key = Text.trim entry.1 then some (Text.trim entry.2) else last? entries key := by
  rw [last?, List.reverse_append, List.reverse_singleton, List.singleton_append, List.find?_cons]
  by_cases hkey : key = Text.trim entry.1
  · rw [if_pos hkey, beq_iff_eq.2 hkey.symm]
    rfl
  · rw [if_neg hkey, beq_eq_false_iff_ne.2 (Ne.symm hkey)]
    rfl

/-- The two names that are given last are the same letters. -/
def Clash (entries : List (Text × Text)) : Prop :=
  ∃ bot user, last? entries Role.bot.name = some bot ∧ last? entries Role.user.name = some user ∧
    Text.sameLetters bot user = true

theorem not_clash_of_unnamed (role : Role) (h : last? entries role.name = none) : ¬Clash entries := by
  rintro ⟨bot, user, hbot, huser, -⟩
  cases role with
  | bot =>
    rw [h] at hbot
    cases hbot
  | user =>
    rw [h] at huser
    cases huser

theorem not_clash_of_named {bot user : Text} (hbot : last? entries Role.bot.name = some bot)
    (huser : last? entries Role.user.name = some user) (h : Text.sameLetters bot user = false) :
    ¬Clash entries := by
  rintro ⟨bot', user', hbot', huser', hsame⟩
  rw [hbot] at hbot'
  rw [huser] at huser'
  cases hbot'
  cases huser'
  rw [h] at hsame
  cases hsame

theorem last?_concat_name (hrole : roleOfKey? (Text.trim entry.1) = none) (role : Role) :
    last? (entries ++ [entry]) role.name = last? entries role.name := by
  rw [last?_concat, if_neg]
  intro hname
  rw [← hname, roleOfKey?_name] at hrole
  cases hrole

theorem not_clash_nil : ¬Clash [] := not_clash_of_unnamed .bot rfl

/-- Only a directive for a name makes a clash. -/
theorem clash_concat_iff (hrole : roleOfKey? (Text.trim entry.1) = none) :
    Clash (entries ++ [entry]) ↔ Clash entries := by
  rw [Clash, Clash, last?_concat_name hrole, last?_concat_name hrole]

/-- The two names do not clash at any time while the directives come in. -/
def Orderly (entries : List (Text × Text)) : Prop := ∀ part, part <+: entries → ¬Clash part

theorem orderly_concat_iff :
    Orderly (entries ++ [entry]) ↔ Orderly entries ∧ ¬Clash (entries ++ [entry]) := by
  constructor
  · intro h
    exact ⟨fun part hpart => h part (hpart.trans (List.prefix_append _ _)), h _ (List.prefix_refl _)⟩
  · rintro ⟨h, hlast⟩ part hpart
    rcases List.prefix_concat_iff.1 hpart with rfl | hpart
    · exact hlast
    · exact h part hpart

theorem orderly_nil : Orderly [] := by
  intro part hpart
  rw [List.prefix_nil.1 hpart]
  exact not_clash_nil

theorem Orderly.not_clash (h : Orderly entries) : ¬Clash entries := h entries (List.prefix_refl _)

/-! ### Directives that succeed -/

/-- The values are those that are given last, and the names among them can be told apart. -/
structure Given (config : Configuration) (entries : List (Text × Text)) : Prop where
  values : ∀ key, config.get? key = last? entries key
  apart : ¬Clash entries

theorem given_empty : Given {} [] := ⟨fun _ => rfl, not_clash_nil⟩

/-- A directive that succeeds stores its value, and no other name that is the same letters. -/
theorem Given.apply (h : config.Given entries) {isNew : Bool}
    (hok : (config.apply entry.1 entry.2).2 = .ok isNew) :
    (config.apply entry.1 entry.2).1.Given (entries ++ [entry]) := by
  have hstore : ∀ key, (config.store (Text.trim entry.1) (Text.trim entry.2)).get? key =
      last? (entries ++ [entry]) key := by
    intro key
    rw [get?_store, last?_concat, h.values]
  have happlied := applied_apply config entry.1 entry.2
  generalize config.apply entry.1 entry.2 = result at hok happlied ⊢
  cases happlied with
  | refused error _ => cases hok
  | stored _ hrole => exact ⟨hstore, mt (clash_concat_iff hrole).1 h.apart⟩
  | named role _ _ _ hsettled =>
    cases hsettled with
    | unnamed other hnone =>
      rw [hstore] at hnone
      exact ⟨hstore, not_clash_of_unnamed other hnone⟩
    | ambiguous bot user _ _ _ => cases hok
    | known people _ hbot huser hletters =>
      rw [hstore] at hbot huser
      exact ⟨hstore, not_clash_of_named hbot huser hletters⟩
    | made bot user hbot huser hletters _ =>
      rw [hstore] at hbot huser
      exact ⟨hstore, not_clash_of_named hbot huser hletters⟩

/-- With names that can be told apart there are participants exactly if both names are stored. -/
theorem Given.participants (h : config.Given entries) (hfounded : config.Founded)
    (hcurrent : config.UpToDate) :
    (config.participants ≠ none ↔ ∀ role : Role, config.get? role.name ≠ none) ∧
      ∀ bot user, last? entries Role.bot.name = some bot →
        last? entries Role.user.name = some user →
        config.participants = some (.ofNames bot user) := by
  have hnamed : ∀ bot user, last? entries Role.bot.name = some bot →
      last? entries Role.user.name = some user →
      config.participants = some (.ofNames bot user) := by
    intro bot user hbot huser
    refine hcurrent bot user ((h.values _).trans hbot) ((h.values _).trans huser) ?_
    rw [Bool.eq_false_iff]
    exact fun hsame => h.apart ⟨bot, user, hbot, huser, hsame⟩
  refine ⟨⟨?_, ?_⟩, hnamed⟩
  · intro hpeople role
    obtain ⟨people, hpeople⟩ := Option.ne_none_iff_exists'.1 hpeople
    obtain ⟨bot, user, hbot, huser, -⟩ := hfounded.stored people hpeople
    cases role with
    | bot => rw [hbot]; exact Option.some_ne_none bot
    | user => rw [huser]; exact Option.some_ne_none user
  · intro hstored
    obtain ⟨bot, hbot⟩ := Option.ne_none_iff_exists'.1 (hstored .bot)
    obtain ⟨user, huser⟩ := Option.ne_none_iff_exists'.1 (hstored .user)
    rw [hnamed bot user ((h.values _).symm.trans hbot) ((h.values _).symm.trans huser)]
    exact Option.some_ne_none _

/-- The configuration is what the directives leave that have been given to a new one. -/
structure Holds (config : Configuration) (entries : List (Text × Text)) : Prop where
  values : ∀ key, config.get? key = last? entries key
  unlocked : config.locked = false
  founded : config.Founded
  known : ∀ bot user, last? entries Role.bot.name = some bot →
    last? entries Role.user.name = some user → ∃ people, config.participants = some people

theorem holds_nil : Holds {} [] := by
  refine ⟨fun _ => rfl, rfl, founded_empty, ?_⟩
  intro bot user hbot
  cases hbot

/-- The participants are those of the names that are given last. -/
theorem Holds.participants (h : config.Holds entries) (hclash : ¬Clash entries) {bot user : Text}
    (hbot : last? entries Role.bot.name = some bot)
    (huser : last? entries Role.user.name = some user) :
    config.participants = some (.ofNames bot user) := by
  obtain ⟨people, hpeople⟩ := h.known bot user hbot huser
  obtain ⟨b, u, rfl, -⟩ := h.founded.made people hpeople
  obtain ⟨bot', user', hbot', huser', hnames⟩ := h.founded.stored _ hpeople
  rw [h.values, hbot] at hbot'
  rw [h.values, huser] at huser'
  cases hbot'
  cases huser'
  rcases hnames with ⟨hb, hu⟩ | hletters
  · have hb : b = bot := hb
    have hu : u = user := hu
    rw [hpeople, hb, hu]
  · exact absurd ⟨bot, user, hbot, huser, hletters⟩ hclash

theorem refusal?_of_unlocked (hlock : config.locked = false) (key : Text) {value : Text}
    (hform : '=' ∉ value) : config.refusal? key value = none := by
  rw [refusal?, if_neg (by simpa using hform), if_neg (by simp [hlock])]

theorem Holds.given (h : config.Holds entries) (hclash : ¬Clash entries) : config.Given entries :=
  ⟨h.values, hclash⟩

theorem Holds.upToDate (h : config.Holds entries) (hclash : ¬Clash entries) : config.UpToDate := by
  intro bot user hbot huser _
  rw [h.values] at hbot huser
  exact h.participants hclash hbot huser

/-- A directive leads on as long as the names do not clash. When they do it fails for that. -/
theorem Holds.apply (h : config.Holds entries) (hclash : ¬Clash entries) (hform : '=' ∉ entry.2) :
    ((∃ isNew, (config.apply entry.1 entry.2).2 = .ok isNew) ∧
        (config.apply entry.1 entry.2).1.Holds (entries ++ [entry]) ∧ ¬Clash (entries ++ [entry])) ∨
      ((∃ name, (config.apply entry.1 entry.2).2 = .error (.ambiguous name)) ∧
        Clash (entries ++ [entry])) := by
  have hfounded := h.founded.apply entry.1 entry.2
  cases hresult : (config.apply entry.1 entry.2).2 with
  | ok isNew =>
    have hgiven := (h.given hclash).apply hresult
    have hpeople := hgiven.participants hfounded ((h.upToDate hclash).apply h.founded _ _)
    refine .inl ⟨⟨isNew, rfl⟩, ⟨hgiven.values, ?_, hfounded, ?_⟩, hgiven.apart⟩
    · rw [locked_apply, h.unlocked]
    · exact fun bot user hbot huser => ⟨_, hpeople.2 bot user hbot huser⟩
  | error cause =>
    have hnone := refusal?_of_unlocked h.unlocked (Text.trim entry.1) (Text.not_mem_trim hform)
    obtain ⟨bot, user, rfl, hbot, huser, hletters⟩ := ambiguous_of_apply hnone hresult
    rw [get?_store, h.values, ← last?_concat] at hbot huser
    exact .inr ⟨⟨bot, rfl⟩, bot, user, hbot, huser, hletters⟩

end Configuration

namespace Session

variable {session : Session} {entries front : List (Text × Text)} {entry : Text × Text}

/-! ### What a session starts with -/

theorem seed_of_ok {isNew : Bool} (h : (session.config.apply entry.1 entry.2).2 = .ok isNew) :
    ∃ next, session.seed entry = .ok next ∧
      next.config = (session.config.apply entry.1 entry.2).1 := by
  simp only [seed, applyDirective, h]
  split
  · exact ⟨_, rfl, rfl⟩
  · exact ⟨_, rfl, rfl⟩

theorem seed_of_error {cause : ConfigError}
    (h : (session.config.apply entry.1 entry.2).2 = .error cause) :
    ∃ halt line text, session.seed entry = .error halt ∧ halt.error = .format line text cause := by
  simp only [seed, applyDirective, h]
  exact ⟨_, _, _, rfl, rfl⟩

/-- Directives lead on as long as the names do not clash, and fail for that when they do. -/
theorem seeds_of_holds (h : session.config.Holds front) (hclash : ¬Configuration.Clash front)
    (hforms : ∀ entry ∈ entries, '=' ∉ entry.2) :
    (∃ next, entries.foldlM seed session = .ok next ∧ next.config.Holds (front ++ entries) ∧
        ∀ part, part <+: entries → ¬Configuration.Clash (front ++ part)) ∨
      (∃ halt line text name, entries.foldlM seed session = .error halt ∧
        halt.error = .format line text (.ambiguous name) ∧
        ∃ part, part <+: entries ∧ Configuration.Clash (front ++ part)) := by
  induction entries generalizing session front with
  | nil =>
    refine .inl ⟨session, rfl, ?_, ?_⟩
    · rwa [List.append_nil]
    · intro part hpart
      rwa [List.prefix_nil.1 hpart, List.append_nil]
  | cons entry rest ih =>
    obtain ⟨hform, hforms⟩ := List.forall_mem_cons.1 hforms
    rcases h.apply hclash hform with ⟨⟨isNew, hok⟩, hholds, hnext⟩ | ⟨⟨name, herror⟩, hnext⟩
    · obtain ⟨next, hseed, hconfig⟩ := seed_of_ok hok
      rw [← hconfig] at hholds
      have hrest := ih hholds hnext hforms
      simp only [List.append_assoc, List.singleton_append] at hrest hnext
      rw [List.foldlM_cons, hseed]
      rcases hrest with ⟨last, hlast, hholds, hfree⟩ | ⟨halt, line, text, name, hhalt, hcause, part,
        hpart, hbad⟩
      · refine .inl ⟨last, hlast, hholds, ?_⟩
        intro part hpart
        cases part with
        | nil => rwa [List.append_nil]
        | cons first others =>
          obtain ⟨rfl, hothers⟩ := List.cons_prefix_cons.1 hpart
          exact hfree others hothers
      · refine .inr ⟨halt, line, text, name, hhalt, hcause, entry :: part, ?_, hbad⟩
        exact List.cons_prefix_cons.2 ⟨rfl, hpart⟩
    · obtain ⟨halt, line, text, hseed, hcause⟩ := seed_of_error herror
      refine .inr ⟨halt, line, text, name, ?_, hcause, [entry], ?_, hnext⟩
      · rw [List.foldlM_cons, hseed]
        rfl
      · exact List.prefix_append [entry] rest

variable {now : Time.Moment} {options : Options}

/-- There is a session if the two names never clash while the directives of the options come in, and
otherwise it is for that that there is none. -/
theorem start_outcome (now : Time.Moment) (hforms : ∀ entry ∈ options.seeds, '=' ∉ entry.2) :
    (∃ session, start now options = .ok session ∧ session.config.Holds options.seeds ∧
        Configuration.Orderly options.seeds) ∨
      (∃ halt line text name, start now options = .error halt ∧
        halt.error = .format line text (.ambiguous name) ∧
        ¬Configuration.Orderly options.seeds) := by
  have hholds : (fresh now options).config.Holds [] := Configuration.holds_nil
  rcases seeds_of_holds hholds Configuration.not_clash_nil hforms with
    h | ⟨halt, line, text, name, hhalt, hcause, part, hpart, hclash⟩
  · exact .inl h
  · exact .inr ⟨halt, line, text, name, hhalt, hcause, fun horderly => horderly part hpart hclash⟩

/-! ### Fields and table -/

variable {bot user : Text}

/-- The table and the channel, which come before the fields of the names. -/
def forerun (options : Options) : List (Text × Text) :=
  options.directives ++ options.channel.toList.map fun value => (Configuration.channelKey, value)

theorem seeds_eq (hbot : options.bot = some bot) (huser : options.user = some user) :
    options.seeds = forerun options ++ [(Role.bot.name, bot)] ++ [(Role.user.name, user)] := by
  rw [Options.seeds, hbot, huser]
  rfl

theorem roleOfKey?_channelKey : Configuration.roleOfKey? (Text.trim Configuration.channelKey) = none := by
  decide

theorem last?_forerun (options : Options) (role : Role) :
    Configuration.last? (forerun options) role.name =
      Configuration.last? options.directives role.name := by
  rw [forerun]
  cases options.channel with
  | none => exact congrArg (Configuration.last? · role.name) (List.append_nil _)
  | some channel =>
    show Configuration.last? (options.directives ++ [(Configuration.channelKey, channel)]) role.name = _
    exact Configuration.last?_concat_name roleOfKey?_channelKey role

theorem orderly_forerun_iff (options : Options) :
    Configuration.Orderly (forerun options) ↔ Configuration.Orderly options.directives := by
  rw [forerun]
  cases options.channel with
  | none => exact iff_of_eq (congrArg Configuration.Orderly (List.append_nil _))
  | some channel =>
    have hclash : Configuration.Clash (options.directives ++ [(Configuration.channelKey, channel)]) ↔
        Configuration.Clash options.directives :=
      Configuration.clash_concat_iff roleOfKey?_channelKey
    refine Configuration.orderly_concat_iff.trans ⟨And.left, fun h => ⟨h, ?_⟩⟩
    exact fun hlast => h.not_clash (hclash.1 hlast)

theorem last?_field (entries : List (Text × Text)) (role other : Role) (value : Text) :
    Configuration.last? (entries ++ [(role.name, value)]) other.name =
      if other = role then some (Text.trim value) else Configuration.last? entries other.name := by
  have hname : other.name = Text.trim role.name ↔ other = role := by
    cases role <;> cases other <;> decide
  rw [Configuration.last?_concat]
  exact if_congr hname rfl rfl

theorem last?_seeds_bot (hbot : options.bot = some bot) (huser : options.user = some user) :
    Configuration.last? options.seeds Role.bot.name = some (Text.trim bot) := by
  rw [seeds_eq hbot huser, last?_field, if_neg (by decide), last?_field, if_pos rfl]

theorem last?_seeds_user (hbot : options.bot = some bot) (huser : options.user = some user) :
    Configuration.last? options.seeds Role.user.name = some (Text.trim user) := by
  rw [seeds_eq hbot huser, last?_field, if_pos rfl]

theorem last?_seeds_channel (hbot : options.bot = some bot) (huser : options.user = some user)
    {channel : Text} (hchannel : options.channel = some channel) :
    Configuration.last? options.seeds Configuration.channelKey = some (Text.trim channel) := by
  have hforerun : forerun options = options.directives ++ [(Configuration.channelKey, channel)] := by
    rw [forerun, hchannel]
    rfl
  have hkey : Configuration.channelKey = Text.trim Configuration.channelKey ∧
      ∀ role : Role, Configuration.channelKey ≠ Text.trim role.name := by
    refine ⟨by decide, ?_⟩
    rintro (_ | _) <;> decide
  rw [seeds_eq hbot huser, hforerun, Configuration.last?_concat, if_neg (hkey.2 .user),
    Configuration.last?_concat, if_neg (hkey.2 .bot), Configuration.last?_concat, if_pos hkey.1]

/-- With fields whose names differ, what can be in the way is the table: its own names, and the name
that it leaves to the user beside the bot of the field. -/
theorem orderly_seeds_iff (hbot : options.bot = some bot) (huser : options.user = some user)
    (hdiffer : Text.sameLetters (Text.trim bot) (Text.trim user) = false) :
    Configuration.Orderly options.seeds ↔ Configuration.Orderly options.directives ∧
      ∀ other, Configuration.last? options.directives Role.user.name = some other →
        Text.sameLetters (Text.trim bot) other = false := by
  have hlast : ¬Configuration.Clash options.seeds := Configuration.not_clash_of_named
    (last?_seeds_bot hbot huser) (last?_seeds_user hbot huser) hdiffer
  have hmiddle : ¬Configuration.Clash (forerun options ++ [(Role.bot.name, bot)]) ↔
      ∀ other, Configuration.last? options.directives Role.user.name = some other →
        Text.sameLetters (Text.trim bot) other = false := by
    rw [Configuration.Clash, last?_field, if_pos rfl, last?_field, if_neg (by decide), last?_forerun]
    constructor
    · intro h other hother
      rw [Bool.eq_false_iff]
      exact fun hsame => h ⟨_, other, rfl, hother, hsame⟩
    · rintro h ⟨_, other, ⟨⟩, hother, hsame⟩
      rw [h other hother] at hsame
      cases hsame
  rw [seeds_eq hbot huser] at hlast ⊢
  rw [Configuration.orderly_concat_iff, Configuration.orderly_concat_iff, orderly_forerun_iff, hmiddle]
  exact and_iff_left hlast

theorem forms_seeds (hbot : options.bot = some bot) (huser : options.user = some user)
    (hforms : '=' ∉ bot ∧ '=' ∉ user) (hchannel : ∀ channel, options.channel = some channel →
      '=' ∉ channel) (htable : ∀ entry ∈ options.directives, '=' ∉ entry.2) :
    ∀ entry ∈ options.seeds, '=' ∉ entry.2 := by
  rw [seeds_eq hbot huser, List.forall_mem_append, List.forall_mem_append, forerun,
    List.forall_mem_append, List.forall_mem_singleton, List.forall_mem_singleton]
  refine ⟨⟨⟨htable, ?_⟩, hforms.1⟩, hforms.2⟩
  intro entry hentry
  obtain ⟨channel, hmem, rfl⟩ := List.mem_map.1 hentry
  exact hchannel channel (Option.mem_toList.1 hmem)

/-- With fields for both names, which differ, there is a session exactly if the names of the table
never clash and the user of the table is not the bot of the fields; otherwise it is for a clash that
there is none. In a session the fields count, whatever the table holds. -/
theorem fields_win (hbot : options.bot = some bot) (huser : options.user = some user)
    (hforms : '=' ∉ bot ∧ '=' ∉ user)
    (hdiffer : Text.sameLetters (Text.trim bot) (Text.trim user) = false)
    (hchannel : ∀ channel, options.channel = some channel → '=' ∉ channel)
    (htable : ∀ entry ∈ options.directives, '=' ∉ entry.2) :
    ((∃ session, start now options = .ok session) ↔ Configuration.Orderly options.directives ∧
        ∀ other, Configuration.last? options.directives Role.user.name = some other →
          Text.sameLetters (Text.trim bot) other = false) ∧
      (∀ halt, start now options = .error halt →
        ∃ line text name, halt.error = .format line text (.ambiguous name)) ∧
      ∀ session, start now options = .ok session →
        session.config.participants = some (.ofNames (Text.trim bot) (Text.trim user)) ∧
          session.config.get? Role.bot.name = some (Text.trim bot) ∧
          session.config.get? Role.user.name = some (Text.trim user) ∧
          ∀ channel, options.channel = some channel → session.config.channel = Text.trim channel := by
  rw [← orderly_seeds_iff hbot huser hdiffer]
  rcases start_outcome now (forms_seeds hbot huser hforms hchannel htable) with
    ⟨session, hsession, hholds, horderly⟩ | ⟨halt, line, text, name, hhalt, hcause, hclash⟩
  · rw [hsession]
    refine ⟨⟨fun _ => horderly, fun _ => ⟨session, rfl⟩⟩, by rintro halt ⟨⟩, ?_⟩
    rintro _ ⟨⟩
    have hlastbot := last?_seeds_bot hbot huser
    have hlastuser := last?_seeds_user hbot huser
    refine ⟨hholds.participants horderly.not_clash hlastbot hlastuser, ?_, ?_, ?_⟩
    · rw [hholds.values, hlastbot]
    · rw [hholds.values, hlastuser]
    · intro channel hchannel
      rw [Configuration.channel, hholds.values, last?_seeds_channel hbot huser hchannel]
      rfl
  · rw [hhalt]
    refine ⟨⟨?_, fun horderly => absurd horderly hclash⟩, ?_, by rintro session ⟨⟩⟩
    · rintro ⟨session, ⟨⟩⟩
    · rintro _ ⟨⟩
      exact ⟨line, text, name, hcause⟩

/-- Options whose table names other sides and another channel than the fields do. -/
def overridden : Options where
  bot := some " Zoe "
  user := some "Sam"
  channel := some "7"
  directives := [("bot", "Max"), ("channelId", "1"), ("user", "Bea")]

theorem fields_win_overridden :
    ∃ session, start .epoch overridden = .ok session ∧
      session.config.participants = some (.ofNames "Zoe" "Sam") ∧ session.config.channel = "7" := by
  have htable : ∀ entry ∈ overridden.directives, '=' ∉ entry.2 :=
    List.all_iff_forall_prop.1 (by decide)
  have horderly : Configuration.Orderly overridden.directives := by
    show Configuration.Orderly ([] ++ [("bot".toList, "Max".toList)] ++
      [("channelId".toList, "1".toList)] ++ [("user".toList, "Bea".toList)])
    rw [Configuration.orderly_concat_iff, Configuration.orderly_concat_iff,
      Configuration.orderly_concat_iff]
    refine ⟨⟨⟨Configuration.orderly_nil, ?_⟩, ?_⟩, ?_⟩
    · exact Configuration.not_clash_of_unnamed .user (by decide)
    · exact Configuration.not_clash_of_unnamed .user (by decide)
    · have hdiffer : Text.sameLetters "Max" "Bea" = false := by decide
      exact Configuration.not_clash_of_named (by decide) (by decide) hdiffer
  obtain ⟨hstart, -, hsession⟩ := @fields_win .epoch overridden " Zoe " "Sam" rfl rfl
    (by decide) (by decide) (by rintro _ ⟨⟩; decide) htable
  obtain ⟨session, hok⟩ := hstart.2 ⟨horderly, by rintro other ⟨⟩; decide⟩
  obtain ⟨hpeople, -, -, hchannel⟩ := hsession session hok
  exact ⟨session, hok, hpeople, hchannel "7" rfl⟩

/-- Fields that name the sides Zoe and Sam, after a table that names the user Zoe. -/
def swapped : Options where
  bot := some "Zoe"
  user := some "Sam"
  directives := [("user", "Zoe")]

/-- A table that names the user like the bot of the fields is in the way. -/
theorem not_fields_win :
    ¬ ∀ (now : Time.Moment) (options : Options) (bot user : Text), options.bot = some bot →
        options.user = some user → '=' ∉ bot → '=' ∉ user →
        Text.sameLetters (Text.trim bot) (Text.trim user) = false →
        (∀ channel, options.channel = some channel → '=' ∉ channel) →
        (∀ entry ∈ options.directives, '=' ∉ entry.2) →
        ∃ session, start now options = .ok session := by
  intro hall
  have htable : ∀ entry ∈ swapped.directives, '=' ∉ entry.2 :=
    List.all_iff_forall_prop.1 (by decide)
  obtain ⟨session, hok⟩ := hall .epoch swapped "Zoe" "Sam" rfl rfl (by decide) (by decide) (by decide)
    (by rintro _ ⟨⟩) htable
  have hfailure : (start .epoch swapped).mapError Halt.error =
      .error (.format 0 "bot=Zoe" (.ambiguous "Zoe")) := rfl
  rw [hok] at hfailure
  cases hfailure

end Session

end Colloquy
