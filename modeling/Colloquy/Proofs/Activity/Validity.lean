import Mathlib.Data.List.Chain
import Mathlib.Data.List.Nodup
import Colloquy.Activity.Problem

/-!
# Valid transcripts

What a transcript without problems is, said of the whole list instead of activity by activity:
`problems_eq_nil_iff`. The list of problems looks at neighbours and at the first conversation only;
that this is enough follows since the order of instants is transitive.
-/

namespace Colloquy

/-- Identifiers occur once, there is one conversation, time does not run backwards, and every
activity goes from one side to the other with attachments that have no flaws. -/
structure Activity.Valid (activities : List Activity) : Prop where
  ids : (activities.map Activity.id).Nodup
  conversations : ∀ a ∈ activities, ∀ b ∈ activities, a.conversation = b.conversation
  ordered : activities.Pairwise fun a b => a.time.instant ≤ b.time.instant
  roles : ∀ a ∈ activities, a.sender.role ≠ a.recipient.role
  accounts : ∀ a ∈ activities, a.sender.id ≠ a.recipient.id
  attachments : ∀ a ∈ activities, ∀ attachment ∈ a.attachments, attachment.flaws = []

theorem Attachment.problems_eq_nil_iff {id : Text} {place : Nat} {attachments : List Attachment} :
    Attachment.problems id place attachments = [] ↔
      ∀ attachment ∈ attachments, attachment.flaws = [] := by
  induction attachments generalizing place with
  | nil => simp [Attachment.problems]
  | cons attachment rest ih => simp [Attachment.problems, ih]

namespace Activity

theorem repeatedIds_eq_nil_iff {seen ids : List Text} :
    repeatedIds seen ids = [] ↔ ids.Nodup ∧ ∀ id ∈ ids, id ∉ seen := by
  induction ids generalizing seen with
  | nil => simp [repeatedIds]
  | cons id rest ih =>
    by_cases hseen : id ∈ seen
    · simp [repeatedIds, hseen]
    · rw [repeatedIds, if_neg hseen, ih, List.nodup_cons]
      constructor
      · rintro ⟨hnodup, hfresh⟩
        refine ⟨⟨?_, hnodup⟩, ?_⟩
        · intro hmem
          exact hfresh id hmem (by simp)
        · intro other hother
          rcases List.mem_cons.1 hother with rfl | hother
          · exact hseen
          · exact fun hin => hfresh other hother (List.mem_cons_of_mem _ hin)
      · rintro ⟨⟨hid, hnodup⟩, hfresh⟩
        refine ⟨hnodup, ?_⟩
        intro other hother hin
        rcases List.mem_cons.1 hin with rfl | hin
        · exact hid hother
        · exact hfresh other (List.mem_cons_of_mem _ hother) hin

/-- What is right with an activity of a conversation, taken by itself. -/
@[mk_iff] structure Fit (conversation : Text) (activity : Activity) : Prop where
  roles : activity.sender.role ≠ activity.recipient.role
  accounts : activity.sender.id ≠ activity.recipient.id
  conversation : activity.conversation = conversation
  attachments : ∀ attachment ∈ activity.attachments, attachment.flaws = []

theorem problemsAfter_eq_nil_iff {conversation : Text} {previous : Option Activity}
    {activity : Activity} :
    problemsAfter conversation previous activity = [] ↔
      Fit conversation activity ∧
        ∀ before, previous = some before → before.time.instant ≤ activity.time.instant := by
  rw [fit_iff]
  cases previous with
  | none =>
    simp [problemsAfter, Attachment.problems_eq_nil_iff]
  | some before =>
    have hparts : problemsAfter conversation (some before) activity = [] ↔
        activity.sender.role ≠ activity.recipient.role ∧
          activity.sender.id ≠ activity.recipient.id ∧ activity.conversation = conversation ∧
          before.time.instant ≤ activity.time.instant ∧
          ∀ attachment ∈ activity.attachments, attachment.flaws = [] := by
      simp [problemsAfter, Attachment.problems_eq_nil_iff, Time.Moment.isBefore]
    rw [hparts]
    simp only [Option.some.injEq, forall_eq']
    tauto

/-- Neighbours are compared: what is not out of order is a chain. -/
theorem problemsFrom_eq_nil_iff {conversation : Text} {previous : Option Activity}
    {activities : List Activity} :
    problemsFrom conversation previous activities = [] ↔
      (∀ activity ∈ activities, Fit conversation activity) ∧
        List.IsChain (fun a b => a.time.instant ≤ b.time.instant)
          (previous.toList ++ activities) := by
  induction activities generalizing previous with
  | nil => cases previous <;> simp [problemsFrom]
  | cons activity rest ih =>
    rw [problemsFrom, List.append_eq_nil_iff, problemsAfter_eq_nil_iff, ih, List.forall_mem_cons]
    cases previous with
    | none => simp [and_assoc]
    | some before =>
      simp only [Option.some.injEq, forall_eq', Option.toList_some, List.cons_append,
        List.nil_append, List.isChain_cons_cons]
      tauto

/-- A transcript has no problems exactly if it is valid. -/
theorem problems_eq_nil_iff (activities : List Activity) :
    problems activities = [] ↔ Valid activities := by
  have htrans : IsTrans Activity fun a b => a.time.instant ≤ b.time.instant :=
    ⟨fun _ _ _ hab hbc => Int.le_trans hab hbc⟩
  rw [problems.eq_def, List.append_eq_nil_iff, List.map_eq_nil_iff, repeatedIds_eq_nil_iff]
  cases activities with
  | nil => exact ⟨fun _ => ⟨by simp, by simp, by simp, by simp, by simp, by simp⟩, by simp⟩
  | cons first rest =>
    simp only [problemsFrom_eq_nil_iff, Option.toList_none, List.nil_append,
      List.isChain_iff_pairwise]
    constructor
    · rintro ⟨⟨hids, -⟩, hfit, hordered⟩
      refine ⟨hids, ?_, hordered, fun a ha => (hfit a ha).roles, fun a ha => (hfit a ha).accounts,
        fun a ha => (hfit a ha).attachments⟩
      intro a ha b hb
      rw [(hfit a ha).conversation, (hfit b hb).conversation]
    · intro h
      refine ⟨⟨h.ids, by simp⟩, ?_, h.ordered⟩
      intro a ha
      exact ⟨h.roles a ha, h.accounts a ha, h.conversations a ha first (by simp), h.attachments a ha⟩

end Activity

end Colloquy
