import Mathlib.Data.Finset.Card
import Colloquy.Proofs.Activity.Validity

/-!
# How many problems there are

The list of problems is empty exactly if all clauses hold of the whole transcript, and it also counts:
an identifier is reported once for each time that it comes again, and a step back in time once for
each pair of neighbours that goes backwards (`problems_tally`). Identifiers are counted through the set
of those that have been seen, times through the neighbours of the list.
-/

namespace Colloquy

/-- Whether a problem is an identifier that comes again. -/
def Problem.isRepeatedId : Problem → Bool
  | .repeatedId _ => true
  | _ => false

/-- Whether a problem is a step back in time. -/
def Problem.isOutOfOrder : Problem → Bool
  | .outOfOrder _ _ _ => true
  | _ => false

/-! ### Attachments -/

/-- An attachment has no flaw if it has a type and exactly one of the two payloads. -/
theorem Attachment.flaws_eq_nil_iff {attachment : Attachment} :
    attachment.flaws = [] ↔ Text.trim attachment.contentType ≠ [] ∧
      attachment.contentUrl.isSome ≠ attachment.content.isSome := by
  obtain ⟨type, url, content⟩ := attachment
  rw [flaws]
  cases url <;> cases content <;> simp

/-- Attachments account for problems of their own only. -/
theorem Attachment.countP_problems {sort : Problem → Bool}
    (hsort : ∀ id place flaw, sort (.attachment id place flaw) = false) (id : Text) (place : Nat)
    (attachments : List Attachment) : (Attachment.problems id place attachments).countP sort = 0 := by
  induction attachments generalizing place with
  | nil => rfl
  | cons attachment rest ih =>
    rw [Attachment.problems, List.countP_append, ih, List.countP_map, Nat.add_zero,
      List.countP_eq_zero]
    intro flaw _
    simp [hsort]

namespace Activity

/-! ### Identifiers -/

/-- Every identifier is either new or reported. -/
theorem length_repeatedIds (seen ids : List Text) :
    (repeatedIds seen ids).length + (ids.toFinset \ seen.toFinset).card = ids.length := by
  induction ids generalizing seen with
  | nil => simp [repeatedIds]
  | cons id rest ih =>
    by_cases hseen : id ∈ seen
    · have hsame : (id :: rest).toFinset \ seen.toFinset = rest.toFinset \ seen.toFinset := by
        rw [List.toFinset_cons, Finset.insert_sdiff_of_mem _ (List.mem_toFinset.2 hseen)]
      rw [repeatedIds, if_pos hseen, hsame, List.length_cons, List.length_cons, ← ih seen]
      omega
    · have hmore : (id :: rest).toFinset \ seen.toFinset =
          insert id (rest.toFinset \ (id :: seen).toFinset) := by
        ext other
        simp only [Finset.mem_sdiff, Finset.mem_insert, List.mem_toFinset, List.mem_cons]
        by_cases hother : other = id
        · simp [hother, hseen]
        · simp [hother]
      have hnew : id ∉ rest.toFinset \ (id :: seen).toFinset := by simp
      rw [repeatedIds, if_neg hseen, hmore, Finset.card_insert_of_notMem hnew, List.length_cons,
        ← ih (id :: seen)]
      omega

/-! ### Activity by activity -/

theorem countP_ite {sort : Problem → Bool} {problem : Problem} (h : sort problem = false)
    (condition : Prop) [Decidable condition] :
    (if condition then [problem] else []).countP sort = 0 := by
  split_ifs <;> simp [h]

/-- What a sort counts that knows repeated identifiers and steps back in time only. -/
theorem countP_problemsAfter {sort : Problem → Bool}
    (hroles : ∀ id role, sort (.sameRole id role) = false)
    (haccounts : ∀ id name, sort (.sameAccount id name) = false)
    (hconversations : ∀ id found expected, sort (.otherConversation id found expected) = false)
    (hattachments : ∀ id place flaw, sort (.attachment id place flaw) = false)
    (conversation : Text) (previous : Option Activity) (activity : Activity) :
    (problemsAfter conversation previous activity).countP sort =
      (previous.toList.map fun before => (before, activity)).countP fun pair =>
        decide (pair.2.time.instant < pair.1.time.instant) &&
          sort (.outOfOrder pair.2.id pair.2.time pair.1.time) := by
  rw [problemsAfter.eq_def, List.countP_append, List.countP_append, List.countP_append,
    List.countP_append, countP_ite (hroles _ _), countP_ite (haccounts _ _),
    countP_ite (hconversations _ _ _), Attachment.countP_problems hattachments]
  cases previous with
  | none => rfl
  | some before =>
    by_cases hback : activity.time.instant < before.time.instant
    · simp [Time.Moment.isBefore, hback, List.countP_cons]
    · simp [Time.Moment.isBefore, hback]

theorem countP_isRepeatedId_problemsFrom (conversation : Text) (previous : Option Activity)
    (activities : List Activity) :
    (problemsFrom conversation previous activities).countP Problem.isRepeatedId = 0 := by
  induction activities generalizing previous with
  | nil => rfl
  | cons activity rest ih =>
    rw [problemsFrom, List.countP_append, ih,
      countP_problemsAfter (fun _ _ => rfl) (fun _ _ => rfl) (fun _ _ _ => rfl) (fun _ _ _ => rfl)]
    simp [Problem.isRepeatedId]

/-- Steps back in time are counted over the neighbours, among which is the activity before the
first. -/
theorem countP_isOutOfOrder_problemsFrom (conversation : Text) (previous : Option Activity)
    (activities : List Activity) :
    (problemsFrom conversation previous activities).countP Problem.isOutOfOrder =
      ((previous.toList ++ activities).zip (previous.toList ++ activities).tail).countP
        fun pair => pair.2.time.instant < pair.1.time.instant := by
  induction activities generalizing previous with
  | nil => cases previous <;> rfl
  | cons activity rest ih =>
    rw [problemsFrom, List.countP_append, ih,
      countP_problemsAfter (fun _ _ => rfl) (fun _ _ => rfl) (fun _ _ _ => rfl) (fun _ _ _ => rfl)]
    cases previous with
    | none => simp
    | some before => simp [Problem.isOutOfOrder, List.countP_cons, Nat.add_comm]

/-! ### The whole transcript -/

theorem countP_isRepeatedId_problems (activities : List Activity) :
    (problems activities).countP Problem.isRepeatedId =
      (repeatedIds [] (activities.map Activity.id)).length := by
  have hids : ∀ ids : List Text,
      (ids.map Problem.repeatedId).countP Problem.isRepeatedId = ids.length := by
    intro ids
    rw [List.countP_map, List.countP_eq_length]
    exact fun _ _ => rfl
  rw [problems.eq_def, List.countP_append, hids]
  cases activities with
  | nil => rfl
  | cons first rest => rw [countP_isRepeatedId_problemsFrom, Nat.add_zero]

theorem countP_isOutOfOrder_problems (activities : List Activity) :
    (problems activities).countP Problem.isOutOfOrder = (activities.zip activities.tail).countP
      fun pair => pair.2.time.instant < pair.1.time.instant := by
  have hids : ∀ ids : List Text, (ids.map Problem.repeatedId).countP Problem.isOutOfOrder = 0 := by
    intro ids
    rw [List.countP_map, List.countP_eq_zero]
    exact fun _ _ => Bool.false_ne_true
  rw [problems.eq_def, List.countP_append, hids, Nat.zero_add]
  cases activities with
  | nil => rfl
  | cons first rest => exact countP_isOutOfOrder_problemsFrom _ none _

/-- There are no problems exactly if identifiers are distinct, the conversation is one, no activity is
later than one that comes after it, and sides and attachments are as they have to be. Repeated
identifiers and distinct ones are as many as the activities, and steps back in time as many as the
neighbours that go backwards. -/
theorem problems_tally (activities : List Activity) :
    (problems activities = [] ↔
        (activities.map Activity.id).Nodup ∧
          (∀ a ∈ activities, ∀ b ∈ activities, a.conversation = b.conversation) ∧
          (activities.Pairwise fun a b => ¬b.time.instant < a.time.instant) ∧
          (∀ a ∈ activities, a.sender.role ≠ a.recipient.role ∧ a.sender.id ≠ a.recipient.id) ∧
          ∀ a ∈ activities, ∀ attachment ∈ a.attachments,
            Text.trim attachment.contentType ≠ [] ∧
              attachment.contentUrl.isSome ≠ attachment.content.isSome) ∧
      (problems activities).countP Problem.isRepeatedId +
          (activities.map Activity.id).toFinset.card = activities.length ∧
      (problems activities).countP Problem.isOutOfOrder = (activities.zip activities.tail).countP
        fun pair => pair.2.time.instant < pair.1.time.instant := by
  refine ⟨?_, ?_, countP_isOutOfOrder_problems activities⟩
  · rw [problems_eq_nil_iff]
    simp only [Int.not_lt, ← Attachment.flaws_eq_nil_iff]
    constructor
    · intro h
      exact ⟨h.ids, h.conversations, h.ordered, fun a ha => ⟨h.roles a ha, h.accounts a ha⟩,
        h.attachments⟩
    · rintro ⟨hids, hconversations, hordered, hsides, hattachments⟩
      exact ⟨hids, hconversations, hordered, fun a ha => (hsides a ha).1,
        fun a ha => (hsides a ha).2, hattachments⟩
  · have hlength := length_repeatedIds [] (activities.map Activity.id)
    rw [List.toFinset_nil, Finset.sdiff_empty, List.length_map] at hlength
    rw [countP_isRepeatedId_problems, hlength]

end Activity

end Colloquy
