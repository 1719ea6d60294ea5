import Mathlib.Data.List.Nodup
import Colloquy.Activity.Wire
import Colloquy.Proofs.Json.Written
import Colloquy.Proofs.Time.Rfc3339

/-!
# Transcripts read back

The text of a transcript is read as the activities that were written, but for their contents
(`readAll?_writeAll?`): a content that is null is read as none, and one with more levels than can
be read around which the transcript adds its own makes the whole text unreadable. `reread?` says so
of one activity.

The contents are taken as a reader of JSON makes them, with their members in order, and with
numbers that are read as they are written.
-/

namespace Colloquy

open Json (Outline)

/-! ### Members by their names -/

namespace Wire

/-- A record with each key once has the values of its members. -/
theorem record?_ofJson {names : List Text} {members : List (Text × Json)}
    (h : (members.map Prod.fst).Nodup) :
    record? names (Outline.ofJson (.object members)) =
      some fun name => ((Json.object members).member? name).map Outline.ofJson := by
  have hfilter : ∀ name : Text,
      ((Outline.ofMembers members).filter fun entry => entry.1 == some name) =
        Outline.ofMembers (members.filter fun entry => entry.1 == name) := by
    intro name
    rw [Outline.ofMembers_eq_map, Outline.ofMembers_eq_map, List.filter_map]
    congr 1
  have hall : (Outline.ofMembers members).all (fun entry => entry.1.isSome) = true := by
    rw [Outline.ofMembers_eq_map, List.all_map, List.all_eq_true]
    exact fun entry _ => rfl
  have honce : ∀ name : Text, (members.filter fun entry => entry.1 == name).length ≤ 1 := by
    intro name
    have hcount := List.nodup_iff_count_le_one.1 h name
    rw [List.count, List.countP_map, List.countP_eq_length_filter] at hcount
    exact hcount
  have hnames : names.all (fun name =>
      ((Outline.ofMembers members).filter fun entry => entry.1 == some name).length ≤ 1) = true := by
    rw [List.all_eq_true]
    intro name _
    rw [hfilter, Outline.ofMembers_eq_map, List.length_map]
    exact decide_eq_true (honce name)
  rw [Outline.ofJson, record?, hall, hnames]
  refine congrArg some (funext fun name => ?_)
  show ((Outline.ofMembers members).filter fun entry => entry.1 == some name).head?.map Prod.snd = _
  rw [hfilter, Outline.ofMembers_eq_map, List.head?_map, List.head?_filter, Option.map_map,
    Json.member?, Option.map_map]
  rfl

end Wire

/-! ### Small records -/

namespace Wire

theorem text?_string (text : Text) : text? (Outline.ofJson (.string text)) = some text := rfl

theorem kind?_name (kind : ActivityKind) :
    kind? (Outline.ofJson (.string kind.name)) = some kind := by
  cases kind <;> decide

theorem account?_toJson (account : Account) :
    account? (Outline.ofJson account.toJson) = some account := by
  obtain ⟨id, name, role⟩ := account
  rw [account?, Account.toJson, record?_ofJson]
  · cases role <;> rfl
  · show (["id", "name", "role"] : List Text).Nodup
    decide

theorem conversation?_record (conversation : Text) :
    conversation? (Outline.ofJson (.object [("id", .string conversation)])) = some conversation := by
  rw [conversation?, record?_ofJson (by simp)]
  rfl

end Wire

/-! ### Attachments -/

/-- What reading makes of a content that was written: null is lost, and too many levels cannot be
read. -/
def Wire.reread? : Option Json → Option (Option Json)
  | none => some none
  | some content =>
    if content.depth + levelsAround ≤ Outline.deepest then
      some (if content = .null then none else some content)
    else none

/-- What reading makes of an attachment that was written. -/
def Attachment.reread? (attachment : Attachment) : Option Attachment :=
  (Wire.reread? attachment.content).map fun content => { attachment with content := content }

/-- What reading makes of an activity that was written. -/
def Activity.reread? (activity : Activity) : Option Activity :=
  (activity.attachments.mapM Attachment.reread?).map fun attachments =>
    { activity with attachments := attachments }

namespace Wire

theorem optional?_text (text : Option Text) :
    optional? text? ((text.map Json.string).map Outline.ofJson) = some text := by
  cases text <;> rfl

theorem optional?_content {content : Option Json}
    (h : ∀ value, content = some value → value.Sorted) :
    optional? content? (content.map Outline.ofJson) = reread? content := by
  cases content with
  | none => rfl
  | some value =>
    have hcontent : content? (Outline.ofJson value) =
        if value.depth + levelsAround ≤ Outline.deepest then some value else none := by
      rw [content?, Outline.toJson?_ofJson (h value rfl)]
      rfl
    by_cases hnull : value = .null
    · rw [hnull, reread?, if_pos (by decide), if_pos rfl]
      rfl
    · have hvalue : optional? content? (some (Outline.ofJson value)) =
          (content? (Outline.ofJson value)).map some := by
        cases value with
        | null => exact absurd rfl hnull
        | _ => rfl
      rw [Option.map_some, hvalue, hcontent, reread?, if_neg hnull]
      split_ifs <;> rfl

end Wire

/-! ### Records with members that may be missing -/

theorem keys_optionalMember (key : Text) (value : Option Json) :
    ((optionalMember key value).map Prod.fst).Sublist [key] := by
  cases value with
  | none => exact List.nil_sublist _
  | some value => exact List.Sublist.refl _

/-- The members of the record of an attachment. -/
def Attachment.members (attachment : Attachment) : List (Text × Json) :=
  ("contentType", .string attachment.contentType) ::
    (optionalMember "contentUrl" (attachment.contentUrl.map .string) ++
      optionalMember "content" attachment.content)

theorem Attachment.toJson_eq (attachment : Attachment) :
    attachment.toJson = .object attachment.members := rfl

theorem Attachment.nodup_members (attachment : Attachment) :
    (attachment.members.map Prod.fst).Nodup := by
  have hkeys : (["contentType", "contentUrl", "content"] : List Text).Nodup := by decide
  refine List.Nodup.sublist ?_ hkeys
  simp only [members, List.map_cons, List.map_append]
  exact (List.Sublist.refl [_]).append ((keys_optionalMember _ _).append (keys_optionalMember _ _))

/-- The members of the record of an activity with the text of its time. -/
def Activity.members (activity : Activity) (time : Text) : List (Text × Json) :=
  ("id", .string activity.id) :: ("type", .string activity.kind.name) ::
    ("from", activity.sender.toJson) :: ("recipient", activity.recipient.toJson) ::
    ("conversation", .object [("id", .string activity.conversation)]) ::
    ("timestamp", .string time) :: ("text", .string activity.text) ::
    (optionalMember "attachments" (Attachment.toJson? activity.attachments) ++
      optionalMember "attachmentLayout" (activity.layout.map fun layout => .string layout.name))

theorem Activity.toJson?_eq_some_iff {activity : Activity} {record : Json} :
    activity.toJson? = some record ↔
      ∃ time, Time.Rfc3339.write? activity.time = some time ∧ .object (activity.members time) = record :=
  Option.map_eq_some_iff

theorem Activity.nodup_members (activity : Activity) (time : Text) :
    ((activity.members time).map Prod.fst).Nodup := by
  have hkeys : (["id", "type", "from", "recipient", "conversation", "timestamp", "text",
      "attachments", "attachmentLayout"] : List Text).Nodup := by decide
  refine List.Nodup.sublist ?_ hkeys
  simp only [members, List.map_cons, List.map_append]
  exact (List.Sublist.refl [_, _, _, _, _, _, _]).append
    ((keys_optionalMember _ _).append (keys_optionalMember _ _))

namespace Wire

theorem attachment?_toJson {attachment : Attachment}
    (h : ∀ content, attachment.content = some content → content.Sorted) :
    attachment? (Outline.ofJson attachment.toJson) = attachment.reread? := by
  have htype : (Json.object attachment.members).member? "contentType" =
      some (.string attachment.contentType) := rfl
  have hurl : (Json.object attachment.members).member? "contentUrl" =
      attachment.contentUrl.map .string := by
    obtain ⟨type, url, content⟩ := attachment
    cases url <;> cases content <;> rfl
  have hcontent : (Json.object attachment.members).member? "content" = attachment.content := by
    obtain ⟨type, url, content⟩ := attachment
    cases url <;> cases content <;> rfl
  rw [attachment?, Attachment.toJson_eq, record?_ofJson attachment.nodup_members]
  simp only [Option.bind_eq_bind, Option.bind_some, htype, hurl, hcontent, optional?_text,
    optional?_content h, Option.map_some]
  rw [Attachment.reread?]
  cases reread? attachment.content <;> rfl

/-- The attachments of a record, which are left out if there are none. -/
theorem attachments_toJson? {attachments : List Attachment}
    (h : ∀ attachment ∈ attachments, ∀ content, attachment.content = some content → content.Sorted) :
    (((Attachment.toJson? attachments).map Outline.ofJson).map (items? attachment?)).getD (some []) =
      attachments.mapM Attachment.reread? := by
  cases attachments with
  | nil => rfl
  | cons first rest =>
    show ((Outline.ofItems ((first :: rest).map Attachment.toJson)).mapM attachment?) = _
    rw [Outline.ofItems_eq_map, List.map_map, List.mapM_map]
    exact mapM_congr fun attachment hmem => attachment?_toJson (h attachment hmem)

theorem optional?_layout (layout : Option Layout) :
    optional? layout? ((layout.map fun layout => .string layout.name).map Outline.ofJson) =
      some layout := by
  cases layout with
  | none => rfl
  | some layout => cases layout <;> rfl

theorem activity?_toJson? {activity : Activity} {record : Json}
    (h : ∀ attachment ∈ activity.attachments, ∀ content, attachment.content = some content →
      content.Sorted)
    (hrecord : activity.toJson? = some record) :
    activity? (Outline.ofJson record) = activity.reread? := by
  obtain ⟨time, htime, rfl⟩ := Activity.toJson?_eq_some_iff.1 hrecord
  have hid : (Json.object (activity.members time)).member? "id" = some (.string activity.id) := rfl
  have hkind : (Json.object (activity.members time)).member? "type" =
      some (.string activity.kind.name) := rfl
  have hsender : (Json.object (activity.members time)).member? "from" =
      some activity.sender.toJson := rfl
  have hrecipient : (Json.object (activity.members time)).member? "recipient" =
      some activity.recipient.toJson := rfl
  have hconversation : (Json.object (activity.members time)).member? "conversation" =
      some (.object [("id", .string activity.conversation)]) := rfl
  have htimestamp : (Json.object (activity.members time)).member? "timestamp" =
      some (.string time) := rfl
  have htext : (Json.object (activity.members time)).member? "text" =
      some (.string activity.text) := rfl
  have hattachments : (Json.object (activity.members time)).member? "attachments" =
      Attachment.toJson? activity.attachments := by
    obtain ⟨id, kind, sender, recipient, conversation, moment, text, attachments, layout⟩ := activity
    cases attachments <;> cases layout <;> rfl
  have hlayout : (Json.object (activity.members time)).member? "attachmentLayout" =
      activity.layout.map fun layout => .string layout.name := by
    obtain ⟨id, kind, sender, recipient, conversation, moment, text, attachments, layout⟩ := activity
    cases attachments <;> cases layout <;> rfl
  have hmoment : time? (Outline.ofJson (.string time)) = some activity.time :=
    Time.Rfc3339.read?_write htime
  rw [activity?, record?_ofJson (activity.nodup_members time)]
  simp only [Option.bind_eq_bind, Option.bind_some, hid, hkind, hsender, hrecipient, hconversation,
    htimestamp, htext, hattachments, hlayout, Option.map_some, Option.getD_some, text?_string,
    kind?_name, account?_toJson, conversation?_record, hmoment, attachments_toJson? h,
    optional?_layout]
  rw [Activity.reread?]
  cases activity.attachments.mapM Attachment.reread? <;> rfl

end Wire

/-! ### Transcripts -/

theorem numeric_optionalMember {key : Text} {value : Option Json}
    (h : ∀ found, value = some found → found.Numeric) :
    ∀ entry ∈ optionalMember key value, entry.2.Numeric := by
  cases value with
  | none => exact List.forall_mem_nil _
  | some found => exact List.forall_mem_singleton.2 (h found rfl)

theorem Attachment.numeric_toJson {attachment : Attachment}
    (h : ∀ content, attachment.content = some content → content.Numeric) :
    attachment.toJson.Numeric := by
  refine Json.numeric_object (List.forall_mem_cons.2 ⟨Json.numeric_string _, ?_⟩)
  refine List.forall_mem_append.2 ⟨numeric_optionalMember ?_, numeric_optionalMember h⟩
  intro found hfound
  obtain ⟨url, -, rfl⟩ := Option.map_eq_some_iff.1 hfound
  exact Json.numeric_string url

theorem Account.numeric_toJson (account : Account) : account.toJson.Numeric := by
  refine Json.numeric_object ?_
  simp [Json.numeric_string]

theorem Activity.numeric_members {activity : Activity} (time : Text)
    (h : ∀ attachment ∈ activity.attachments, ∀ content, attachment.content = some content →
      content.Numeric) : (Json.object (activity.members time)).Numeric := by
  have hconversation : (Json.object [("id", .string activity.conversation)]).Numeric :=
    Json.numeric_object (List.forall_mem_singleton.2 (Json.numeric_string _))
  have hoptional : ∀ entry ∈ optionalMember "attachments" (Attachment.toJson? activity.attachments) ++
      optionalMember "attachmentLayout" (activity.layout.map fun layout => .string layout.name),
      entry.2.Numeric := by
    refine List.forall_mem_append.2 ⟨numeric_optionalMember ?_, numeric_optionalMember ?_⟩
    · intro found hfound
      cases hattachments : activity.attachments with
      | nil =>
        rw [hattachments] at hfound
        cases hfound
      | cons first rest =>
        rw [hattachments] at hfound h
        cases hfound
        refine Json.numeric_array (List.forall_mem_map.2 ?_)
        exact fun attachment hmem => attachment.numeric_toJson (h attachment hmem)
    · intro found hfound
      obtain ⟨layout, -, rfl⟩ := Option.map_eq_some_iff.1 hfound
      exact Json.numeric_string _
  refine Json.numeric_object ?_
  simp only [members, List.forall_mem_cons]
  exact ⟨Json.numeric_string _, Json.numeric_string _, Account.numeric_toJson _,
    Account.numeric_toJson _, hconversation, Json.numeric_string _, Json.numeric_string _, hoptional⟩

/-- What is written for a transcript is read as its activities, each as reading leaves it. -/
theorem readAll?_writeAll? {style : Json.Style} (hstyle : style.Blank) {activities : List Activity}
    {text : Text} (h : ∀ activity ∈ activities, ∀ attachment ∈ activity.attachments,
      ∀ content, attachment.content = some content → content.Sorted ∧ content.Numeric)
    (hwritten : Activity.writeAll? style activities = some text) :
    Activity.readAll? text = activities.mapM Activity.reread? := by
  obtain ⟨records, hrecords, rfl⟩ := Option.map_eq_some_iff.1 hwritten
  have hpairs := mapM_eq_some_iff.1 hrecords
  have hnumeric : (Json.array records).Numeric := by
    refine Json.numeric_array ?_
    clear hrecords hwritten
    induction hpairs with
    | nil => exact List.forall_mem_nil _
    | cons hrecord _ ih =>
      obtain ⟨hfirst, hrest⟩ := List.forall_mem_cons.1 h
      obtain ⟨time, -, rfl⟩ := Activity.toJson?_eq_some_iff.1 hrecord
      refine List.forall_mem_cons.2 ⟨Activity.numeric_members time ?_, ih hrest⟩
      exact fun attachment hmem content hcontent => (hfirst attachment hmem content hcontent).2
  have houtline : Outline.read? false (Json.write style (.array records)) =
      .ok (.ofJson (.array records)) :=
    Outline.read?_write hstyle hnumeric (by simp)
  rw [Activity.readAll?, houtline]
  show (Outline.ofItems records).mapM Wire.activity? = _
  clear hnumeric houtline hrecords hwritten
  induction hpairs with
  | nil => rfl
  | cons hrecord _ ih =>
    obtain ⟨hfirst, hrest⟩ := List.forall_mem_cons.1 h
    have hread := Wire.activity?_toJson?
      (fun attachment hmem content hcontent => (hfirst attachment hmem content hcontent).1) hrecord
    rw [Outline.ofItems, List.mapM_cons, List.mapM_cons, hread, ih hrest]

end Colloquy
