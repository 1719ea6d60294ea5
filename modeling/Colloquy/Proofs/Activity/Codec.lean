import Colloquy.Proofs.Activity.Wire
import Colloquy.Proofs.Json.Canonical

/-!
# Transcripts and their texts

Writing and reading are inverse to each other but for one thing: a content that is null is read as
no content (`readAll?_inverts_writeAll?`). A transcript can be written if all its times can, and its
text is read as the transcript without those nulls if it nests no deeper than can be read. What is
read has no such null, only times that can be written and contents that fit in their place
(`legible_of_readAll?`), so it is written and read as it is.
-/

namespace Colloquy

open Json (Outline)

/-! ### Contents -/

/-- The contents of the attachments of some activities. -/
def Activity.contents (activities : List Activity) : List Json :=
  activities.flatMap fun activity => activity.attachments.filterMap Attachment.content

theorem Activity.mem_contents_iff {activities : List Activity} {content : Json} :
    content ∈ contents activities ↔ ∃ activity ∈ activities,
      ∃ attachment ∈ activity.attachments, attachment.content = some content := by
  simp only [contents, List.mem_flatMap, List.mem_filterMap]

theorem Activity.forall_mem_contents {activities : List Activity} {P : Json → Prop}
    (h : ∀ content ∈ contents activities, P content) :
    ∀ activity ∈ activities, ∀ attachment ∈ activity.attachments,
      ∀ content, attachment.content = some content → P content :=
  fun activity hactivity attachment hattachment content hcontent =>
    h content (mem_contents_iff.2 ⟨activity, hactivity, attachment, hattachment, hcontent⟩)

/-- The attachment without a content that is null. -/
def Attachment.withoutNull (attachment : Attachment) : Attachment :=
  { attachment with
    content := if attachment.content = some .null then none else attachment.content }

/-- The activity without contents that are null. -/
def Activity.withoutNulls (activity : Activity) : Activity :=
  { activity with attachments := activity.attachments.map Attachment.withoutNull }

/-- The content leaves room for the levels around it. -/
def Json.Fitting (content : Json) : Prop :=
  content.depth + Wire.levelsAround ≤ Outline.deepest

/-- The content is not null and leaves room for the levels around it. -/
def Json.Kept (content : Json) : Prop :=
  content ≠ .null ∧ content.depth + Wire.levelsAround ≤ Outline.deepest

theorem Attachment.reread?_of_fitting {attachment : Attachment}
    (h : ∀ content, attachment.content = some content → content.Fitting) :
    attachment.reread? = some attachment.withoutNull := by
  obtain ⟨type, url, content⟩ := attachment
  rw [reread?, withoutNull]
  cases content with
  | none => rfl
  | some content =>
    have hfits : content.depth + Wire.levelsAround ≤ Outline.deepest := h content rfl
    rw [Wire.reread?, if_pos hfits]
    by_cases hnull : content = .null
    · rw [if_pos hnull, if_pos (congrArg some hnull)]
      rfl
    · rw [if_neg hnull, if_neg fun heq => hnull (Option.some.inj heq)]
      rfl

/-- Contents that leave room are read again, except for nulls. -/
theorem Activity.reread?_of_fitting {activity : Activity}
    (h : ∀ attachment ∈ activity.attachments, ∀ content, attachment.content = some content →
      content.Fitting) : activity.reread? = some activity.withoutNulls := by
  have hattachments : activity.attachments.mapM Attachment.reread? =
      some (activity.attachments.map Attachment.withoutNull) := by
    rw [mapM_eq_some_iff, List.forall₂_map_right_iff, List.forall₂_same]
    exact fun attachment hmem => attachment.reread?_of_fitting (h attachment hmem)
  rw [reread?, hattachments]
  rfl

theorem Activity.withoutNulls_of_kept {activity : Activity}
    (h : ∀ attachment ∈ activity.attachments, ∀ content, attachment.content = some content →
      content.Kept) : activity.withoutNulls = activity := by
  have hsame : ∀ attachment ∈ activity.attachments, attachment.withoutNull = attachment := by
    intro attachment hmem
    have hne : attachment.content ≠ some .null := fun hnull => (h attachment hmem _ hnull).1 rfl
    rw [Attachment.withoutNull, if_neg hne]
  rw [withoutNulls, List.map_congr_left hsame, List.map_id']

theorem Activity.reread?_of_kept {activity : Activity}
    (h : ∀ attachment ∈ activity.attachments, ∀ content, attachment.content = some content →
      content.Kept) : activity.reread? = some activity := by
  have hfitting : ∀ attachment ∈ activity.attachments, ∀ content,
      attachment.content = some content → content.Fitting :=
    fun attachment hmem content hcontent => (h attachment hmem content hcontent).2
  rw [reread?_of_fitting hfitting, withoutNulls_of_kept h]

/-! ### Documents -/

/-- The content of an attachment stands one level within its record. -/
theorem Attachment.depth_content_le {attachment : Attachment} {content : Json}
    (hcontent : attachment.content = some content) {levels : Nat}
    (hdepth : attachment.toJson.depth ≤ levels + 1) : content.depth ≤ levels := by
  rw [toJson_eq, Json.depth_object_le_iff] at hdepth
  refine hdepth ("content", content) ?_
  simp [members, hcontent, optionalMember]

namespace Activity

variable {activities : List Activity}

/-- The value that is written for a transcript, if every time in it can be written. -/
def document? (activities : List Activity) : Option Json :=
  (activities.mapM toJson?).map .array

theorem writeAll?_eq (style : Json.Style) (activities : List Activity) :
    writeAll? style activities = (document? activities).map (Json.write style) := by
  rw [document?, Option.map_map]
  rfl

theorem exists_document?
    (htimes : ∀ activity ∈ activities, ∃ time, Time.Rfc3339.write? activity.time = some time) :
    ∃ document, document? activities = some document := by
  obtain ⟨records, hrecords⟩ : ∃ records, activities.mapM toJson? = some records := by
    refine exists_mapM fun activity hactivity => ?_
    obtain ⟨time, htime⟩ := htimes activity hactivity
    exact ⟨_, toJson?_eq_some_iff.2 ⟨time, htime, rfl⟩⟩
  exact ⟨_, Option.map_eq_some_iff.2 ⟨records, hrecords, rfl⟩⟩

/-- A transcript can be written if all its times can. -/
theorem exists_writeAll?_iff (style : Json.Style) :
    (∃ text, writeAll? style activities = some text) ↔
      ∀ activity ∈ activities, Time.Rfc3339.Writable activity.time := by
  constructor
  · rintro ⟨text, htext⟩ activity hactivity
    obtain ⟨records, hrecords, -⟩ := Option.map_eq_some_iff.1 htext
    obtain ⟨record, -, hrecord⟩ := exists_of_mapM hrecords hactivity
    obtain ⟨time, htime, -⟩ := toJson?_eq_some_iff.1 hrecord
    exact Time.Rfc3339.exists_write?_iff.1 ⟨time, htime⟩
  · intro htimes
    obtain ⟨document, hdocument⟩ := exists_document? fun activity hactivity =>
      Time.Rfc3339.exists_write?_iff.2 (htimes activity hactivity)
    refine ⟨document.write style, ?_⟩
    rw [writeAll?_eq, hdocument]
    rfl

/-- The attachments of an activity stand two levels within its record. -/
theorem depth_attachment_le {activity : Activity} {record : Json}
    (hrecord : activity.toJson? = some record) {attachment : Attachment}
    (hattachment : attachment ∈ activity.attachments) {levels : Nat}
    (hdepth : record.depth ≤ levels + 2) : attachment.toJson.depth ≤ levels := by
  obtain ⟨time, -, rfl⟩ := toJson?_eq_some_iff.1 hrecord
  rw [Json.depth_object_le_iff] at hdepth
  have hmem : (("attachments".toList, .array (activity.attachments.map Attachment.toJson)) :
      Text × Json) ∈ activity.members time := by
    cases hattachments : activity.attachments with
    | nil =>
      rw [hattachments] at hattachment
      cases hattachment
    | cons first rest => simp [members, hattachments, Attachment.toJson?, optionalMember]
  have harray := hdepth _ hmem
  rw [Json.depth_array_le_iff] at harray
  exact harray _ (List.mem_map_of_mem hattachment)

/-- The contents stand four levels within the document. -/
theorem fitting_of_document? {document : Json} (hdocument : document? activities = some document)
    (hdepth : document.depth ≤ Outline.deepest) :
    ∀ content ∈ contents activities, content.Fitting := by
  obtain ⟨records, hrecords, rfl⟩ := Option.map_eq_some_iff.1 hdocument
  have hrecord : ∀ record ∈ records, record.depth ≤ 123 + 1 + 2 := Json.depth_array_le_iff.1 hdepth
  intro content hcontent
  obtain ⟨activity, hactivity, attachment, hattachment, hcontent⟩ := mem_contents_iff.1 hcontent
  obtain ⟨record, hmem, hwritten⟩ := exists_of_mapM hrecords hactivity
  have hlevels := attachment.depth_content_le hcontent
    (depth_attachment_le hwritten hattachment (hrecord record hmem))
  exact Nat.add_le_add_right hlevels Wire.levelsAround

end Activity

/-! ### What is read -/

namespace Wire

variable {outline part : Outline}

theorem part_of_record? {names : List Text} {value : Text → Option Outline}
    (h : record? names outline = some value) {name : Text} (hpart : value name = some part) :
    Outline.Part part outline := by
  rw [record?.eq_def] at h
  split at h
  · cases h
  · split at h
    · cases h
      exact .item (List.mem_of_getElem? hpart) .self
    · cases h
  · simp only at h
    split at h
    · cases h
      obtain ⟨entry, hentry, rfl⟩ := Option.map_eq_some_iff.1 hpart
      exact .member (List.mem_filter.1 (List.mem_of_head? hentry)).1 .self
    · cases h

theorem exists_part_of_items? {α : Type} {item? : Outline → Option α} {found : List α}
    (h : items? item? outline = some found) :
    ∀ value ∈ found, ∃ part, Outline.Part part outline ∧ item? part = some value := by
  rw [items?.eq_def] at h
  split at h
  · intro value hvalue
    obtain ⟨item, hitem, hread⟩ := exists_of_mem_mapM h hvalue
    exact ⟨item, .item hitem .self, hread⟩
  · cases h

theorem eq_leaf_of_toJson?_null (h : outline.toJson? = some .null) : outline = .leaf (some .null) := by
  cases outline with
  | leaf value => rw [← h, Outline.toJson?]
  | array items =>
    obtain ⟨_, -, h⟩ := Option.map_eq_some_iff.1 h
    cases h
  | object members =>
    obtain ⟨_, -, h⟩ := Option.map_eq_some_iff.1 h
    cases h

/-- The content of an attachment that is read is the value of a part, which leaves room for the
levels around it, and is not null. -/
theorem exists_part_of_attachment? {attachment : Attachment}
    (h : attachment? outline = some attachment) {content : Json}
    (hcontent : attachment.content = some content) :
    content ≠ .null ∧ ∃ part, Outline.Part part outline ∧ part.toJson? = some content ∧
      part.depth + levelsAround ≤ Outline.deepest := by
  obtain ⟨value, hvalue, h⟩ := Option.bind_eq_some_iff.1 h
  obtain ⟨type, -, h⟩ := Option.bind_eq_some_iff.1 h
  obtain ⟨url, -, h⟩ := Option.bind_eq_some_iff.1 h
  obtain ⟨found, hfound, h⟩ := Option.bind_eq_some_iff.1 h
  cases h
  obtain rfl : found = some content := hcontent
  rw [optional?.eq_def] at hfound
  split at hfound
  · cases hfound
  · cases hfound
  · rename_i part hnull hpart
    obtain ⟨other, hread, hother⟩ := Option.map_eq_some_iff.1 hfound
    obtain rfl : other = content := Option.some.inj hother
    rw [content?] at hread
    split at hread
    · rename_i hdepth
      refine ⟨?_, part, part_of_record? hvalue hpart, hread, hdepth⟩
      rintro rfl
      exact hnull (eq_leaf_of_toJson?_null hread)
    · cases hread

/-- The times of what is read can be written, and the contents are kept in their place. -/
theorem legible_of_activity? {text : Text} (htext : Outline.read? false text = .ok outline)
    (hpart : Outline.Part part outline) {activity : Activity} (h : activity? part = some activity) :
    Time.Rfc3339.Writable activity.time ∧ ∀ attachment ∈ activity.attachments,
      ∀ content, attachment.content = some content → content.Canonical ∧ content.Kept := by
  obtain ⟨value, hvalue, h⟩ := Option.bind_eq_some_iff.1 h
  obtain ⟨id, -, h⟩ := Option.bind_eq_some_iff.1 h
  obtain ⟨kind, -, h⟩ := Option.bind_eq_some_iff.1 h
  obtain ⟨sender, -, h⟩ := Option.bind_eq_some_iff.1 h
  obtain ⟨recipient, -, h⟩ := Option.bind_eq_some_iff.1 h
  obtain ⟨conversation, -, h⟩ := Option.bind_eq_some_iff.1 h
  obtain ⟨time, htime, h⟩ := Option.bind_eq_some_iff.1 h
  obtain ⟨line, -, h⟩ := Option.bind_eq_some_iff.1 h
  obtain ⟨attachments, hattachments, h⟩ := Option.bind_eq_some_iff.1 h
  obtain ⟨layout, -, h⟩ := Option.bind_eq_some_iff.1 h
  cases h
  constructor
  · obtain ⟨source, -, htime⟩ := Option.bind_eq_some_iff.1 htime
    obtain ⟨stamp, -, htime⟩ := Option.bind_eq_some_iff.1 htime
    exact Time.Rfc3339.writable_of_read? htime
  · intro attachment hattachment content hcontent
    cases hsource : value "attachments" with
    | none =>
      rw [hsource] at hattachments
      cases hattachments
      cases hattachment
    | some source =>
      rw [hsource] at hattachments
      have hsource := (part_of_record? hvalue hsource).trans hpart
      obtain ⟨record, hrecord, hread⟩ := exists_part_of_items? hattachments attachment hattachment
      obtain ⟨hnull, place, hplace, hcontent, hdepth⟩ := exists_part_of_attachment? hread hcontent
      have hplace := hplace.trans (hrecord.trans hsource)
      refine ⟨Outline.yields_of_read? htext hplace content hcontent, hnull, ?_⟩
      exact le_trans
        (Nat.add_le_add_right (Outline.bounds_of_read? htext hplace content hcontent) _) hdepth

end Wire

namespace Activity

variable {activities : List Activity} {text : Text}

/-- What is read can be written, and nothing in it is lost by that. -/
theorem legible_of_readAll? (h : readAll? text = some activities) :
    (∀ activity ∈ activities, Time.Rfc3339.Writable activity.time) ∧
      ∀ content ∈ contents activities, content.Canonical ∧ content.Kept := by
  obtain ⟨outline, houtline, h⟩ := Option.bind_eq_some_iff.1 h
  have houtline : Outline.read? false text = .ok outline := by
    cases hread : Outline.read? false text with
    | error fault =>
      rw [hread] at houtline
      cases houtline
    | ok found =>
      rw [hread] at houtline
      cases houtline
      rfl
  constructor
  · intro activity hactivity
    obtain ⟨part, hpart, hread⟩ := Wire.exists_part_of_items? h activity hactivity
    exact (Wire.legible_of_activity? houtline hpart hread).1
  · intro content hcontent
    obtain ⟨activity, hactivity, attachment, hattachment, hcontent⟩ := mem_contents_iff.1 hcontent
    obtain ⟨part, hpart, hread⟩ := Wire.exists_part_of_items? h activity hactivity
    exact (Wire.legible_of_activity? houtline hpart hread).2 attachment hattachment content hcontent

/-! ### There and back -/

/-- Values as a reader makes them are read as `reread?` says. -/
theorem readAll?_writeAll?_of_canonical {style : Json.Style} (hstyle : style.Blank)
    (hcontents : ∀ content ∈ contents activities, content.Canonical)
    (hdoubles : ∀ content ∈ contents activities, ∀ x, Json.Part (.real x) content → x.ReadsBack)
    (hwritten : writeAll? style activities = some text) :
    readAll? text = activities.mapM reread? := by
  refine readAll?_writeAll? hstyle (forall_mem_contents fun content hcontent => ?_) hwritten
  have hcanonical := hcontents content hcontent
  exact ⟨hcanonical.sorted, hcanonical.fits, hdoubles content hcontent⟩

theorem mapM_reread?_of_fitting (h : ∀ content ∈ contents activities, content.Fitting) :
    activities.mapM reread? = some (activities.map withoutNulls) := by
  rw [mapM_eq_some_iff, List.forall₂_map_right_iff, List.forall₂_same]
  exact fun activity hactivity => reread?_of_fitting (forall_mem_contents h activity hactivity)

theorem mapM_reread?_of_kept (h : ∀ content ∈ contents activities, content.Kept) :
    activities.mapM reread? = some activities :=
  mapM_eq_self fun activity hactivity => reread?_of_kept (forall_mem_contents h activity hactivity)

/-- Activities whose times can be written, and whose contents are values as a reader makes them,
are written; from a text of fewer than 128 levels they are read as they were, but for contents that
are null. What is read is written, and read from that as it is. -/
theorem readAll?_inverts_writeAll? :
    (∀ activities : List Activity,
      (∀ activity ∈ activities, Time.Rfc3339.Writable activity.time) →
      (∀ content ∈ contents activities, content.Canonical) →
      (∀ content ∈ contents activities, ∀ x, Json.Part (.real x) content → x.ReadsBack) →
      ∃ document, document? activities = some document ∧
        ∀ style ∈ [Json.Style.compact, .pretty],
          writeAll? style activities = some (document.write style) ∧
            (document.depth < 128 →
              readAll? (document.write style) = some (activities.map withoutNulls))) ∧
    ∀ (text : Text) (activities : List Activity), readAll? text = some activities →
      ∀ style ∈ [Json.Style.compact, .pretty],
        ∃ written, writeAll? style activities = some written ∧
          ((∀ content ∈ contents activities, ∀ x, Json.Part (.real x) content → x.ReadsBack) →
            readAll? written = some activities) := by
  have hblank : ∀ style ∈ [Json.Style.compact, .pretty], style.Blank := by
    simp [Json.Style.blank_compact, Json.Style.blank_pretty]
  constructor
  · intro activities htimes hcontents hdoubles
    obtain ⟨document, hdocument⟩ := exists_document? fun activity hactivity =>
      Time.Rfc3339.exists_write?_iff.2 (htimes activity hactivity)
    refine ⟨document, hdocument, fun style hstyle => ?_⟩
    have hwritten : writeAll? style activities = some (document.write style) := by
      rw [writeAll?_eq, hdocument]
      rfl
    refine ⟨hwritten, fun hdepth => ?_⟩
    rw [readAll?_writeAll?_of_canonical (hblank style hstyle) hcontents hdoubles hwritten]
    exact mapM_reread?_of_fitting (fitting_of_document? hdocument (Nat.le_of_lt_succ hdepth))
  · intro text activities hread style hstyle
    obtain ⟨htimes, hcontents⟩ := legible_of_readAll? hread
    obtain ⟨written, hwritten⟩ := (exists_writeAll?_iff style).2 htimes
    refine ⟨written, hwritten, fun hdoubles => ?_⟩
    rw [readAll?_writeAll?_of_canonical (hblank style hstyle)
      (fun content hcontent => (hcontents content hcontent).1) hdoubles hwritten]
    exact mapM_reread?_of_kept fun content hcontent => (hcontents content hcontent).2

/-- A message with a time of another zone, whose attachments hold values of all kinds. -/
def keepsake : Activity where
  id := "a0"
  kind := .message
  sender := ⟨"1", "Zoe", .user⟩
  recipient := ⟨"2", "Sam \"é\"", .bot⟩
  conversation := ""
  time := ⟨63870000000123456700, 19800⟩
  text := []
  attachments := [
    ⟨"text/plain", some "https://example.com", some .null⟩,
    ⟨"application/json", none, some (.object [
      ("half", .real ⟨false, 6755399441055744, -52⟩), ("list", .array [.int (-7), .null])])⟩]
  layout := some .carousel

/-- It is read as it was but for the null, and read so again. -/
theorem readAll?_inverts_writeAll?_keepsake :
    ∃ text, writeAll? .pretty [keepsake] = some text ∧
      readAll? text = some [keepsake.withoutNulls] ∧
      ∃ written, writeAll? .compact [keepsake.withoutNulls] = some written ∧
        readAll? written = some [keepsake.withoutNulls] := by
  have hcontents : contents [keepsake] = [.null, .object [
      ("half".toList, .real ⟨false, 6755399441055744, -52⟩),
      ("list".toList, .array [.int (-7), .null])]] := by
    decide +kernel
  have hcanonical : ∀ content ∈ contents [keepsake], content.Canonical := by
    rw [hcontents, List.forall_mem_cons, List.forall_mem_singleton]
    refine ⟨Json.canonical_of_simple _ trivial, Json.canonical_object ?_ ?_⟩
    · exact List.pairwise_pair.2 (Text.precedes_iff.1 rfl)
    · rw [List.forall_mem_cons, List.forall_mem_singleton]
      refine ⟨Json.canonical_of_simple _ trivial, Json.canonical_array ?_⟩
      rw [List.forall_mem_cons, List.forall_mem_singleton]
      exact ⟨Json.canonical_of_simple _ ⟨by decide, by decide⟩, Json.canonical_of_simple _ trivial⟩
  have hdoubles : ∀ content ∈ contents [keepsake], ∀ x, Json.Part (.real x) content →
      x.ReadsBack := by
    rw [hcontents, List.forall_mem_cons, List.forall_mem_singleton]
    refine ⟨by rintro x ⟨⟩, ?_⟩
    rintro x (_ | _ | ⟨hentry, hpart⟩)
    rcases List.mem_pair.1 hentry with rfl | rfl
    · cases hpart
      rfl
    · obtain _ | ⟨hitem, hpart⟩ := hpart
      rcases List.mem_pair.1 hitem with rfl | rfl <;> cases hpart
  have hlater : ∀ content ∈ contents [keepsake.withoutNulls], content ∈ contents [keepsake] := by
    decide +kernel
  obtain ⟨document, hdocument, hwriting⟩ := readAll?_inverts_writeAll?.1 [keepsake]
    (by decide +kernel) hcanonical hdoubles
  have hdepth : (document? [keepsake]).map Json.depth = some 6 := by decide +kernel
  rw [hdocument, Option.map_some, Option.some_inj] at hdepth
  obtain ⟨hwritten, hread⟩ := hwriting .pretty (by simp)
  have hread := hread (by omega)
  obtain ⟨written, hrewritten, hreread⟩ := readAll?_inverts_writeAll?.2 _ _ hread .compact (by simp)
  refine ⟨_, hwritten, hread, written, hrewritten, hreread ?_⟩
  exact fun content hcontent => hdoubles content (hlater content hcontent)

end Activity

end Colloquy
