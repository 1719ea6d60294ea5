import Colloquy.Activity.Problem
import Colloquy.Proofs.Activity.Codec
import Colloquy.Proofs.Attachment.Content
import Colloquy.Proofs.Session.Attachment

/-!
# Transcripts of scripts read back

The transcript of a script is read back from its text as it was, provided that no content of an
attachment is null and none nests too deep; in either of these cases reading fails or gives a
transcript with other problems, since an attachment has lost its only payload
(`readAll?_writeAll?_ofScript`). This happens (`not_readAll?_writeAll?_ofScript`): a file that holds
`null` is a content.
-/

namespace Colloquy

open Json (Outline)

/-! ### Flaws among the problems -/

/-- The flaw of an attachment that a problem is about. -/
def Problem.flaw? : Problem → Option Attachment.Flaw
  | .attachment _ _ flaw => some flaw
  | _ => none

/-- The flaws of an activity's attachments. -/
def Activity.flaws (activity : Activity) : List Attachment.Flaw :=
  activity.attachments.flatMap Attachment.flaws

theorem Attachment.filterMap_flaw?_problems (id : Text) (place : Nat)
    (attachments : List Attachment) :
    (Attachment.problems id place attachments).filterMap Problem.flaw? =
      attachments.flatMap Attachment.flaws := by
  induction attachments generalizing place with
  | nil => rfl
  | cons attachment rest ih =>
    rw [Attachment.problems, List.filterMap_append, ih, List.filterMap_map, List.flatMap_cons]
    congr 1
    exact List.filterMap_some

namespace Activity

theorem filterMap_flaw?_problemsAfter (conversation : Text) (previous : Option Activity)
    (activity : Activity) :
    (problemsAfter conversation previous activity).filterMap Problem.flaw? = activity.flaws := by
  have hif : ∀ (condition : Prop) [Decidable condition] (problem : Problem),
      problem.flaw? = none →
        (if condition then [problem] else []).filterMap Problem.flaw? = [] := by
    intro condition _ problem hproblem
    split_ifs <;> simp [hproblem]
  rw [problemsAfter.eq_def, List.filterMap_append, List.filterMap_append, List.filterMap_append,
    List.filterMap_append, hif _ _ rfl, hif _ _ rfl, hif _ _ rfl,
    Attachment.filterMap_flaw?_problems]
  cases previous with
  | none => rfl
  | some before =>
    rw [hif _ _ rfl]
    rfl

theorem filterMap_flaw?_problemsFrom (conversation : Text) (previous : Option Activity)
    (activities : List Activity) :
    (problemsFrom conversation previous activities).filterMap Problem.flaw? =
      activities.flatMap flaws := by
  induction activities generalizing previous with
  | nil => rfl
  | cons activity rest ih =>
    rw [problemsFrom, List.filterMap_append, filterMap_flaw?_problemsAfter, ih, List.flatMap_cons]

/-- The problems of a transcript tell the flaws of its attachments in their order. -/
theorem filterMap_flaw?_problems (activities : List Activity) :
    (problems activities).filterMap Problem.flaw? = activities.flatMap flaws := by
  have hids : ∀ ids : List Text, (ids.map Problem.repeatedId).filterMap Problem.flaw? = [] := by
    intro ids
    rw [List.filterMap_map]
    exact List.filterMap_eq_nil_iff.2 fun _ _ => rfl
  rw [problems.eq_def, List.filterMap_append, hids]
  cases activities with
  | nil => rfl
  | cons first rest => exact filterMap_flaw?_problemsFrom _ _ _

end Activity

theorem Attachment.noPayload_mem_flaws_iff {attachment : Attachment} :
    Flaw.noPayload ∈ attachment.flaws ↔
      attachment.contentUrl = none ∧ attachment.content = none := by
  obtain ⟨type, url, content⟩ := attachment
  rw [flaws]
  cases url <;> cases content <;> split_ifs <;> simp

/-! ### What is kept -/

/-- The contents of the attachments of a transcript. -/
def Transcript.contents (transcript : Transcript) : List Json :=
  transcript.activities.flatMap fun activity => activity.attachments.filterMap Attachment.content

theorem Transcript.mem_contents_iff {transcript : Transcript} {content : Json} :
    content ∈ transcript.contents ↔ ∃ activity ∈ transcript.activities,
      ∃ attachment ∈ activity.attachments, attachment.content = some content :=
  Activity.mem_contents_iff

/-- An attachment whose only payload is a content that is not kept cannot be read, or has no
payload afterwards. -/
theorem Attachment.noPayload_of_reread? {attachment back : Attachment} {content : Json}
    (hplaced : attachment.Placed) (hcontent : attachment.content = some content)
    (hback : attachment.reread? = some back) (hlost : ¬ content.Kept) :
    Flaw.noPayload ∈ back.flaws := by
  rw [Attachment.reread?, hcontent, Wire.reread?] at hback
  split_ifs at hback with hdepth hnull
  · cases hback
    rw [noPayload_mem_flaws_iff]
    exact ⟨hplaced.contentUrl_eq_none hcontent, rfl⟩
  · exact absurd ⟨hnull, hdepth⟩ hlost
  · cases hback

namespace Activity

variable {activities back : List Activity}

/-- If reading changes none of the problems, it has lost no payload: the flaw would be among the
problems afterwards, and no attachment had it before. -/
theorem kept_of_reread?
    (hplaced : ∀ activity ∈ activities, ∀ attachment ∈ activity.attachments, attachment.Placed)
    (hback : activities.mapM reread? = some back) (hproblems : problems back = problems activities) :
    ∀ activity ∈ activities, ∀ attachment ∈ activity.attachments,
      ∀ content, attachment.content = some content → content.Kept := by
  intro activity hactivity attachment hattachment content hcontent
  by_contra hlost
  obtain ⟨later, hlater, hreread⟩ := exists_of_mapM hback hactivity
  obtain ⟨attachments, hattachments, rfl⟩ := Option.map_eq_some_iff.1 hreread
  obtain ⟨emptied, hemptied, hemptying⟩ := exists_of_mapM hattachments hattachment
  have hflaw := Attachment.noPayload_of_reread?
    (hplaced activity hactivity attachment hattachment) hcontent hemptying hlost
  have hsame : back.flatMap flaws = activities.flatMap flaws := by
    rw [← filterMap_flaw?_problems, hproblems, filterMap_flaw?_problems]
  have hafter : .noPayload ∈ back.flatMap flaws :=
    List.mem_flatMap.2 ⟨_, hlater, List.mem_flatMap.2 ⟨emptied, hemptied, hflaw⟩⟩
  rw [hsame] at hafter
  obtain ⟨other, hother, hbefore⟩ := List.mem_flatMap.1 hafter
  obtain ⟨bare, hbare, hbefore⟩ := List.mem_flatMap.1 hbefore
  exact (hplaced other hother bare hbare).not_bare (Attachment.noPayload_mem_flaws_iff.1 hbefore)

end Activity

/-! ### Scripts -/

/-- A transcript whose times can be written and whose doubles are read as they are written can be
read back with the same problems exactly if all contents are kept, and then it is read back as it
was. -/
theorem readAll?_writeAll?_ofScript {world : World} {options : Options} {source : Text}
    {transcript : Transcript} {style : Json.Style} (hstyle : style.Blank)
    (hscript : Transcript.ofScript world options source = .ok transcript)
    (htimes : ∀ activity ∈ transcript.activities, ∃ time,
      Time.Rfc3339.write? activity.time = some time)
    (hdoubles : ∀ content ∈ transcript.contents, ∀ x, Json.Part (.real x) content → x.ReadsBack) :
    ∃ text, Activity.writeAll? style transcript.activities = some text ∧
      ((∃ back, Activity.readAll? text = some back ∧
          Activity.problems back = Activity.problems transcript.activities) ↔
        ∀ content ∈ transcript.contents, content.Kept) ∧
      ((∀ content ∈ transcript.contents, content.Kept) →
        Activity.readAll? text = some transcript.activities) := by
  have hplaced := forall_attachments_ofScript
    (fun _ _ hresolve => Attachment.placed_resolve hresolve) hscript
  have hcontents : ∀ activity ∈ transcript.activities, ∀ attachment ∈ activity.attachments,
      ∀ content, attachment.content = some content → content.Sorted ∧ content.Numeric := by
    intro activity hactivity attachment hattachment content hcontent
    have hcanonical := (hplaced activity hactivity attachment hattachment).canonical hcontent
    have hmem := Transcript.mem_contents_iff.2
      ⟨activity, hactivity, attachment, hattachment, hcontent⟩
    exact ⟨hcanonical.sorted, hcanonical.fits, hdoubles content hmem⟩
  obtain ⟨text, hwritten⟩ := (Activity.exists_writeAll?_iff style).2 fun activity hactivity =>
    Time.Rfc3339.exists_write?_iff.1 (htimes activity hactivity)
  have hread := readAll?_writeAll? hstyle hcontents hwritten
  have hkeep : (∀ content ∈ transcript.contents, content.Kept) →
      Activity.readAll? text = some transcript.activities := by
    intro hkept
    rw [hread]
    refine mapM_eq_self fun activity hactivity => Activity.reread?_of_kept ?_
    intro attachment hattachment content hcontent
    exact hkept content
      (Transcript.mem_contents_iff.2 ⟨activity, hactivity, attachment, hattachment, hcontent⟩)
  refine ⟨text, hwritten, ⟨?_, fun hkept => ⟨_, hkeep hkept, rfl⟩⟩, hkeep⟩
  rintro ⟨back, hback, hproblems⟩ content hmem
  obtain ⟨activity, hactivity, attachment, hattachment, hcontent⟩ :=
    Transcript.mem_contents_iff.1 hmem
  rw [hread] at hback
  exact Activity.kept_of_reread? hplaced hback hproblems activity hactivity attachment hattachment
    content hcontent

/-- The bare world with one file, which holds a text. -/
def World.holding (text : Text) : World :=
  { World.bare with
    files := ⟨[], fun place =>
      if place = [] then some .directory
      else if place = ["note.json"] then some (.file (Utf8.encode text))
      else none⟩ }

/-- A script of one turn, to which the file is attached. -/
def remark : Text := "Zoe: see [attachment=note.json]"

theorem exists_ofScript_remark (text : Text) (contents : List Json)
    (h : (Transcript.ofScript (.holding text) .named remark).toOption.map (fun transcript =>
      (transcript.contents, transcript.activities.all fun activity =>
        (Time.Rfc3339.write? activity.time).isSome)) = some (contents, true)) :
    ∃ transcript, Transcript.ofScript (.holding text) .named remark = .ok transcript ∧
      transcript.contents = contents ∧
      ∀ activity ∈ transcript.activities, ∃ time,
        Time.Rfc3339.write? activity.time = some time := by
  cases hscript : Transcript.ofScript (.holding text) .named remark with
  | error cause =>
    rw [hscript] at h
    cases h
  | ok transcript =>
    rw [hscript] at h
    obtain ⟨hcontents, htimes⟩ := Prod.mk.inj (Option.some.inj h)
    refine ⟨transcript, rfl, hcontents, ?_⟩
    intro activity hactivity
    exact Option.isSome_iff_exists.1 (List.all_eq_true.1 htimes activity hactivity)

/-- A file with a double and an integer is read back with the transcript. -/
theorem readAll?_writeAll?_ofScript_remark :
    ∃ transcript text, Transcript.ofScript (.holding "[1.5, 7]") .named remark = .ok transcript ∧
      Activity.writeAll? .pretty transcript.activities = some text ∧
      Activity.readAll? text = some transcript.activities := by
  obtain ⟨transcript, hscript, hcontents, htimes⟩ := exists_ofScript_remark "[1.5, 7]"
    [.array [.real ⟨false, 6755399441055744, -52⟩, .int 7]] (by decide +kernel)
  have hdoubles : ∀ content ∈ transcript.contents, ∀ x, Json.Part (.real x) content →
      x.ReadsBack := by
    intro content hmem x hpart
    rw [hcontents, List.mem_singleton] at hmem
    rw [hmem] at hpart
    obtain _ | ⟨hitem, hpart⟩ := hpart
    rcases List.mem_pair.1 hitem with rfl | rfl
    · cases hpart
      rfl
    · cases hpart
  obtain ⟨text, hwritten, -, hkeep⟩ :=
    readAll?_writeAll?_ofScript Json.Style.blank_pretty hscript htimes hdoubles
  refine ⟨transcript, text, hscript, hwritten, hkeep ?_⟩
  rw [hcontents]
  refine List.forall_mem_singleton.2 ⟨by simp, by decide⟩

/-- A file that holds null is not read back with the transcript: the attachment has lost its
payload. -/
theorem not_readAll?_writeAll?_ofScript :
    ¬ ∀ (world : World) (options : Options) (source : Text) (transcript : Transcript)
        (style : Json.Style), style.Blank →
        Transcript.ofScript world options source = .ok transcript →
        (∀ activity ∈ transcript.activities, ∃ time,
          Time.Rfc3339.write? activity.time = some time) →
        (∀ content ∈ transcript.contents, ∀ x, Json.Part (.real x) content → x.ReadsBack) →
        ∃ text back, Activity.writeAll? style transcript.activities = some text ∧
          Activity.readAll? text = some back ∧
          Activity.problems back = Activity.problems transcript.activities := by
  intro hall
  obtain ⟨transcript, hscript, hcontents, htimes⟩ := exists_ofScript_remark "null" [.null]
    (by decide +kernel)
  have hdoubles : ∀ content ∈ transcript.contents, ∀ x, Json.Part (.real x) content →
      x.ReadsBack := by
    intro content hmem x hpart
    rw [hcontents, List.mem_singleton] at hmem
    rw [hmem] at hpart
    cases hpart
  obtain ⟨text, back, hwritten, hread, hproblems⟩ :=
    hall _ _ _ transcript .compact Json.Style.blank_compact hscript htimes hdoubles
  have hdiffer : (Transcript.ofScript (.holding "null") .named remark).toOption.bind
      (fun transcript => (Activity.writeAll? .compact transcript.activities).bind fun text =>
        (Activity.readAll? text).map fun back =>
          decide (Activity.problems back = Activity.problems transcript.activities)) =
      some false := by
    decide +kernel
  rw [hscript] at hdiffer
  simp [Except.toOption, hwritten, hread, hproblems] at hdiffer

end Colloquy
