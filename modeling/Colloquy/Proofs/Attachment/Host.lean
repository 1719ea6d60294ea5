import Colloquy.Proofs.Attachment.Dependence
import Colloquy.Proofs.Text.Folding

/-!
# Hosts as file names

The type of a remote attachment is looked up by the ending of its URL as if it were a path. A URL of
a host alone has the host for its last name, so what follows the last dot of the host is taken for
an extension (`Path.extension?_host`). `resolve_host` says for which hosts the probe is asked, whatever
extensions are known, and `not_resolve_host` that it is not asked about `http://example.com` where
`com` is known to be one.
-/

namespace Colloquy

variable {lead host : Text}

namespace Path

/-- The text is `http://` or `https://`, in letters of either case. -/
def IsLead (lead : Text) : Prop :=
  Text.lowerAscii lead = "http://" ∨ Text.lowerAscii lead = "https://"

/-- A lead is the name of a scheme with a colon, and two slashes. -/
theorem IsLead.exists_scheme (h : IsLead lead) :
    ∃ scheme, lead = scheme ++ ['/', '/'] ∧ scheme ≠ [] ∧ '/' ∉ scheme ∧ '.' ∉ scheme := by
  have hlead : ∃ word : Text, (word = "http:" ∨ word = "https:") ∧
      Text.lowerAscii lead = word ++ ['/', '/'] := by
    rcases h with h | h
    · exact ⟨_, .inl rfl, h⟩
    · exact ⟨_, .inr rfl, h⟩
  obtain ⟨word, hword, hlower⟩ := hlead
  obtain ⟨scheme, slashes, rfl, hscheme, hslashes⟩ := List.map_eq_append_iff.1 hlower
  have hslash : ∀ c : Char, Text.lowerAsciiChar c = '/' → c = '/' := fun c =>
    (Text.lowerAsciiChar_eq_iff (.inl (by decide))).1
  obtain ⟨c, more, rfl, hc, hmore⟩ := List.map_eq_cons_iff.1 hslashes
  obtain ⟨d, last, rfl, hd, hlast⟩ := List.map_eq_cons_iff.1 hmore
  rw [List.map_eq_nil_iff] at hlast
  rw [hslash c hc, hslash d hd, hlast]
  refine ⟨scheme, rfl, ?_, ?_, ?_⟩
  · rintro rfl
    rcases hword with rfl | rfl <;> cases hscheme
  · rw [← @Text.mem_lowerAscii_iff _ '/' (by decide), Text.lowerAscii, hscheme]
    rcases hword with rfl | rfl <;> decide
  · rw [← @Text.mem_lowerAscii_iff _ '.' (by decide), Text.lowerAscii, hscheme]
    rcases hword with rfl | rfl <;> decide

theorem extensionOfName?_of_notMem {name : Text} (h : '.' ∉ name) :
    extensionOfName? name = none := by
  have hall : name.reverse.takeWhile (· ≠ '.') = name.reverse := by
    rw [List.takeWhile_eq_self_iff]
    intro c hc
    simp only [ne_eq, decide_eq_true_eq]
    rintro rfl
    exact h (List.mem_reverse.1 hc)
  rw [extensionOfName?, hall, List.reverse_reverse]
  simp

theorem parts_of_scheme {scheme : Text} (hne : scheme ≠ []) (hslash : '/' ∉ scheme)
    (hdot : '.' ∉ scheme) (hhost : '/' ∉ host) :
    parts (scheme ++ ['/', '/'] ++ host) = dropIdle [scheme, [], host] := by
  have hpieces : Text.pieces '/' (scheme ++ ['/', '/'] ++ host) = [scheme, [], host] := by
    have hcut : scheme ++ ['/', '/'] ++ host = scheme ++ '/' :: ([] ++ '/' :: host) := by simp
    rw [hcut, Text.pieces_append, Text.pieces_append, Text.pieces_of_notMem hslash,
      Text.pieces_of_notMem hhost]
    rfl
  have habsolute : isAbsolute (scheme ++ ['/', '/'] ++ host) = false := by
    cases scheme with
    | nil => exact absurd rfl hne
    | cons c rest =>
      have hc : c ≠ '/' := fun h => hslash (h ▸ List.mem_cons_self ..)
      simp [isAbsolute, hc]
  rw [parts, habsolute, hpieces]
  simp only [Bool.false_eq_true, if_false]
  split
  · rename_i hsplit
    obtain ⟨rfl, -⟩ := List.cons.inj hsplit
    exact absurd (List.mem_singleton.2 rfl) hdot
  · rfl

/-- The last name of a URL without a path is its host. -/
theorem extension?_host (hlead : IsLead lead) (hhost : '/' ∉ host) :
    extension? (lead ++ host) = extensionOfName? host := by
  obtain ⟨scheme, rfl, hne, hslash, hdot⟩ := hlead.exists_scheme
  have hscheme : scheme ≠ ['.'] := by
    rintro rfl
    exact hdot (List.mem_singleton.2 rfl)
  have hreverse : [scheme, [], host].reverse = [host, [], scheme] := rfl
  rw [extension?, parts_of_scheme hne hslash hdot hhost, dropIdle, hreverse]
  by_cases hidle : host = [] ∨ host = ['.']
  · -- The scheme is the last name then, and it has no ending either.
    have hkept : [host, [], scheme].dropWhile (fun part => part == [] || part == ['.']) =
        [scheme] := by
      rcases hidle with rfl | rfl <;> simp [hne, hscheme]
    have hnone : extensionOfName? host = none := by
      rcases hidle with rfl | rfl <;> decide
    rw [hkept, hnone]
    exact extensionOfName?_of_notMem hdot
  · rw [not_or] at hidle
    have hkept : [host, [], scheme].dropWhile (fun part => part == [] || part == ['.']) =
        [host, [], scheme] := by
      simp [hidle]
    rw [hkept]
    rfl

end Path

namespace MediaType

/-- The type that the host of a URL is taken for: that of an extension, or a card by its short
name. -/
def Table.ofHost? (types : Table) (host : Text) : Option Text :=
  (Path.extensionOfName? host).bind fun ending => (types.ofExtension? ending).or (ofCard? ending)

variable (types : Table)

theorem Table.ofLocator?_host (hlead : Path.IsLead lead) (hhost : '/' ∉ host) :
    types.ofLocator? (lead ++ host) = types.ofHost? host := by
  rw [ofLocator?, Path.extension?_host hlead hhost]
  rfl

/-- A host without a dot is not taken for a file name. -/
theorem Table.ofHost?_of_notMem (h : '.' ∉ host) : types.ofHost? host = none := by
  rw [ofHost?, Path.extensionOfName?_of_notMem h]
  rfl

theorem isRemote_append (hlead : Path.IsLead lead) (host : Text) :
    isRemote (lead ++ host) = true := by
  rw [isRemote, Text.lowerAscii_append]
  rcases hlead with h | h
  · simp only [h, List.isPrefixOf_iff_prefix, List.prefix_append, Bool.or_eq_true, true_or]
  · simp only [h, List.isPrefixOf_iff_prefix, List.prefix_append, Bool.or_eq_true, or_true]

end MediaType

namespace Attachment

/-- What a remote attachment is if the probe decides on its type. -/
def answered (around : Surroundings) (locator : Text) : Except AttachmentError Attachment :=
  match around.probe locator with
  | .ok type => .ok (ofUrl type locator)
  | .error reason => .error (.unknownType locator reason)

/-- For a URL of a host alone the probe is asked, and its answer is the type, exactly if the last
label of the host is neither a known extension nor the short name of a card; otherwise the type is
what the label stands for, and nothing is asked. -/
theorem resolve_host {argument : Text} (hwords : Text.words argument = [lead ++ host])
    (hlead : Path.IsLead lead) (hhost : '/' ∉ host) (around : Surroundings) :
    (around.types.ofHost? host = none →
        asked around argument = [lead ++ host] ∧
          resolve around argument = answered around (lead ++ host)) ∧
      (∀ type, around.types.ofHost? host = some type →
        asked around argument = [] ∧
          resolve around argument = .ok (ofUrl type (lead ++ host))) ∧
      ('.' ∉ host → around.types.ofHost? host = none) := by
  have hremote := MediaType.isRemote_append hlead host
  have hlocator := around.types.ofLocator?_host hlead hhost
  rw [asked_of_words around hwords, resolve_remote hwords hremote]
  refine ⟨?_, ?_, around.types.ofHost?_of_notMem⟩
  · intro hnone
    rw [hnone] at hlocator
    have htype : typeOf around (lead ++ host) none =
        (around.probe (lead ++ host)).mapError (.unknownType (lead ++ host)) := by
      simp only [typeOf, hlocator, hremote, if_true]
    refine ⟨by simp [question?, hlocator, hremote], ?_⟩
    show (typeOf around (lead ++ host) none).map _ = _
    rw [htype, answered]
    cases around.probe (lead ++ host) <;> rfl
  · intro type hsome
    rw [hsome] at hlocator
    have htype : typeOf around (lead ++ host) none = .ok type := by
      simp only [typeOf, hlocator]
    refine ⟨by simp [question?, hlocator], ?_⟩
    show (typeOf around (lead ++ host) none).map _ = _
    rw [htype]
    rfl

/-- The type of `https://localhost` is asked for, and `https://my.video` is taken for a card. -/
theorem resolve_host_named :
    asked (desk "one" fun _ => .ok "text/html") "HTTPS://localhost" = ["HTTPS://localhost"] ∧
      resolve (desk "one" fun _ => .ok "text/html") "HTTPS://localhost" =
        .ok (ofUrl "text/html" "HTTPS://localhost") ∧
      asked (desk "one" fun _ => .ok "text/html") "https://my.video" = [] := by
  have hlocalhost : Text.words "HTTPS://localhost" = ["HTTPS://".toList ++ "localhost".toList] := by
    decide
  have hlocal := resolve_host hlocalhost (.inr (by decide)) (by decide)
    (desk "one" fun _ => .ok "text/html")
  have hmyVideo : Text.words "https://my.video" = ["https://".toList ++ "my.video".toList] := by
    decide
  have hvideo := resolve_host hmyVideo (.inr (by decide)) (by decide)
    (desk "one" fun _ => .ok "text/html")
  have hasked := hlocal.1 (hlocal.2.2 (by decide))
  have hcard : MediaType.Table.common.ofHost? "my.video" =
      some "application/vnd.microsoft.card.video".toList := by
    decide +kernel
  exact ⟨hasked.1, hasked.2, (hvideo.2.1 _ hcard).1⟩

/-- A host in `com` is taken for a program, whatever the probe would have answered. -/
theorem not_resolve_host :
    Text.words "http://example.com" = ["http://" ++ "example.com"] ∧
      (desk "one" fun _ => .ok "text/html").probe "http://example.com" = .ok "text/html" ∧
      asked (desk "one" fun _ => .ok "text/html") "http://example.com" = [] ∧
      resolve (desk "one" fun _ => .ok "text/html") "http://example.com" =
        .ok (ofUrl "application/x-msdownload" "http://example.com") := by
  refine ⟨by decide, rfl, by decide +kernel, by decide +kernel⟩

end Attachment

end Colloquy
