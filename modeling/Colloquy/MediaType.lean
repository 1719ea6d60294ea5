import Colloquy.Path
import Colloquy.Text.Ascii
import Colloquy.Text.Blank
import Colloquy.Text.Casing

/-!
# Content types

The content type of an attachment is given with it, by its name or by one of the short names for
cards, or follows from the extension of its path. Types that stand for text and types that stand
for JSON decide how a file is carried.

Which type goes with which extension is known to a library of media types, which is not part of this
project. `Table` is all that is assumed of one, and what is proved about attachments holds for every
table. Programs run with `Table.common`, an excerpt of such a library's table.
-/

namespace Colloquy.MediaType

open Text (sameLetters)

/-- The type of a file about which nothing is known. -/
def octetStream : Text := "application/octet-stream"

/-- A library that guesses the type of a file from the extension of its path, and from nothing else.
Its types have the form `type/subtype`, of which only this much is assumed, that they are not blank.

It is a class so that `Table.common` is taken where no other table is given. -/
class Table where
  /-- The type of files with an extension, if the library knows one. -/
  ofExtension? : Text → Option Text
  named : ∀ {extension type : Text}, ofExtension? extension = some type →
    ∃ c ∈ type, Text.isBlank c = false

/-- What the types of cards start with. -/
def cardLead : Text := "application/vnd.microsoft.card."

/-- The short names of cards and how their types end. -/
def cards : List (Text × Text) :=
  [("adaptivecard", "adaptive"), ("animation", "animation"), ("audio", "audio"), ("hero", "hero"),
    ("receipt", "receipt"), ("thumbnail", "thumbnail"), ("signin", "signin"), ("oauth", "oauth"),
    ("media", "media"), ("video", "video")]

/-- The type of the card with a short name, in letters of either case. -/
def ofCard? (name : Text) : Option Text :=
  (cards.find? fun card => sameLetters card.1 name).map fun card => cardLead ++ card.2

/-- The type that follows from a locator: by the extension of its last name, which can also be the
short name of a card. -/
def Table.ofLocator? (types : Table) (locator : Text) : Option Text := do
  let extension ← Path.extension? locator
  (types.ofExtension? extension).or (ofCard? extension)

/-- The type that a script gives: the short name of a card, or the type itself in small letters. -/
def ofToken (token : Text) : Text :=
  let name := Text.lowercase token
  (ofCard? name).getD name

/-- Whether the type is one of a card. -/
def isCard (type : Text) : Bool := cardLead.isPrefixOf type

/-- Whether the type speaks of JSON. -/
def holdsJson (type : Text) : Bool := Text.holds "json" type || isCard type

/-- Whether files of the type are text. -/
def isTextual (type : Text) : Bool :=
  "text/".toList.isPrefixOf type || "+json".toList.isSuffixOf type ||
    "+xml".toList.isSuffixOf type ||
    ["application/json".toList, "application/javascript".toList,
      "application/xml".toList].contains type

/-- A locator that starts with `http://` or `https://`, in letters of either case. -/
def isRemote (locator : Text) : Bool :=
  let locator := Text.lowerAscii locator
  "http://".toList.isPrefixOf locator || "https://".toList.isPrefixOf locator

/-! ### The common types

The table to run with is an excerpt: a library knows more than a thousand extensions. They are
compared after folding, and a letter that folds to several counts as those, so `ﬀ` is as good as `ff`.
-/

/-- The types of common files by extension. -/
def commonTypes : List (String × String) :=
  [("7z", "application/x-7z-compressed"),
    ("avi", "video/x-msvideo"),
    ("bin", "application/octet-stream"),
    ("bmp", "image/bmp"),
    ("chat", "application/x-chat"),
    ("com", "application/x-msdownload"),
    ("css", "text/css"),
    ("csv", "text/csv"),
    ("doc", "application/msword"),
    ("docx", "application/vnd.openxmlformats-officedocument.wordprocessingml.document"),
    ("exe", "application/octet-stream"),
    ("gif", "image/gif"),
    ("gz", "application/gzip"),
    ("htm", "text/html"),
    ("html", "text/html"),
    ("ico", "image/x-icon"),
    ("ics", "text/calendar"),
    ("ini", "text/plain"),
    ("jpeg", "image/jpeg"),
    ("jpg", "image/jpeg"),
    ("js", "text/javascript"),
    ("json", "application/json"),
    ("jsonld", "application/ld+json"),
    ("log", "text/plain"),
    ("md", "text/markdown"),
    ("mjs", "application/javascript"),
    ("mp3", "audio/mpeg"),
    ("mp4", "video/mp4"),
    ("mpeg", "video/mpeg"),
    ("ogg", "audio/ogg"),
    ("pdf", "application/pdf"),
    ("png", "image/png"),
    ("ppt", "application/vnd.ms-powerpoint"),
    ("pptx", "application/vnd.openxmlformats-officedocument.presentationml.presentation"),
    ("rtf", "application/rtf"),
    ("svg", "image/svg+xml"),
    ("tar", "application/x-tar"),
    ("toml", "text/x-toml"),
    ("ttf", "font/ttf"),
    ("txt", "text/plain"),
    ("wasm", "application/wasm"),
    ("wav", "audio/wav"),
    ("webm", "video/webm"),
    ("webp", "image/webp"),
    ("woff", "application/font-woff"),
    ("woff2", "font/woff2"),
    ("xhtml", "application/xhtml+xml"),
    ("xls", "application/vnd.ms-excel"),
    ("xlsx", "application/vnd.openxmlformats-officedocument.spreadsheetml.sheet"),
    ("xml", "text/xml"),
    ("yaml", "text/x-yaml"),
    ("zip", "application/zip")]

/-- The small letters that a character of an extension stands for. -/
def letters (c : Char) : Text :=
  match c with
  | 'ß' => "ss"
  | 'ẞ' => "ss"
  | 'ﬀ' => "ff"
  | 'ﬁ' => "fi"
  | 'ﬂ' => "fl"
  | 'ﬃ' => "ffi"
  | 'ﬄ' => "ffl"
  | 'ﬅ' => "st"
  | 'ﬆ' => "st"
  | c => [Text.foldChar c]

/-- The common type of files with an extension. -/
def ofCommon? (extension : Text) : Option Text :=
  let extension := extension.flatMap letters
  (commonTypes.find? fun entry => entry.1.toList == extension).map fun entry => entry.2.toList

theorem commonTypes_named : ∀ entry ∈ commonTypes,
    entry.2.toList.any fun c => !Text.isBlank c := by
  decide +kernel

/-- The table of the common types. -/
instance Table.common : Table where
  ofExtension? := ofCommon?
  named h := by
    rw [ofCommon?, Option.map_eq_some_iff] at h
    obtain ⟨entry, hentry, rfl⟩ := h
    have hnamed := commonTypes_named entry (List.mem_of_find?_eq_some hentry)
    simpa using hnamed

example : Table.common.ofLocator? "w/Menu.HERO" =
    some "application/vnd.microsoft.card.hero".toList := by decide +kernel
example : Table.common.ofLocator? "a.Cſß" = none ∧
    Table.common.ofLocator? "a.cß" = some "text/css".toList := by decide +kernel
example : Table.common.ofLocator? "http://example.com" =
    some "application/x-msdownload".toList := by decide +kernel

end Colloquy.MediaType
