import Colloquy.Activity
import Colloquy.MediaType
import Colloquy.Base64
import Colloquy.Files.Tree
import Colloquy.Json.Outline
import Colloquy.Text.Quoted

/-!
# Finding attachments

A script names an attachment by a locator and an optional content type. Something remote stays
where it is, and its type is asked for if nothing tells it; a local file is looked for in the
working directory and then in the current one, and carried inline if it is JSON or text and as a
data URL otherwise. What servers answer and which extensions are known is part of the surroundings.
-/

namespace Colloquy

/-- Why an attachment cannot be had. -/
inductive AttachmentError where
  | missingLocator
  | notFound (locator : Text) (tried : List Text)
  | unreadable (path : Text) (failure : Files.Failure)
  | notJson (path text : Text) (fault : Json.Fault)
  | unknownType (url reason : Text)
deriving DecidableEq, Repr

namespace AttachmentError

/-- The wording of an error. -/
def message : AttachmentError → Text
  | missingLocator => "attachment needs a file path or URL"
  | notFound locator tried =>
    Text.concat ["attachment '", locator, "' not found (tried ", Text.quotedList tried, ")"]
  | unreadable path _ => Text.concat ["unable to read attachment '", path, "'"]
  | notJson path _ _ => Text.concat ["attachment '", path, "' is not valid JSON"]
  | unknownType url reason =>
    Text.concat ["could not determine content type of '", url, "': ", reason]

/-- The wording of what is behind an error. -/
def cause? : AttachmentError → Option Text
  | unreadable _ failure => some failure.message
  | notJson _ text fault => some (fault.message text)
  | _ => none

end AttachmentError

/-- Asks a server for the content type of a URL; the reason if there is no answer. It is taken for
granted that a probe fails in no other way than this: the type of the URL that it was asked about
cannot be had, for some reason (`AttachmentError.unknownType`). -/
abbrev Probe := Text → Except Text Text

/-- The probe of a program without a network, which cannot even build a request. -/
def Probe.offline : Probe := fun _ => .error "builder error"

/-- What attachments are looked for in. -/
structure Surroundings where
  files : Files.Tree
  /-- The directory that is looked in first. -/
  workingDirectory : Option Text
  probe : Probe
  /-- What is known of types by extension. -/
  [types : MediaType.Table]

namespace Attachment

open MediaType (isRemote)

/-- The paths where a local attachment can be, in the order in which they are tried. -/
def candidates (around : Surroundings) (locator : Text) : List Text :=
  (around.workingDirectory.toList.map fun directory => Path.joined directory locator) ++ [locator]

/-- The path of a local attachment. -/
def locate (around : Surroundings) (locator : Text) : Except AttachmentError Text :=
  let tried := candidates around locator
  match tried.find? around.files.isFile with
  | some path => .ok path
  | none => .error (.notFound locator tried)

/-- The content type of a locator, with the type that the script gives. -/
def typeOf (around : Surroundings) (locator : Text) (token : Option Text) :
    Except AttachmentError Text :=
  match token with
  | some token => .ok (MediaType.ofToken token)
  | none =>
    match around.types.ofLocator? locator with
    | some type => .ok type
    | none =>
      if isRemote locator then (around.probe locator).mapError (.unknownType locator)
      else .ok MediaType.octetStream

/-- The text of a file. -/
def readText (around : Surroundings) (path : Text) : Except AttachmentError Text :=
  (around.files.readText path).mapError (.unreadable path)

/-- The URL that holds data of some type. -/
def dataUrl (type : Text) (bytes : List UInt8) : Text :=
  Text.concat ["data:", type, ";base64,", Base64.encode bytes]

/-- The attachment for a file. -/
def ofFile (around : Surroundings) (type path : Text) : Except AttachmentError Attachment :=
  if MediaType.holdsJson type then do
    let text ← readText around path
    let content ← (Json.read? text).mapError (.notJson path text)
    pure (ofContent type content)
  else if MediaType.isTextual type then do
    let text ← readText around path
    pure (ofContent type (.string text))
  else do
    let bytes ← (around.files.read path).mapError (.unreadable path)
    pure (ofUrl type (dataUrl type bytes))

/-- The attachment that an argument asks for. Its first word is the locator and its second the
type; further words have no meaning. -/
def resolve (around : Surroundings) (argument : Text) : Except AttachmentError Attachment :=
  match Text.words argument with
  | [] => .error .missingLocator
  | locator :: rest => do
    let type ← typeOf around locator rest.head?
    if isRemote locator then pure (ofUrl type locator)
    else
      let path ← locate around locator
      ofFile around type path

end Attachment

end Colloquy
