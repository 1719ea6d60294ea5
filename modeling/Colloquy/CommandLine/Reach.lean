import Colloquy.CommandLine.Request

/-!
# What a run looks at

A run sees files through a tree that is gathered before it. The paths to gather come in two steps:
those of the arguments, and then, when the options and the script can be read, those of the
attachments that the script could ask for. Everything in brackets counts, so that no path is missed.
-/

namespace Colloquy.CommandLine

/-- The paths that arguments name. -/
def ScriptArguments.paths (script : ScriptArguments) : List Text :=
  script.file :: script.config.toList

/-- The script arguments of a request. -/
def Request.script? : Request → Option ScriptArguments
  | .compile script _ _ => some script
  | .lint script _ => some script
  | _ => none

/-- The path that a request writes to. -/
def Request.target? : Request → Option Text
  | .compile _ out _ => out
  | _ => none

/-- The paths that a request names. -/
def Request.paths (request : Request) : List Text :=
  (request.script?.map ScriptArguments.paths).getD [] ++ request.target?.toList

/-- All that stands between a bracket and the next closing one. -/
def bracketedTexts : Text → List Text
  | [] => []
  | c :: rest =>
    if c = '[' then (Text.cutFirst? ']' rest).toList.map Prod.fst ++ bracketedTexts rest
    else bracketedTexts rest

/-- The locators of the attachments that a script could ask for. -/
def locators (source : Text) : List Text :=
  (bracketedTexts source).filterMap fun body =>
    let command := Command.ofBody body
    if command.tag = .attachment then command.argument.bind fun argument => (Text.words argument).head?
    else none

/-- The paths of the attachments that a script could ask for, when its options and its text can be
read. -/
def attachmentPaths (world : World) (script : ScriptArguments) : List Text :=
  match options world script, world.files.readText script.file with
  | .ok options, .ok source =>
    (locators source).flatMap (Attachment.candidates (world.scene options).around)
  | _, _ => []

end Colloquy.CommandLine
