import Colloquy.Main
import Colloquy.Proofs.Session.Run
import Colloquy.Proofs.Configuration.Registry
import Colloquy.Proofs.Text.Casing
import Colloquy.Proofs.Attachment.Payload
import Colloquy.Proofs.Activity.Validity
import Colloquy.Proofs.Session.Header
import Colloquy.Proofs.Session.Validity
import Colloquy.Proofs.Script.Piece
import Colloquy.Proofs.Session.Draft
import Colloquy.Proofs.Transcript.Text
import Colloquy.Proofs.Transcript.Timeline
import Colloquy.Proofs.Transcript.Skeleton
import Colloquy.Proofs.Transcript.Spacing
import Colloquy.Proofs.Session.Freeze
import Colloquy.Proofs.Script.Speaker
import Colloquy.Proofs.Transcript.Prefix
import Colloquy.Proofs.Transcript.Reading
import Colloquy.Proofs.Session.Seeds
import Colloquy.Proofs.CommandLine.Lint
import Colloquy.Proofs.Activity.Tally
import Colloquy.Proofs.Session.Growth
import Colloquy.Proofs.Session.Register
import Colloquy.Proofs.Transcript.Preamble
import Colloquy.Proofs.Transcript.Recasing
import Colloquy.Proofs.Transcript.Parties
import Colloquy.Proofs.Script.Grammar
import Colloquy.Proofs.Transcript.Sealing
import Colloquy.Proofs.Session.Rejection
import Colloquy.Proofs.Session.Idle
import Colloquy.Proofs.Transcript.Locators
import Colloquy.Proofs.Transcript.Warnings
import Colloquy.Proofs.Session.Spelling
import Colloquy.Proofs.Attachment.Dependence
import Colloquy.Proofs.Attachment.Carriage
import Colloquy.Proofs.Attachment.Host
import Colloquy.Proofs.Script.OwnName
import Colloquy.Proofs.Time.Clock
import Colloquy.Proofs.Script.Class
