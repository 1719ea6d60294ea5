import Colloquy.Text.Digits
import Colloquy.Utf8
import Colloquy.Sha1

/-!
# Identifiers

Participants carry an identifier that is a function of their name: the first sixteen bytes of a
digest over a fixed namespace and the name, marked as a name-based identifier (version 5) and
written in the usual groups. Activities carry identifiers that are drawn from random bytes and
marked as such (version 4). Both are written by `format`.
-/

namespace Colloquy.Identifier

/-- Sixteen bytes in small hexadecimal digits, in groups of 8, 4, 4, 4 and 12. -/
def format (bytes : List UInt8) : Text :=
  let digits := bytes.flatMap Text.hexByte
  Text.join "-" [digits.take 8, (digits.drop 8).take 4, (digits.drop 12).take 4,
    (digits.drop 16).take 4, (digits.drop 20).take 12]

/-- The bytes with the version in the seventh and the variant in the ninth. -/
def mark (version : UInt8) (bytes : List UInt8) : List UInt8 :=
  (bytes.take 16).mapIdx fun place (byte : UInt8) =>
    if place = 6 then byte % 16 + version * 16
    else if place = 8 then byte % 64 + 128
    else byte

/-- The namespace of participant names. -/
def participantNamespace : List UInt8 :=
  [0x5F, 0x0C, 0x2B, 0x7E, 0x8A, 0x7D, 0x4C, 0x61, 0x9D, 0x3E, 0x2B, 0x4F, 0x6A, 0x1C, 0x7E, 0x90]

/-- The identifier of the participant with this name. -/
def ofName (name : Text) : Text :=
  format (mark 5 (Sha1.digest (participantNamespace ++ Utf8.encode name)))

/-- The identifier drawn from random bytes. -/
def ofRandom (bytes : List UInt8) : Text := format (mark 4 bytes)

/-- The identifier with the given number in a sequence that starts from random bytes. -/
def nth (seed : List UInt8) (n : Nat) : Text :=
  ofRandom (Sha1.digest (seed ++ Sha1.bigEndian 8 n))

/-- Whether the text has the form of an identifier drawn at random. -/
def isRandom (text : Text) : Bool :=
  match Text.pieces '-' text with
  | [a, b, c, d, e] =>
    [a, b, c, d, e].map List.length == [8, 4, 4, 4, 12] &&
      (a ++ b ++ c ++ d ++ e).all (fun x => Text.isDigit x || ('a' ≤ x && x ≤ 'f')) &&
      c.head? == some '4' && (d.head?.any fun x => ['8', '9', 'a', 'b'].contains x)
  | _ => false

example : ofName "Zoe" = "a9ffc7a9-cbea-579e-a54a-e386d8c891f3".toList := by decide +kernel
example : isRandom (nth [1, 2, 3] 7) = true := by decide +kernel

end Colloquy.Identifier
