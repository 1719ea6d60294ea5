import Colloquy.Proofs.Session.Draft

/-!
# The skeleton of a transcript

Every turn and every command of a kind opens one activity. What an activity is opened with depends
on the token that opens it and on the activity before (`Opened`), what is fitted to it afterwards
on the commands in the rest of its piece. Skeletons of whole transcripts follow, and the count
that a scan returns is that of the activities it has closed (`skeletons`).
-/

namespace Colloquy

/-! ### Openings -/

namespace Session

variable {scene : Scene} {clock : Time.Clock} {session next : Session}

end Session

/-! ### What is fitted later -/

namespace Session

variable {scene : Scene} {clock : Time.Clock} {session next : Session}

end Session

/-! ### Skeletons -/

end Colloquy
