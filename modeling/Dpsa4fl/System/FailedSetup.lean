-- SUMMARY: What a failed create_session or start_round leaves behind at the two managers.
import Dpsa4fl.JanusManager.Coherence
import Dpsa4fl.System.Calls

/-!
# Failed calls

A call changes the leader's manager before it asks the helper's, and nothing
takes the first change back if the second manager rejects. So a call that fails
leaves a manager as it was if that manager rejected, and what it accepted otherwise.
-/

namespace TaskProvisioner.Answers

variable {J : Janus} {p p' : TaskProvisioner} {failure : Failure}

end TaskProvisioner.Answers

namespace Managers

variable {J : Janus} {o : Outside} {m m' : Managers} {client : JanusManagerClient}

end Managers

namespace Sample

/-- No message is lost, and the leader draws this id. -/
def reliable (sessionId : UInt16) : Outside := ⟨fun _ => ambient sessionId, fun _ => .delivered⟩

end Sample

namespace Managers

end Managers
