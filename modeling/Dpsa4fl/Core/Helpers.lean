-- SUMMARY: Task ids as strings, in both directions.
import Dpsa4fl.Core.Types

/-!
# Task ids as strings

`src/core/helpers.rs`. The same coding is used by the controller, by both
managers and by the clients.
-/

/-- `TaskId::get_decoded`: exactly 32 bytes, none left over. -/
def TaskId.getDecoded (bytes : List UInt8) : Except Error TaskId :=
  if h : bytes.length = 32 then .ok ⟨bytes, h⟩
  else .error (.codec "unexpected length of an encoded task id")

/-- Encode a task id into a string, as implemented in janus. -/
def taskIdToString (taskId : TaskId) : String := Base64Url.encode taskId.bytes

/-- Decode a task id from a string, as implemented in janus. -/
def taskIdFromString (taskIdBase64 : String) : Except Error TaskId := do
  let taskIdBytes ← (Base64Url.decode taskIdBase64).mapError .base64
  TaskId.getDecoded taskIdBytes

@[simp] theorem TaskId.getDecoded_bytes (taskId : TaskId) : getDecoded taskId.bytes = .ok taskId := by
  simp [getDecoded, taskId.length_eq]

@[simp] theorem taskIdFromString_toString (taskId : TaskId) :
    taskIdFromString (taskIdToString taskId) = .ok taskId := by
  simp only [taskIdFromString, taskIdToString, Base64Url.decode_encode, Except.mapError]
  exact TaskId.getDecoded_bytes taskId

/-- Only the task id itself is decoded from its string. -/
theorem eq_of_taskIdFromString {taskId t : TaskId}
    (h : taskIdFromString (taskIdToString taskId) = .ok t) : taskId = t := by
  rw [taskIdFromString_toString] at h
  exact Except.ok.inj h

theorem taskIdToString_injective : Function.Injective taskIdToString := by
  intro t t' h
  have hdecode := taskIdFromString_toString t
  rw [h] at hdecode
  exact (eq_of_taskIdFromString hdecode).symm
