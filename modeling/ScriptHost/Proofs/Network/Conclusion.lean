import ScriptHost.Network.Operation
import ScriptHost.Settings.Basic

/-!
# What an operation has still to do

A reply of the system does not change the handles.  It tells the operation what to do: to return, to
open a handle and deliver its number, or to close its connection and fail (`Conclusion`).  Carried
out in one go this is what `conclude` does; but other tasks may run between the reply and the change
of the handles, and between the parts of the change.

Whatever an operation returns becomes its outcome in one place (`ofResult`), and a success is never
written like a failure.  Where a request opens a handle, its outcome names the handle
(`Request.named?`).
-/

namespace ScriptHost.Network

open Ready (Outcome)

/-- What an operation returns. -/
abbrev Result := Except NetworkFault Outcome

/-- The outcome of an operation that returns. -/
def ofResult : Result → Outcome
  | .ok outcome => outcome
  | .error cause => failed cause

/-- What is left to do once the system has replied. -/
inductive Conclusion where
  /-- Only to return. -/
  | settled (result : Result)
  /-- To open a handle, and to return what its number makes. -/
  | opens (kind : Kind) (outcome : Nat → Outcome)
  /-- To close a connection, and to fail. -/
  | loses (id : Nat) (cause : IoFault)

/-- What a reply of the system leaves to do. -/
def Request.conclusion : Request → Reply → Conclusion
  | .connect _ _, .connected => .opens .stream fun id => delivered (.int id)
  | .listen _ _, .bound address =>
      .opens .listener fun id => deliveredHandle "listener" id "addr" address
  | .bind _ _, .bound address =>
      .opens .datagram fun id => deliveredHandle "socket" id "addr" address
  | .accept _, .accepted peer => .opens .stream fun id => deliveredHandle "conn" id "peer" peer
  | .read id _, .bytes data =>
      if data.size = 0 then .loses id endOfStream else .settled (.ok (.success (.bytes data)))
  | .read id _, .fault cause =>
      if cause.isTransient then .settled (.ok .noData) else .loses id cause
  | .write _ data, .written => .settled (.ok (delivered (.int data.size)))
  | .write id _, .fault cause =>
      if cause.isTransient then .settled (.error (.io cause)) else .loses id cause
  | .send _ _ _ _, .sent count => .settled (.ok (delivered (.int count)))
  | .receive _ _, .datagram data peer =>
      .settled (.ok (delivered
        (.object [("data", .string (Text.lossy data)), ("peer", .string peer)])))
  | .receive _ _, .fault cause =>
      if cause.isTransient then .settled (.ok .noData) else .settled (.error (.io cause))
  | .fetch _, .response r => .settled (.ok (delivered r.value))
  | .fetch _, .noResponse cause => .settled (.error (.http cause))
  | _, .fault cause => .settled (.error (.io cause))
  | _, _ => .settled (.error (.io (.ofKind .other)))

/-- Do what is left in one go. -/
def Conclusion.carryOut (h : Handles) : Conclusion → Outcome × Handles
  | .settled result => (ofResult result, h)
  | .opens kind outcome => (outcome (h.register kind).1, (h.register kind).2)
  | .loses id cause => (failed (.lost cause), (h.close .stream id).2)

theorem conclude_eq (h : Handles) (request : Request) (r : Reply) :
    conclude h request r = (request.conclusion r).carryOut h := by
  fun_cases Request.conclusion request r <;>
    simp_all [conclude, Conclusion.carryOut, ofResult, lose]

/-- Only a read or a write loses a connection, and that is its own. -/
theorem Request.handle?_of_loses {request : Request} {r : Reply} {id : Nat} {cause : IoFault}
    (h : request.conclusion r = .loses id cause) : request.handle? = some (.stream, id) := by
  revert h
  fun_cases Request.conclusion request r <;> simp_all [Request.handle?]

/-! ## Outcomes -/

/-- What is returned as a success is one. -/
def Honest (result : Result) : Prop := ∀ outcome, result = .ok outcome → outcome.isSuccess = true

/-- An outcome is a failure exactly if an error has been returned, and then it carries the text of
this error. -/
theorem Honest.eq_failure_iff {result : Result} (h : Honest result) (reason : String) :
    ofResult result = .failure reason ↔
      ∃ cause, result = .error cause ∧ reason = cause.message := by
  cases result with
  | ok outcome =>
      refine iff_of_false ?_ fun ⟨_, herror, _⟩ => by cases herror
      rintro rfl
      cases h _ rfl
  | error cause => simp [ofResult, failed, eq_comm]

/-- The handle that the outcome of a request names, with its kind. -/
def Request.named? : Request → Outcome → Option (Kind × Nat)
  | .connect _ _, .success (.value (.int id)) => some (.stream, id.toNat)
  | .listen _ _, .success (.value (.object (("listener", .int id) :: _))) =>
      some (.listener, id.toNat)
  | .bind _ _, .success (.value (.object (("socket", .int id) :: _))) => some (.datagram, id.toNat)
  | .accept _, .success (.value (.object (("conn", .int id) :: _))) => some (.stream, id.toNat)
  | _, _ => none

theorem Request.named?_failed (request : Request) (cause : NetworkFault) :
    request.named? (failed cause) = none := by
  cases request <;> rfl

/-- What is left to do fits its request: successes are returned as such, only what opens a handle
names it, and a handle that is named has entered its table. -/
def Conclusion.Fits (request : Request) (entered : Kind → Nat → Prop) : Conclusion → Prop
  | .settled result => Honest result ∧
      ∀ kind id, request.named? (ofResult result) = some (kind, id) → entered kind id
  | .opens kind outcome => ∀ id,
      (outcome id).isSuccess = true ∧ request.named? (outcome id) = some (kind, id)
  | .loses _ _ => True

theorem Request.fits_conclusion (request : Request) (r : Reply) (entered : Kind → Nat → Prop) :
    (request.conclusion r).Fits request entered := by
  fun_cases Request.conclusion request r
  case case18 => exact ⟨fun _ h => (by cases h), by simp [ofResult, Request.named?_failed]⟩
  case case19 => exact ⟨fun _ h => (by cases h), by simp [ofResult, Request.named?_failed]⟩
  all_goals
    simp [Conclusion.Fits, Honest, Request.named?, delivered, deliveredHandle, Outcome.isSuccess]

/-! ## Waiting -/

/-- The sides of a connection. -/
inductive Side where
  | reader
  | writer
  deriving DecidableEq

/-- The side of a connection at which an operation needs a turn. -/
def Request.side? : Request → Option (Side × Nat)
  | .read id _ => some (.reader, id)
  | .write id _ => some (.writer, id)
  | _ => none

/-- The only obstacle of a request with a handle is that the handle is not open. -/
theorem Request.obstacle?_of_handle {request : Request} {kind : Kind} {id : Nat}
    (hhandle : request.handle? = some (kind, id)) (h : Handles) :
    request.obstacle? h = if h.isOpen kind id then none else some (.unknownHandle id) := by
  cases request <;> simp_all [Request.obstacle?, Request.handle?]

/-- Whether an operation watches the close signal of its handle while it waits.  A receive that has
no time to wait asks the system once and does not wait at all. -/
def Request.watches (settings : NetworkSettings) : Request → Bool
  | .receive _ _ => settings.readTimeoutMillis ≠ 0
  | request => request.handle?.isSome

end ScriptHost.Network
