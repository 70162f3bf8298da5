import ScriptHost.Ready.Closures
import ScriptHost.Service.Basic
import ScriptHost.Timer.Delay

/-!
# What guest code asks of the host

Guest code gets at the services over a desk.  What it leaves there to be called later is a closure,
which the desk keeps in its table until it is called, cleared or released.  A request is either
refused, and then nothing has changed, or granted; a granted request for a timer or an operation
registers exactly one closure.
-/

namespace ScriptHost.Desk

open Ready (Closures)
open Network (Kind)

/-- A request of guest code, whose closures are of type `F`. -/
inductive Ask (F : Type) where
  /-- Call a closure after a delay in milliseconds, given as a binary64, or again and again. -/
  | setTimer (closure : F) (delay : Option UInt64) (repeating : Bool)
  | clearTimer (timer : Option Nat)
  /-- Call a closure with the outcome of a network operation. -/
  | start (closure : F) (request : Network.Request)
  | close (kind : Kind) (handle : Nat)

/-- Why a request is refused. -/
inductive Refusal where
  | fault (cause : HostFault)
  /-- A draft without an address. -/
  | urlMissing
  deriving DecidableEq, Inhabited

/-- The text of a refusal. -/
def Refusal.message : Refusal → String
  | fault cause => cause.message
  | urlMissing => "http_request: url is required"

/-- What the desk answers. -/
inductive Answer where
  | done
  | id (n : Nat)
  | flag (b : Bool)
  | refused (why : Refusal)
  deriving DecidableEq, Inhabited

/-- Whether a request is for a draft without an address. -/
def lacksUrl : Network.Request → Bool
  | .fetch draft => draft.url.isEmpty
  | _ => false

/-- The delay that a timer is asked for; without one it fires as soon as it can. -/
def delayOf : Option UInt64 → Except HostFault Nat
  | none => .ok 0
  | some bits => Timers.delayOfBits bits

variable {F : Type}

/-- Grant or refuse a request. -/
def perform (ask : Ask F) (services : Services) (closures : Closures F) :
    Answer × Services × Closures F :=
  match ask with
  | .setTimer closure delay repeating =>
      match delayOf delay with
      | .error fault => (.refused (.fault fault), services, closures)
      | .ok millis =>
          match services.createTimer millis repeating with
          | (.error fault, services) => (.refused (.fault fault), services, closures)
          | (.ok id, services) => (.id id, services, closures.insertTimer id closure repeating)
  | .clearTimer none => (.flag false, services, closures)
  | .clearTimer (some id) =>
      let (live, services) := services.cancelTimer id
      let (found, closures) := closures.release (.timer id)
      (.flag (live || found.isSome), services, closures)
  | .start closure request =>
      if lacksUrl request then (.refused .urlMissing, services, closures)
      else
        let (completion, closures) := closures.insertCompletion closure
        (.done, services.startOperation request completion, closures)
  | .close kind handle =>
      let (found, services) := services.close kind handle
      (.flag found, services, closures)

end ScriptHost.Desk
