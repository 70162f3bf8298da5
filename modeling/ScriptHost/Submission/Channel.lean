import ScriptHost.Guest.Code

/-!
# The job channel

Everything that other threads want from the interpreter is a job, and jobs reach it through a channel
with room for a fixed number of them, in the order in which they have entered.  Once the interpreter
has left, nothing enters any more, and what is inside stays there unanswered.
-/

namespace ScriptHost.Submission

/-- Work for the interpreter. -/
inductive Job where
  | execute (request : Guest.Request)
  /-- Drop every registered closure. -/
  | releaseClosures
  /-- Take no further job. -/
  | stop
  deriving DecidableEq, Inhabited

/-- The jobs that wait for the interpreter. -/
structure Channel where
  jobs : List Job
  capacity : Nat
  /-- Whether the interpreter still takes jobs. -/
  attended : Bool
  capacity_pos : 0 < capacity

/-- Why a job has not entered. -/
inductive Refusal where
  | full
  | unattended
  deriving DecidableEq, Inhabited

namespace Channel

/-- An empty channel with room for a number of jobs, and for one at least. -/
def ofCapacity (n : Nat) : Channel := ⟨[], max 1 n, true, by omega⟩

instance : Inhabited Channel := ⟨ofCapacity 1⟩

/-- Let a job enter. -/
def send (c : Channel) (job : Job) : Except Refusal Channel :=
  if !c.attended then .error .unattended
  else if c.capacity ≤ c.jobs.length then .error .full
  else .ok { c with jobs := c.jobs ++ [job] }

/-- Take the job that has entered first. -/
def take (c : Channel) : Option (Job × Channel) :=
  match c.jobs with
  | [] => none
  | job :: rest => some (job, { c with jobs := rest })

/-- The interpreter leaves. -/
def leave (c : Channel) : Channel := { c with attended := false }

end Channel
end ScriptHost.Submission
