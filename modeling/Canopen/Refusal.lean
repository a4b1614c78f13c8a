/-
**Why the system refuses a call.**
-/

namespace Canopen

/-- Why the system refuses a call. -/
inductive Refusal
  | notPermitted
  | notFound
  | alreadyThere
  | noDevice
  | notADirectory
  | invalidArgument
  | brokenPipe
  | addressInUse
  | connectionRefused
  deriving DecidableEq, Repr, Inhabited

/-- The refusal in words. -/
def Refusal.text : Refusal → String
  | notPermitted => "Operation not permitted"
  | notFound => "No such file or directory"
  | alreadyThere => "File exists"
  | noDevice => "No such device"
  | notADirectory => "Not a directory"
  | invalidArgument => "Invalid argument"
  | brokenPipe => "Broken pipe"
  | addressInUse => "Address already in use"
  | connectionRefused => "Connection refused"

end Canopen
