import TunnelConfig.Driver.Dialogue

/-!
# Drivers that follow a script

A scripted driver does not look after any tunnel. It writes down every request and gives the next
reply of its script; after the last one it refuses.
-/

namespace TunnelConfig.Driver

/-- A reply of a script. -/
inductive Cue where
  /-- Writes bytes, as many as there is room for, and reports a number of its own. -/
  | answer (reported : UInt32) (bytes : Bytes)
  /-- Writes bytes and reports how many, or refuses if there is not enough room. -/
  | serve (bytes : Bytes)
  | refuse (refusal : Refusal)
  deriving DecidableEq

def Cue.reply (request : Request) : Cue → Reply
  | answer reported bytes => .ok ⟨reported, bytes⟩
  | serve bytes =>
    let size := UInt32.ofNat bytes.length
    match request with
    | .get room => if room < bytes.length then .error (.bufferTooSmall size) else .ok ⟨size, bytes⟩
    | _ => .ok ⟨size, []⟩
  | refuse refusal => .error refusal

/-- A script under way. -/
structure Script where
  /-- The replies to come. -/
  cues : List Cue
  /-- The requests so far, newest first. -/
  calls : List (Handle × Request)
  deriving DecidableEq

/-- What is said when the script has ended. -/
def Script.ended : Refusal := .driver "script exhausted"

def Script.serve : Service Script := fun handle request script =>
  let calls := (handle, request) :: script.calls
  match script.cues with
  | [] => (.error ended, ⟨[], calls⟩)
  | cue :: cues => (cue.reply request, ⟨cues, calls⟩)

end TunnelConfig.Driver
