import WebLinking.Fault

/-!
# Responses to faults

What a server answers when a fault ends the handling of a request. Faults in what a
client sent are the client's; a link or a content that should have been there is the
server's. All other faults have no response of their own.
-/

namespace WebLinking

/-- The status of the response to a fault. -/
def Fault.status? : Fault → Option Nat
  | .malformedTemplate .. | .invalidName _ | .unresolvable .. | .emptyHref _
  | .malformedHeader .. => some 400
  | .linkNotFound _ | .missingPayload => some 500
  | _ => none

end WebLinking
