import TransferGateway.Server.Frames

/-!
# Reading what has arrived

Where nothing fails and a whole frame has arrived it is read as its packet, whatever arrives behind
it.
-/

namespace TransferGateway

/-- The other side sends more at any moment, and nothing fails. -/
def Stream.steady : Env StreamChoice Stream where
  interferes := Stream.Arrives
  admits c := c.fault = none

namespace Protocol

/-! ### Headers -/

end Protocol

end TransferGateway
