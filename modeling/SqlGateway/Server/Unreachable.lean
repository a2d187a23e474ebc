import SqlGateway.Server.Basic

/-!
# A Server Out of Reach

The server of a program that has no way to a network: no pool can be opened, so nothing is
ever run.
-/

namespace SqlGateway

/-- The error of everything that is asked of a server out of reach. -/
def unreachableError : GatewayError :=
  .connection "cannot connect: no network driver is available"

/-- The server out of reach. -/
def unreachable : Server Unit where
  openPool _ t := (.error unreachableError, t)
  closePool _ t := t
  acquire _ _ t := (some (.error unreachableError), t)
  fetch _ _ _ t := (.error unreachableError, t)
  execute _ _ _ t := (.error unreachableError, t)
  control _ _ t := (.error unreachableError, t)

end SqlGateway
