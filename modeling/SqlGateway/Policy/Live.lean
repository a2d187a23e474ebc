import SqlGateway.Policy.Setting
import SqlGateway.Digest.Sha256

/-!
# Live Policies

The policy of a session changes while the session runs. Each change is counted, so that a
reader can tell that nothing changed without comparing policies; and the settings that a
connection pool is opened with have a fingerprint, so that a reader can tell whether a change
concerns the pool.
-/

namespace SqlGateway

/-- The text that the fingerprint of a policy digests: the settings that a pool is opened
with, separated by bars. -/
def Policy.connectionText (p : Policy) : String :=
  String.intercalate "|"
    [p.host, Decimal.digitsText p.port, p.user, p.password, p.database,
      AuthPlugin.label p.authPlugin, Decimal.digitsText p.connectTimeout,
      Decimal.digitsText p.poolMin, Decimal.digitsText p.poolMax]

/-- The fingerprint of the settings that a pool is opened with. -/
def Policy.fingerprint (p : Policy) : String :=
  Digest.sha256 p.connectionText

/-- A policy that changes, and how many changes it saw. -/
structure LivePolicy where
  policy : Policy
  generation : Nat
  deriving DecidableEq, Repr

namespace LivePolicy

/-- A policy before its first change. -/
def ofPolicy (p : Policy) : LivePolicy := ⟨p, 0⟩

instance : Inhabited LivePolicy := ⟨ofPolicy .initial⟩

/-- Puts another policy in place. -/
def replace (l : LivePolicy) (p : Policy) : LivePolicy :=
  ⟨p, l.generation + 1⟩

/-- Makes settings. All are made or, if one is not valid, none is and no change is
counted. -/
def update (l : LivePolicy) (entries : List (String × String)) :
    Except SettingError LivePolicy :=
  (l.policy.update entries).map l.replace

/-- Sets the authentication plugin alone. -/
def setAuthPlugin (l : LivePolicy) (plugin : Option AuthPlugin) : LivePolicy :=
  l.replace { l.policy with authPlugin := plugin }

end LivePolicy

end SqlGateway
