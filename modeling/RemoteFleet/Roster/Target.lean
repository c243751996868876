import RemoteFleet.Text.Numeral

/-!
# Hosts, credentials and targets

A host entry names a host by index and address and may override the login.  `RemoteTarget.resolve`
fills what an entry leaves open from the credentials of the fleet.
-/

namespace RemoteFleet

/-- One line of a roster.  The index is the position of the host, counted from 1. -/
structure HostEntry where
  index : UInt32
  address : String
  user : Option String := none
  keyFile : Option String := none
  port : Option UInt16 := none
  deriving DecidableEq

/-- The login for every host that does not override it.  Without a key file the client decides. -/
structure Credentials where
  user : String := "ec2-user"
  keyFile : Option String := none
  port : UInt16 := 22
  deriving DecidableEq

/-- A host ready to be contacted. -/
structure RemoteTarget where
  index : UInt32
  address : String
  user : String
  keyFile : Option String
  port : UInt16
  deriving DecidableEq

namespace RemoteTarget

/-- The target behind an entry. -/
def resolve (entry : HostEntry) (credentials : Credentials) : RemoteTarget where
  index := entry.index
  address := entry.address
  user := entry.user.getD credentials.user
  keyFile := entry.keyFile.or credentials.keyFile
  port := entry.port.getD credentials.port

/-- The target as the client takes it. -/
def destination (t : RemoteTarget) : String := t.user ++ "@" ++ t.address

/-- The target as messages show it. -/
def display (t : RemoteTarget) : String :=
  "#" ++ Text.decimalString t.index.toNat ++ " " ++ t.destination

end RemoteTarget

end RemoteFleet
