import CommandShell.Json.Basic

/-!
# A directory of users

The example data that the users command looks up.
-/

namespace CommandShell

structure User where
  name : String
  role : String
deriving DecidableEq

abbrev UserDirectory := List User

def UserDirectory.example : UserDirectory :=
  [⟨"alice", "admin"⟩, ⟨"bob", "developer"⟩, ⟨"carol", "viewer"⟩]

/-- The user of a name; capital and small letters A to Z are the same. -/
def UserDirectory.find? (d : UserDirectory) (name : String) : Option User :=
  List.find? (fun u => u.name.map Char.toLower == name.map Char.toLower) d

/-- A user as a record. -/
def User.record (u : User) : Json.Record :=
  [("name", .string u.name), ("role", .string u.role)]

end CommandShell
