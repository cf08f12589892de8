import CommandShell.Catalog
import CommandShell.Duration
import CommandShell.History
import CommandShell.Users

/-!
# Host objects and the registry of services

A host object has an identity, by which it is told apart from every other object, and a content.
The registry offers at most one object of each kind; commands ask it for services.

    (r.register o).find? k = o for o's kind k, and r.find? k for every other kind
-/

namespace CommandShell

/-! ## Objects -/

/-- Kinds of host objects. -/
inductive Kind where
  | byte
  | duration
  | text
  | number
  | flag
  /-- The control through which a command ends the shell. -/
  | control
  | catalog
  | users
  | history
  /-- The signal that tells a command that it was canceled. -/
  | signal
deriving DecidableEq

/-- All kinds. -/
def Kind.all : List Kind :=
  [byte, duration, text, number, flag, control, catalog, users, history, signal]

/-- What a host object holds. -/
inductive Content where
  | byte (n : UInt8)
  | duration (d : Duration)
  | text (s : String)
  | number (n : UInt32)
  | flag (b : Bool)
  | control
  | catalog (c : Catalog)
  | users (d : UserDirectory)
  | history (h : History)
  | signal
deriving DecidableEq

def Content.kind : Content → Kind
  | byte _ => .byte
  | duration _ => .duration
  | text _ => .text
  | number _ => .number
  | flag _ => .flag
  | control => .control
  | catalog _ => .catalog
  | users _ => .users
  | history _ => .history
  | signal => .signal

structure Object where
  identity : Nat
  content : Content

def Object.kind (o : Object) : Kind :=
  o.content.kind

/-! ## Registry -/

/-- At most one object of each kind. -/
structure Registry where
  find? : Kind → Option Object
  kind_of_find? : ∀ {k : Kind} {o : Object}, find? k = some o → o.kind = k

namespace Registry

def empty : Registry :=
  ⟨fun _ => none, fun h => by cases h⟩

/-- Offers an object; it replaces the one of its kind. -/
def register (r : Registry) (o : Object) : Registry where
  find? k := if o.kind = k then some o else r.find? k
  kind_of_find? := by
    intro k o' h
    split at h
    · next hk =>
      cases h
      exact hk
    · exact r.kind_of_find? h

/-- Takes the object of a kind away. -/
def remove (r : Registry) (k : Kind) : Registry where
  find? k' := if k = k' then none else r.find? k'
  kind_of_find? := by
    intro k' o h
    split at h
    · cases h
    · exact r.kind_of_find? h

def contains (r : Registry) (k : Kind) : Bool :=
  (r.find? k).isSome

/-- How many objects are offered. -/
def size (r : Registry) : Nat :=
  (Kind.all.filter r.contains).length

/-- The content of the object of a kind. -/
def content? (r : Registry) (k : Kind) : Option Content :=
  (r.find? k).map Object.content

def ofContents (cs : List Content) : Registry :=
  cs.foldl (fun r c => r.register ⟨0, c⟩) empty

/-- The commands on offer. -/
def catalog? (r : Registry) : Option Catalog :=
  match r.content? .catalog with
  | some (.catalog c) => some c
  | _ => none

def users? (r : Registry) : Option UserDirectory :=
  match r.content? .users with
  | some (.users d) => some d
  | _ => none

/-! ## Lemmas -/

end Registry
end CommandShell
