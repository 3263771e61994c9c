import VarsAdvisor.Table

/-!
# Locks of documents

Passes over one document take turns. A document has a lock as long as a pass uses it; the number of
its users says when the lock can go. Whoever came first holds the lock, the others wait in order.
-/

namespace VarsAdvisor

/-- What identifies a lock. -/
abbrev LockId := Nat

/-- The locks in use, by the keys of their documents, the number of users of each, and for each lock
the passes in line, of which the first holds it. -/
structure Locks where
  locks : Table String LockId
  users : Table String Nat
  lines : Table LockId (List Nat)
  nextLock : LockId
  deriving Repr

namespace Locks

/-- No document is in use. -/
def empty : Locks := ⟨[], [], [], 0⟩

/-- The passes in line for a lock. -/
def line (l : Locks) (lock : LockId) : List Nat :=
  (l.lines.get? lock).getD []

/-- The number of passes that use a document. -/
def userCount (l : Locks) (key : String) : Nat :=
  (l.users.get? key).getD 0

/-- The lock of a document, a new one if it has none. -/
def lockOf (l : Locks) (key : String) : Locks × LockId :=
  match l.locks.get? key with
  | some lock => (l, lock)
  | none =>
    ({ l with locks := l.locks.put key l.nextLock, nextLock := l.nextLock + 1 }, l.nextLock)

/-- A further pass uses a document, and gets in line for its lock. -/
def enter (l : Locks) (key : String) (pass : Nat) : Locks × LockId :=
  let (l, lock) := l.lockOf key
  ({ l with
      users := l.users.put key (l.userCount key + 1)
      lines := l.lines.put lock (l.line lock ++ [pass]) },
    lock)

/-- The pass holds the lock. -/
def isHeldBy (l : Locks) (lock : LockId) (pass : Nat) : Bool :=
  (l.line lock).head? == some pass

/-- A pass gives back a lock, or its place in line. -/
def leaveLine (l : Locks) (lock : LockId) (pass : Nat) : Locks :=
  let rest := (l.line lock).filter (· != pass)
  { l with lines := if rest.isEmpty then l.lines.erase lock else l.lines.put lock rest }

/-- One user of a document less; the lock goes with the last. -/
def dropUser (l : Locks) (key : String) : Locks :=
  let count := l.userCount key - 1
  if count = 0 then { l with users := l.users.erase key, locks := l.locks.erase key }
  else { l with users := l.users.put key count }

/-- A pass no longer uses a document. -/
def leave (l : Locks) (key : String) (lock : LockId) (pass : Nat) : Locks :=
  (l.leaveLine lock pass).dropUser key

end Locks

end VarsAdvisor
