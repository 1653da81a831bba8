/-!
Memo tables. A value is computed once for its key and then shared. Each stored value has a ticket
of its own, by which two answers can be told to be the same one.
-/
namespace AgentTeams

/-- A stored value. -/
structure Ticketed (α : Type) where
  ticket : Nat
  value : α

structure Memo (α : Type) where
  entries : List (UInt64 × Ticketed α) := []
  /-- How many tickets were given out; emptying the table does not take them back. -/
  issued : Nat := 0

namespace Memo

def size (memo : Memo α) : Nat := memo.entries.length

def isEmpty (memo : Memo α) : Bool := memo.entries.isEmpty

def find? (memo : Memo α) (key : UInt64) : Option (Ticketed α) :=
  memo.entries.lookup key

/-- Store a value under a key that has none. -/
def store (memo : Memo α) (key : UInt64) (value : α) : Ticketed α × Memo α :=
  let stored : Ticketed α := ⟨memo.issued, value⟩
  (stored, { entries := (key, stored) :: memo.entries, issued := memo.issued + 1 })

/-- The value under a key; on a miss it is computed and stored. A failure is not stored. -/
def obtain? (memo : Memo α) (key : UInt64) (compute : Unit → Except ε α) :
    Except ε (Ticketed α) × Memo α :=
  match memo.find? key with
  | some stored => (.ok stored, memo)
  | none =>
      match compute () with
      | .ok value => let (stored, memo) := memo.store key value; (.ok stored, memo)
      | .error error => (.error error, memo)

/-- The value under a key; on a miss it is computed and stored. -/
def obtain (memo : Memo α) (key : UInt64) (compute : Unit → α) : Ticketed α × Memo α :=
  match memo.find? key with
  | some stored => (stored, memo)
  | none => memo.store key (compute ())

def clear (memo : Memo α) : Memo α :=
  { memo with entries := [] }

end Memo

end AgentTeams
