import Gridwalk.Event

/-!
# The store

The store keeps under each key either a text, which may be set to expire, or a stream of
entries.  Asking a key for the other kind of value is a fault.  A key that holds anything
cannot be claimed; setting a text replaces whatever was there and takes the expiry away.
`Store.find` is the view through which the lemmas describe every operation.
-/

set_option autoImplicit false

namespace Gridwalk

/-- What is kept under a key. -/
inductive Stored where
  /-- A text, and whether it is set to expire. -/
  | text (value : String) (expires : Bool)
  /-- The entries of a stream, the newest first. -/
  | stream (newestFirst : List Fields)
  deriving DecidableEq, Repr

/-- Keys with what is kept under them. -/
structure Store where
  entries : List (String × Stored) := []
  deriving DecidableEq, Repr, Inhabited

namespace Store

/-- What is kept under a key. -/
def find (store : Store) (key : String) : Option Stored :=
  store.entries.lookup key

/-- Keeps a value under a key, in place of what was there. -/
def put (store : Store) (key : String) (stored : Stored) : Store where
  entries := (key, stored) :: store.entries.filter fun entry => entry.1 != key

/-- Keeps nothing under a key. -/
def erase (store : Store) (key : String) : Store where
  entries := store.entries.filter fun entry => entry.1 != key

/-- The text under a key. -/
def text? (store : Store) (key : String) : Except Fault (Option String) :=
  match store.find key with
  | none => .ok none
  | some (.text value _) => .ok (some value)
  | some (.stream _) => .error .wrongKind

/-- Keeps a text under a key. -/
def setText (store : Store) (key value : String) : Store :=
  store.put key (.text value false)

/-- Keeps an expiring text under a key that holds nothing. -/
def claim? (store : Store) (key value : String) : Option Store :=
  match store.find key with
  | none => some (store.put key (.text value true))
  | some _ => none

/-- Whether a key holds anything. -/
def holds (store : Store) (key : String) : Bool :=
  (store.find key).isSome

/-- Whether a key holds something that is set to expire. -/
def expires (store : Store) (key : String) : Bool :=
  match store.find key with
  | some (.text _ expires) => expires
  | _ => false

/-- The entries under a key, the newest first; none under a key that holds nothing. -/
def newestFirst (store : Store) (key : String) : Except Fault (List Fields) :=
  match store.find key with
  | none => .ok []
  | some (.stream entries) => .ok entries
  | some (.text _ _) => .error .wrongKind

/-- Adds an entry to the stream under a key, which begins with its first entry. -/
def append (store : Store) (key : String) (fields : Fields) : Except Fault Store :=
  if fields.isEmpty then .error .emptyEntry
  else (store.newestFirst key).map fun entries => store.put key (.stream (fields :: entries))

/-- The last `count` entries of a stream, the newest first. -/
def newest (store : Store) (key : String) (count : Nat) : Except Fault (List Fields) :=
  (store.newestFirst key).map (List.take count)

/-- All entries of a stream, the oldest first. -/
def stream (store : Store) (key : String) : Except Fault (List Fields) :=
  (store.newestFirst key).map List.reverse

/-- Leaving out the entries of one key changes nothing under the others. -/
theorem lookup_filter_ne {β : Type} {key other : String} (h : other ≠ key)
    (entries : List (String × β)) :
    (entries.filter fun entry => entry.1 != key).lookup other = entries.lookup other := by
  induction entries with
  | nil => rfl
  | cons entry rest ih =>
      obtain ⟨k, stored⟩ := entry
      by_cases hk : k = key
      · have ho : (other == k) = false := by simpa [hk] using h
        simp [hk, ih, List.lookup_cons, hk ▸ ho]
      · by_cases ho : other = k
        · subst ho
          simp [hk]
        · have ho' : (other == k) = false := by simpa using ho
          simp [hk, ih, List.lookup_cons, ho']

/-- Leaving out the entries of a key leaves nothing under it. -/
theorem lookup_filter_self (key : String) (entries : List (String × Stored)) :
    (entries.filter fun entry => entry.1 != key).lookup key = none := by
  induction entries with
  | nil => rfl
  | cons entry rest ih =>
      obtain ⟨k, stored⟩ := entry
      by_cases hk : k = key
      · simp [hk, ih]
      · have hk' : (key == k) = false := by simpa using Ne.symm hk
        simp [hk, ih, List.lookup_cons, hk']

/-- What was put under a key is found there, and other keys are left alone. -/
theorem find_put (store : Store) (key : String) (stored : Stored) (other : String) :
    (store.put key stored).find other = if other = key then some stored else store.find other := by
  by_cases h : other = key
  · simp [find, put, h]
  · have h' : (other == key) = false := by simpa using h
    simp [find, put, List.lookup_cons, h, h', lookup_filter_ne h]

/-- Nothing is found under an erased key, and other keys are left alone. -/
theorem find_erase (store : Store) (key other : String) :
    (store.erase key).find other = if other = key then none else store.find other := by
  by_cases h : other = key
  · subst h
    simp [find, erase, lookup_filter_self]
  · simp [find, erase, h, lookup_filter_ne h]

end Store

end Gridwalk
