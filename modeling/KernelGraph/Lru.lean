/-
  A cache that forgets the least recently used entry.

  Entries are kept in a hash map and linked by their keys from the most to the least recently used,
  so that every operation takes constant time.  A positive limit bounds the number of entries; a
  limit of zero or below is no bound.  `toList` is the view that everything is stated on: the
  entries, most recently used first.

  A watched cache also records every entry that it drops, in order.
-/
import Std.Data.HashMap
import KernelGraph.Text.Ratio

namespace KernelGraph

/-- What can be read off a cache without using it.  The counters are words of 64 bits; the hit rate
    is the part of the lookups that found an entry, with six decimals. -/
structure CacheStats where
  size : Nat
  capacity : Int
  hits : UInt64
  misses : UInt64
  hitRate : String
  evictions : UInt64
  deriving DecidableEq, Repr

/-- The statistics of a cache that has counted so much. -/
def CacheStats.of (size : Nat) (capacity : Int) (hits misses evictions : Nat) : CacheStats :=
  let hits := UInt64.ofNat hits
  let misses := UInt64.ofNat misses
  { size, capacity, hits, misses
    hitRate := Text.ratio hits.toNat (hits + misses).toNat
    evictions := UInt64.ofNat evictions }

/-- A value and the keys of its neighbours in order of use. -/
structure Lru.Entry (K V : Type) where
  value : V
  newer : Option K := none
  older : Option K := none

/-- A bounded cache with use order and counters.  The counters do not wrap here; only the words that
    the statistics show of them do. -/
structure Lru (K V : Type) [BEq K] [Hashable K] where
  limit : Int
  entries : Std.HashMap K (Lru.Entry K V) := {}
  newest : Option K := none
  oldest : Option K := none
  hits : Nat := 0
  misses : Nat := 0
  evictions : Nat := 0
  watched : Bool := false
  dropped : List (K × V) := []

namespace Lru

variable {K V : Type} [BEq K] [Hashable K]

/-- The empty cache with the given limit. -/
def empty (limit : Int) : Lru K V := { limit }

/-- The number of entries. -/
def size (c : Lru K V) : Nat := c.entries.size

/-- At most `fuel` entries from `key` on, towards the least recently used. -/
def walk (c : Lru K V) : (fuel : Nat) → Option K → List (K × V)
  | 0, _ => []
  | _, none => []
  | fuel + 1, some key =>
    match c.entries[key]? with
    | none => []
    | some e => (key, e.value) :: walk c fuel e.older

/-- The entries, most recently used first. -/
def toList (c : Lru K V) : List (K × V) := c.walk c.size c.newest

/-- Takes a key out of the order of use and leaves its value in place. -/
def unlink (c : Lru K V) (key : K) : Lru K V :=
  match c.entries[key]? with
  | none => c
  | some e =>
    let c := match e.newer with
      | some n => { c with entries := c.entries.modify n fun x => { x with older := e.older } }
      | none => { c with newest := e.older }
    match e.older with
    | some o => { c with entries := c.entries.modify o fun x => { x with newer := e.newer } }
    | none => { c with oldest := e.newer }

/-- Puts a key that is not linked in front of the order of use. -/
def pushFront (c : Lru K V) (key : K) (value : V) : Lru K V :=
  let c := match c.newest with
    | some n => { c with entries := c.entries.modify n fun x => { x with newer := some key } }
    | none => { c with oldest := some key }
  { c with
    entries := c.entries.insert key { value, older := c.newest }
    newest := some key }

/-- Marks a key as used last and gives it a value. -/
def use (c : Lru K V) (key : K) (value : V) : Lru K V := (c.unlink key).pushFront key value

/-- Drops an entry. -/
def remove (c : Lru K V) (key : K) : Lru K V :=
  match c.entries[key]? with
  | none => c
  | some e =>
    let c := c.unlink key
    { c with
      entries := c.entries.erase key
      dropped := if c.watched then c.dropped ++ [(key, e.value)] else c.dropped }

/-- Drops the least recently used entry. -/
def removeOldest (c : Lru K V) : Lru K V :=
  match c.oldest with
  | none => c
  | some key => c.remove key

/-- True when the cache holds more entries than its limit allows. -/
def isOver (c : Lru K V) : Bool := 0 < c.limit && c.limit < c.size

/-- Evicts at most `fuel` entries while the cache is over its limit. -/
def shrink : (fuel : Nat) → Lru K V → Lru K V
  | 0, c => c
  | fuel + 1, c =>
    if c.isOver then
      let c := c.removeOldest
      shrink fuel { c with evictions := c.evictions + 1 }
    else c

/-- Stores a value, evicting the least recently used entries while the cache is over its limit. -/
def set (c : Lru K V) (key : K) (value : V) : Lru K V :=
  if c.entries.contains key then c.use key value
  else
    let c := c.pushFront key value
    shrink c.size c

/-- Looks a key up and marks it as used last. -/
def get (c : Lru K V) (key : K) : Option V × Lru K V :=
  match c.entries[key]? with
  | none => (none, { c with misses := c.misses + 1 })
  | some e => (some e.value, { c.use key e.value with hits := c.hits + 1 })

/-- Returns the value of a key, or stores what `create` yields.  `create` may itself work on the
    cache; if it stored the key, that value stays and is returned.  A failure is not stored. -/
def getOrCreate {ε : Type} (c : Lru K V) (key : K) (create : Lru K V → Except ε V × Lru K V) :
    Except ε V × Lru K V :=
  match c.get key with
  | (some v, c) => (.ok v, c)
  | (none, c) =>
    match create c with
    | (.error e, c) => (.error e, c)
    | (.ok v, c) =>
      match c.entries[key]? with
      | some e => (.ok e.value, c.use key e.value)
      | none => (.ok v, c.set key v)

/-- Drops an entry and tells whether it was there. -/
def delete (c : Lru K V) (key : K) : Bool × Lru K V :=
  (c.entries.contains key, c.remove key)

/-- Drops at most `fuel` entries, least recently used first. -/
def clearAux : (fuel : Nat) → Lru K V → Lru K V
  | 0, c => c
  | fuel + 1, c => clearAux fuel c.removeOldest

/-- Drops every entry, least recently used first. -/
def clear (c : Lru K V) : Lru K V := clearAux c.size c

/-- The statistics of the cache. -/
def stats (c : Lru K V) : CacheStats := .of c.size c.limit c.hits c.misses c.evictions

/-- Switches the recording of dropped entries. -/
def watch (c : Lru K V) (on : Bool) : Lru K V := { c with watched := on }

/-- The entries dropped since the last call, while watched. -/
def takeDropped (c : Lru K V) : List (K × V) × Lru K V := (c.dropped, { c with dropped := [] })

end Lru

end KernelGraph
