/-!
# Ordered maps and ordered sets

A map that remembers in which order its keys were first inserted: inserting a new key puts it last,
inserting a known key changes its value where it stands. An ordered set keeps the first of equal
elements. That no key occurs twice is part of both types.

Main definitions: `OrderedMap.insert`, `OrderedMap.get?`, `OrderedMap.extend`, `OrderedMap.ofList`,
and `OrderedSet.insert`, `OrderedSet.ofList`.
-/

namespace SchemaCompiler

/-- An association list whose keys are pairwise distinct, in the order of their first insertion. -/
structure OrderedMap (κ ν : Type) where
  /-- The keys with their values, first inserted key first. -/
  entries : List (κ × ν)
  nodup_keys : (entries.map Prod.fst).Nodup
  deriving DecidableEq, Repr

namespace OrderedMap

variable {κ ν : Type} [DecidableEq κ]

/-- Replaces the value of a key where it stands, or adds the key at the end. -/
def put (key : κ) (value : ν) : List (κ × ν) → List (κ × ν)
  | [] => [(key, value)]
  | entry :: rest =>
    if entry.1 = key then (key, value) :: rest else entry :: put key value rest

/-- A key occurs after a replacement if it is the new key or occurred before. -/
theorem mem_keys_put (key k : κ) (value : ν) (entries : List (κ × ν)) :
    k ∈ (put key value entries).map Prod.fst ↔ k = key ∨ k ∈ entries.map Prod.fst := by
  induction entries with
  | nil => simp [put]
  | cons entry rest ih =>
      by_cases h : entry.1 = key
      · subst h; simp [put]
      · rw [put, if_neg h, List.map_cons, List.mem_cons, ih, List.map_cons, List.mem_cons]
        constructor
        · rintro (h₁ | h₁ | h₁)
          · exact .inr (.inl h₁)
          · exact .inl h₁
          · exact .inr (.inr h₁)
        · rintro (h₁ | h₁ | h₁)
          · exact .inr (.inl h₁)
          · exact .inl h₁
          · exact .inr (.inr h₁)

/-- Putting a key keeps the keys distinct. -/
theorem nodup_keys_put (key : κ) (value : ν) {entries : List (κ × ν)}
    (h : (entries.map Prod.fst).Nodup) : ((put key value entries).map Prod.fst).Nodup := by
  induction entries with
  | nil => simp [put]
  | cons entry rest ih =>
      rw [List.map_cons, List.nodup_cons] at h
      by_cases hk : entry.1 = key
      · subst hk
        rw [put, if_pos rfl, List.map_cons, List.nodup_cons]
        exact h
      · rw [put, if_neg hk, List.map_cons, List.nodup_cons, mem_keys_put]
        exact ⟨fun h' => h'.elim hk h.1, ih h.2⟩

/-- The map without entries. -/
def empty : OrderedMap κ ν := ⟨[], List.nodup_nil⟩

instance : Inhabited (OrderedMap κ ν) := ⟨⟨[], List.nodup_nil⟩⟩

instance : EmptyCollection (OrderedMap κ ν) := ⟨⟨[], List.nodup_nil⟩⟩

/-- Assigns a value to a key. -/
def insert (map : OrderedMap κ ν) (key : κ) (value : ν) : OrderedMap κ ν :=
  ⟨put key value map.entries, nodup_keys_put key value map.nodup_keys⟩

/-- Assigns every entry of a list, in order. -/
def insertAll (map : OrderedMap κ ν) (entries : List (κ × ν)) : OrderedMap κ ν :=
  entries.foldl (fun acc entry => acc.insert entry.1 entry.2) map

/-- The map of a list of entries: of equal keys the first fixes the place, the last the value. -/
def ofList (entries : List (κ × ν)) : OrderedMap κ ν := insertAll ⟨[], List.nodup_nil⟩ entries

/-- Assigns every entry of another map. -/
def extend (map other : OrderedMap κ ν) : OrderedMap κ ν := map.insertAll other.entries

/-- The value of a key. -/
def get? (map : OrderedMap κ ν) (key : κ) : Option ν :=
  (map.entries.find? fun entry => entry.1 = key).map Prod.snd

/-- The key has an entry. -/
def contains (map : OrderedMap κ ν) (key : κ) : Bool := map.entries.any fun entry => entry.1 = key

/-- The keys, first inserted first. -/
def keys (map : OrderedMap κ ν) : List κ := map.entries.map Prod.fst

/-- The number of entries. -/
def size (map : OrderedMap κ ν) : Nat := map.entries.length

/-- The map has no entry. -/
def isEmpty (map : OrderedMap κ ν) : Bool := map.entries.isEmpty

end OrderedMap

/-- A list without repetitions, in the order of first insertion. -/
structure OrderedSet (κ : Type) where
  /-- The elements, first inserted first. -/
  elems : List κ
  nodup_elems : elems.Nodup
  deriving DecidableEq, Repr

namespace OrderedSet

variable {κ : Type} [DecidableEq κ]

/-- Adds an element at the end unless it is already there. -/
def insert (set : OrderedSet κ) (x : κ) : OrderedSet κ :=
  if h : x ∈ set.elems then set
  else
    ⟨set.elems ++ [x], by
      refine List.nodup_append.2 ⟨set.nodup_elems, by simp, ?_⟩
      intro a ha b hb
      rw [List.mem_singleton] at hb
      exact fun hab => h (hb ▸ hab ▸ ha)⟩

/-- The set of a list: of equal elements the first fixes the place. -/
def ofList (xs : List κ) : OrderedSet κ := xs.foldl insert ⟨[], List.nodup_nil⟩

instance : Membership κ (OrderedSet κ) := ⟨fun set x => x ∈ set.elems⟩

/-- The element is in the set. -/
def contains (set : OrderedSet κ) (x : κ) : Bool := decide (x ∈ set.elems)

end OrderedSet

end SchemaCompiler
