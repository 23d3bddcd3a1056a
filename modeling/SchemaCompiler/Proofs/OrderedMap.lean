import Mathlib.Data.List.Basic
import Mathlib.Data.List.Induction
import SchemaCompiler.OrderedMap

namespace SchemaCompiler

/-! # Ordered maps and sets as lists

A map is determined by its entries, a set by its elements. Entries with distinct keys are kept as
they are, so a map comes back from its entries (`OrderedMap.ofList_entries`) and a set from its
elements (`OrderedSet.ofList_elems`). Of equal keys the first one fixes the place and the last one
the value (`OrderedMap.keys_ofList`, `OrderedMap.get?_ofList`). Two lists one behind the other make
the map of the first extended by the map of the second (`OrderedMap.ofList_append`). -/

/-- A new last element is a repetition or is kept. -/
theorem eraseDups_append_singleton {α : Type} [BEq α] [LawfulBEq α] [DecidableEq α] (xs : List α)
    (x : α) :
    (xs ++ [x]).eraseDups = if x ∈ xs then xs.eraseDups else xs.eraseDups ++ [x] := by
  rw [List.eraseDups_append]
  by_cases hx : x ∈ xs
  · simp [List.removeAll, hx]
  · have hkept : [x].removeAll xs = [x] := by simp [List.removeAll, hx]
    rw [if_neg hx, hkept]
    rfl

namespace OrderedMap

variable {κ ν : Type}

theorem eq_of_entries {map other : OrderedMap κ ν} (h : map.entries = other.entries) :
    map = other := by
  cases map
  cases other
  cases h
  rfl

variable [DecidableEq κ]

/-- A new key goes to the end. -/
theorem put_of_not_mem {key : κ} {entries : List (κ × ν)} (h : key ∉ entries.map Prod.fst)
    (value : ν) : put key value entries = entries ++ [(key, value)] := by
  induction entries with
  | nil => rfl
  | cons entry rest ih =>
      rw [List.map_cons, List.mem_cons, not_or] at h
      rw [put, if_neg (Ne.symm h.1), ih h.2, List.cons_append]

/-- Among distinct keys with values of their own, a known key changes its value only. -/
theorem put_map_of_mem {key : κ} {keys : List κ} (hnodup : keys.Nodup) (hmem : key ∈ keys)
    {f g : κ → ν} (h : ∀ k ∈ keys, k ≠ key → g k = f k) :
    put key (g key) (keys.map fun k => (k, f k)) = keys.map fun k => (k, g k) := by
  induction keys with
  | nil => cases hmem
  | cons k rest ih =>
      rw [List.nodup_cons] at hnodup
      rw [List.map_cons, List.map_cons, put]
      have hrest := fun j hj => h j (List.mem_cons_of_mem _ hj)
      by_cases hk : k = key
      · subst hk
        have hsame : rest.map (fun j => (j, f j)) = rest.map fun j => (j, g j) := by
          refine List.map_congr_left fun j hj => ?_
          rw [hrest j hj fun hjk => hnodup.1 (hjk ▸ hj)]
        rw [if_pos rfl, hsame]
      · have hmem : key ∈ rest := (List.mem_cons.1 hmem).resolve_left (Ne.symm hk)
        rw [if_neg hk, ih hnodup.2 hmem hrest, h k List.mem_cons_self hk]

theorem find?_map_keys (key : κ) (keys : List κ) (f : κ → ν) :
    ((keys.map fun k => (k, f k)).find? fun entry => entry.1 = key).map Prod.snd =
      if key ∈ keys then some (f key) else none := by
  induction keys with
  | nil => rfl
  | cons k rest ih =>
      rw [List.map_cons]
      by_cases hk : k = key
      · simp [hk]
      · rw [List.find?_cons_of_neg (by simpa using hk), ih]
        simp [Ne.symm hk]

theorem insertAll_cons (map : OrderedMap κ ν) (entry : κ × ν) (rest : List (κ × ν)) :
    map.insertAll (entry :: rest) = (map.insert entry.1 entry.2).insertAll rest := rfl

/-- New entries with distinct keys go to the end as they are. -/
theorem entries_insertAll {entries : List (κ × ν)} (map : OrderedMap κ ν)
    (h : (map.entries.map Prod.fst ++ entries.map Prod.fst).Nodup) :
    (map.insertAll entries).entries = map.entries ++ entries := by
  induction entries generalizing map with
  | nil => simp [insertAll]
  | cons entry rest ih =>
      -- the key of the first new entry is not among the old ones, so the entry goes to the end
      have hnew : entry.1 ∉ map.entries.map Prod.fst := by
        intro hmem
        have hdisjoint := (List.nodup_append.1 h).2.2
        exact hdisjoint entry.1 hmem entry.1 (by simp) rfl
      have hentries : (map.insert entry.1 entry.2).entries = map.entries ++ [entry] :=
        put_of_not_mem hnew entry.2
      rw [insertAll_cons, ih, hentries, List.append_assoc, List.singleton_append]
      simpa [hentries, List.append_assoc] using h

/-- Entries with distinct keys are the entries of their map. -/
theorem entries_ofList {entries : List (κ × ν)} (h : (entries.map Prod.fst).Nodup) :
    (ofList entries).entries = entries := by
  rw [ofList, entries_insertAll]
  · rfl
  · simpa using h

/-- A map comes back from its entries. -/
@[simp] theorem ofList_entries (map : OrderedMap κ ν) : ofList map.entries = map :=
  eq_of_entries (entries_ofList map.nodup_keys)

@[simp] theorem empty_extend (map : OrderedMap κ ν) : empty.extend map = map := ofList_entries map

/-- The key that is put in gets the new value, and the others keep theirs. -/
theorem find?_put (key k : κ) (value : ν) (entries : List (κ × ν)) :
    ((put key value entries).find? fun entry => entry.1 = k).map Prod.snd =
      if k = key then some value
      else (entries.find? fun entry => entry.1 = k).map Prod.snd := by
  induction entries with
  | nil =>
      by_cases hk : k = key
      · simp [put, hk]
      · simp [put, hk, Ne.symm hk]
  | cons entry rest ih =>
      by_cases hkey : entry.1 = key
      · subst hkey
        by_cases hk : k = entry.1
        · simp [put, hk]
        · simp [put, hk, Ne.symm hk]
      · rw [put, if_neg hkey]
        by_cases hk : entry.1 = k
        · subst hk
          simp [hkey]
        · rw [List.find?_cons_of_neg (by simpa using hk), ih,
            List.find?_cons_of_neg (by simpa using hk)]

theorem get?_insert (map : OrderedMap κ ν) (key k : κ) (value : ν) :
    (map.insert key value).get? k = if k = key then some value else map.get? k :=
  find?_put key k value map.entries

theorem ofList_append_singleton (entries : List (κ × ν)) (entry : κ × ν) :
    ofList (entries ++ [entry]) = (ofList entries).insert entry.1 entry.2 := by
  unfold ofList insertAll
  rw [List.foldl_append]
  rfl

theorem map_fst_put (key : κ) (value : ν) (entries : List (κ × ν)) :
    (put key value entries).map Prod.fst =
      if key ∈ entries.map Prod.fst then entries.map Prod.fst
      else entries.map Prod.fst ++ [key] := by
  induction entries with
  | nil => rfl
  | cons entry rest ih =>
      by_cases hkey : entry.1 = key
      · simp [put, hkey]
      · rw [put, if_neg hkey, List.map_cons, ih]
        by_cases hmem : key ∈ rest.map Prod.fst
        · have hmem' : key ∈ (entry :: rest).map Prod.fst := List.mem_cons_of_mem _ hmem
          rw [if_pos hmem, if_pos hmem', List.map_cons]
        · have hmem' : key ∉ (entry :: rest).map Prod.fst := by
            rw [List.map_cons, List.mem_cons, not_or]
            exact ⟨Ne.symm hkey, hmem⟩
          rw [if_neg hmem, if_neg hmem', List.map_cons, List.cons_append]

/-- Of equal keys the first one fixes the place. -/
theorem keys_ofList [BEq κ] [LawfulBEq κ] (entries : List (κ × ν)) :
    (ofList entries).keys = (entries.map Prod.fst).eraseDups := by
  induction entries using List.reverseRecOn with
  | nil => rfl
  | append_singleton es e ih =>
      have hmem : e.1 ∈ (ofList es).entries.map Prod.fst ↔ e.1 ∈ es.map Prod.fst := by
        have hkeys : (ofList es).entries.map Prod.fst = (es.map Prod.fst).eraseDups := ih
        rw [hkeys, List.mem_eraseDups]
      have hput : (ofList (es ++ [e])).keys =
          (put e.1 e.2 (ofList es).entries).map Prod.fst := by
        rw [ofList_append_singleton]
        rfl
      rw [hput, map_fst_put, List.map_append, List.map_singleton, eraseDups_append_singleton]
      simp only [hmem, ← ih]
      rfl

/-- Of equal keys the last one gives the value. -/
theorem get?_ofList (entries : List (κ × ν)) (key : κ) : (ofList entries).get? key =
    ((entries.filter fun entry => entry.1 = key).getLast?).map Prod.snd := by
  induction entries using List.reverseRecOn with
  | nil => rfl
  | append_singleton es e ih =>
      rw [ofList_append_singleton, get?_insert, ih, List.filter_append]
      by_cases hkey : key = e.1
      · simp [hkey]
      · simp [hkey, Ne.symm hkey]

theorem mem_keys_insertAll {map : OrderedMap κ ν} {entries : List (κ × ν)} {key : κ} :
    key ∈ (map.insertAll entries).keys ↔ key ∈ map.keys ∨ key ∈ entries.map Prod.fst := by
  induction entries generalizing map with
  | nil => simp [insertAll]
  | cons entry rest ih =>
      have hkeys : key ∈ (map.insert entry.1 entry.2).keys ↔ key = entry.1 ∨ key ∈ map.keys :=
        mem_keys_put entry.1 key entry.2 map.entries
      rw [insertAll_cons, ih, hkeys, List.map_cons, List.mem_cons]
      constructor
      · rintro ((h | h) | h)
        · exact .inr (.inl h)
        · exact .inl h
        · exact .inr (.inr h)
      · rintro (h | h | h)
        · exact .inl (.inr h)
        · exact .inl (.inl h)
        · exact .inr h

/-! ### Entries -/

theorem find?_eq_some_iff_mem {entries : List (κ × ν)} (h : (entries.map Prod.fst).Nodup)
    (key : κ) (value : ν) :
    (entries.find? fun entry => entry.1 = key).map Prod.snd = some value ↔
      (key, value) ∈ entries := by
  induction entries with
  | nil => simp
  | cons entry rest ih =>
      rw [List.map_cons, List.nodup_cons] at h
      by_cases hkey : entry.1 = key
      · -- no other entry has the key of the first one
        have hrest : (key, value) ∉ rest := fun hmem =>
          h.1 (hkey ▸ List.mem_map_of_mem (f := Prod.fst) hmem)
        rw [List.find?_cons_of_pos (by simpa using hkey), Option.map_some, List.mem_cons,
          or_iff_left hrest, Option.some_inj, Prod.ext_iff]
        exact ⟨fun hvalue => ⟨hkey.symm, hvalue.symm⟩, fun hentry => hentry.2.symm⟩
      · have hne : (key, value) ≠ entry := fun hentry => hkey (hentry ▸ rfl)
        rw [List.find?_cons_of_neg (by simpa using hkey), ih h.2, List.mem_cons, or_iff_right hne]

/-- What a key has is what stands beside it. -/
theorem get?_eq_some_iff {map : OrderedMap κ ν} {key : κ} {value : ν} :
    map.get? key = some value ↔ (key, value) ∈ map.entries :=
  find?_eq_some_iff_mem map.nodup_keys key value

/-- What a key has does not depend on the order of the entries. -/
theorem get?_of_perm {map other : OrderedMap κ ν} (h : map.entries.Perm other.entries) (key : κ) :
    map.get? key = other.get? key := by
  ext value
  rw [get?_eq_some_iff, get?_eq_some_iff, h.mem_iff]

/-- The entries are the keys with what they have. -/
theorem filter_entries (map : OrderedMap κ ν) (p : κ → Bool) :
    (map.entries.filter fun entry => p entry.1) =
      (map.keys.filter p).filterMap fun key => (map.get? key).map fun value => (key, value) := by
  have hentry : ∀ entry ∈ map.entries.filter fun entry => p entry.1,
      (map.get? entry.1).map (fun value => (entry.1, value)) = some entry := by
    intro entry hmem
    rw [get?_eq_some_iff.2 (List.mem_filter.1 hmem).1, Option.map_some]
  have hkeys : map.keys.filter p = (map.entries.filter fun entry => p entry.1).map Prod.fst :=
    List.filter_map
  rw [hkeys, List.filterMap_map]
  exact (List.filterMap_some.symm).trans (List.filterMap_congr hentry).symm

/-! ### Lists one behind the other -/

theorem insertAll_append (map : OrderedMap κ ν) (entries others : List (κ × ν)) :
    map.insertAll (entries ++ others) = (map.insertAll entries).insertAll others :=
  List.foldl_append

theorem put_put (key : κ) (value other : ν) (entries : List (κ × ν)) :
    put key value (put key other entries) = put key value entries := by
  induction entries with
  | nil => simp [put]
  | cons entry rest ih =>
      by_cases hkey : entry.1 = key
      · simp [put, hkey]
      · simp [put, hkey, ih]

/-- A key that has its place already can be given its value before or after another key. -/
theorem put_comm {key other : κ} (hne : other ≠ key) (value otherValue : ν)
    {entries : List (κ × ν)} (hmem : key ∈ entries.map Prod.fst) :
    put key value (put other otherValue entries) = put other otherValue (put key value entries) := by
  induction entries with
  | nil => cases hmem
  | cons entry rest ih =>
      by_cases hkey : entry.1 = key
      · simp [put, hkey, hne.symm]
      · have hrest : key ∈ rest.map Prod.fst := by
          rw [List.map_cons, List.mem_cons] at hmem
          exact hmem.resolve_left (Ne.symm hkey)
        by_cases hother : entry.1 = other
        · simp [put, hother, hne]
        · simp [put, hkey, hother, ih hrest]

theorem insert_insert (map : OrderedMap κ ν) (key : κ) (value other : ν) :
    (map.insert key other).insert key value = map.insert key value :=
  eq_of_entries (put_put key value other map.entries)

theorem mem_keys_insert_self (map : OrderedMap κ ν) (key : κ) (value : ν) :
    key ∈ (map.insert key value).keys :=
  (mem_keys_put key key value map.entries).2 (.inl rfl)

/-- A key that has its place already can be given its value before or after others. -/
theorem insert_insertAll {map : OrderedMap κ ν} {key : κ} (hmem : key ∈ map.keys) (value : ν)
    {entries : List (κ × ν)} (hnot : key ∉ entries.map Prod.fst) :
    (map.insertAll entries).insert key value = (map.insert key value).insertAll entries := by
  induction entries generalizing map with
  | nil => rfl
  | cons entry rest ih =>
      rw [List.map_cons, List.mem_cons, not_or] at hnot
      have hplace : key ∈ (map.insert entry.1 entry.2).keys :=
        (mem_keys_put entry.1 key entry.2 map.entries).2 (.inr hmem)
      have hcomm : (map.insert entry.1 entry.2).insert key value =
          (map.insert key value).insert entry.1 entry.2 :=
        eq_of_entries (put_comm (Ne.symm hnot.1) value entry.2 hmem)
      rw [insertAll_cons, insertAll_cons, ih hplace hnot.2, hcomm]

/-- A key put among distinct ones is the last one that they assign. -/
theorem insertAll_put (map : OrderedMap κ ν) (key : κ) (value : ν) {entries : List (κ × ν)}
    (h : (entries.map Prod.fst).Nodup) :
    map.insertAll (put key value entries) = (map.insertAll entries).insert key value := by
  induction entries generalizing map with
  | nil => rfl
  | cons entry rest ih =>
      rw [List.map_cons, List.nodup_cons] at h
      by_cases hkey : entry.1 = key
      · -- the first assignment of the key only fixes its place
        subst hkey
        have hlater := insert_insertAll (mem_keys_insert_self map entry.1 entry.2) value h.1
        rw [put, if_pos rfl, insertAll_cons, insertAll_cons, hlater, insert_insert]
      · rw [put, if_neg hkey, insertAll_cons, insertAll_cons, ih _ h.2]

/-- To assign the entries of a list is to extend by the map of the list. -/
theorem insertAll_eq_extend (map : OrderedMap κ ν) (entries : List (κ × ν)) :
    map.insertAll entries = map.extend (ofList entries) := by
  -- a map grows at its end, so the induction takes entries from the end of the list
  induction entries using List.reverseRecOn with
  | nil => rfl
  | append_singleton entries entry ih =>
      have hput : map.extend (ofList (entries ++ [entry])) =
          map.insertAll (put entry.1 entry.2 (ofList entries).entries) := by
        rw [ofList_append_singleton]
        rfl
      rw [hput, insertAll_put map _ _ (ofList entries).nodup_keys, insertAll_append, ih]
      rfl

/-- The map of two lists one behind the other is the first map extended by the second one. -/
theorem ofList_append (entries others : List (κ × ν)) :
    ofList (entries ++ others) = (ofList entries).extend (ofList others) := by
  rw [ofList, insertAll_append, insertAll_eq_extend]
  rfl

/-! ### Entries left out -/

/-- The entries with a property, in their order. -/
def filter (p : κ × ν → Bool) (map : OrderedMap κ ν) : OrderedMap κ ν :=
  ⟨map.entries.filter p, map.nodup_keys.sublist (List.filter_sublist.map _)⟩

theorem find?_filter {entries : List (κ × ν)} (h : (entries.map Prod.fst).Nodup)
    (p : κ × ν → Bool) (key : κ) :
    ((entries.filter p).find? fun entry => entry.1 = key).map Prod.snd =
      ((entries.find? fun entry => entry.1 = key).map Prod.snd).filter fun value =>
        p (key, value) := by
  induction entries with
  | nil => rfl
  | cons entry rest ih =>
      rw [List.map_cons, List.nodup_cons] at h
      have hrest := ih h.2
      by_cases hkey : entry.1 = key
      · subst hkey
        have hfound : ∀ es : List (κ × ν),
            ((entry :: es).find? fun e => e.1 = entry.1) = some entry :=
          fun _ => List.find?_cons_of_pos (decide_eq_true rfl)
        cases hp : p entry with
        | false =>
            -- no other entry has the key of the one that is left out
            have hnone : (rest.find? fun e => e.1 = entry.1) = none := by
              rw [List.find?_eq_none]
              intro e he hsame
              exact h.1 (of_decide_eq_true hsame ▸ List.mem_map_of_mem he)
            rw [List.filter_cons_of_neg (ne_true_of_eq_false hp), hrest, hnone, hfound]
            exact (if_neg (ne_true_of_eq_false hp)).symm
        | true =>
            rw [List.filter_cons_of_pos hp, hfound, hfound]
            exact (if_pos hp).symm
      · have hskip : ∀ es : List (κ × ν),
            ((entry :: es).find? fun e => e.1 = key) = es.find? fun e => e.1 = key :=
          fun _ => List.find?_cons_of_neg (by simpa using hkey)
        cases hp : p entry with
        | false => rw [List.filter_cons_of_neg (ne_true_of_eq_false hp), hskip, hrest]
        | true => rw [List.filter_cons_of_pos hp, hskip, hskip, hrest]

/-- A key keeps its value if its entry has the property, and has none otherwise. -/
theorem get?_filter (p : κ × ν → Bool) (map : OrderedMap κ ν) (key : κ) :
    (map.filter p).get? key = (map.get? key).filter fun value => p (key, value) :=
  find?_filter map.nodup_keys p key

variable {κ' : Type} [DecidableEq κ']

/-- The map with its keys sent on. Of the keys that become equal, the first one fixes the place and
the last one the value. -/
def mapKeys (f : κ → κ') (map : OrderedMap κ ν) : OrderedMap κ' ν :=
  ofList (map.entries.map (Prod.map f id))

end OrderedMap

namespace OrderedSet

variable {κ : Type}

theorem eq_of_elems {set other : OrderedSet κ} (h : set.elems = other.elems) : set = other := by
  cases set
  cases other
  cases h
  rfl

variable [DecidableEq κ]

theorem contains_iff {set : OrderedSet κ} {x : κ} : set.contains x = true ↔ x ∈ set.elems := by
  rw [contains, decide_eq_true_iff]

theorem elems_insert_of_not_mem {set : OrderedSet κ} {x : κ} (h : x ∉ set.elems) :
    (set.insert x).elems = set.elems ++ [x] := by
  simp [insert, h]

theorem insert_of_mem {set : OrderedSet κ} {x : κ} (h : x ∈ set.elems) : set.insert x = set := by
  simp [insert, h]

/-- New distinct elements go to the end as they are. -/
theorem elems_foldl_insert {xs : List κ} (set : OrderedSet κ) (h : (set.elems ++ xs).Nodup) :
    (xs.foldl insert set).elems = set.elems ++ xs := by
  induction xs generalizing set with
  | nil => simp
  | cons x xs ih =>
      have hnew : x ∉ set.elems := by
        intro hmem
        exact (List.nodup_append.1 h).2.2 x hmem x (by simp) rfl
      have helems := elems_insert_of_not_mem hnew
      rw [List.foldl_cons, ih, helems, List.append_assoc, List.singleton_append]
      simpa [helems, List.append_assoc] using h

/-- A set comes back from its elements. -/
@[simp] theorem ofList_elems (set : OrderedSet κ) : ofList set.elems = set := by
  apply eq_of_elems
  rw [ofList, elems_foldl_insert]
  · rfl
  · simpa using set.nodup_elems

theorem ofList_append_singleton (xs : List κ) (x : κ) :
    ofList (xs ++ [x]) = (ofList xs).insert x := by
  rw [ofList, List.foldl_append]
  rfl

theorem mem_insert {set : OrderedSet κ} {x y : κ} :
    y ∈ (set.insert x).elems ↔ y ∈ set.elems ∨ y = x := by
  by_cases h : x ∈ set.elems
  · rw [insert_of_mem h]
    constructor
    · exact .inl
    · rintro (hy | rfl)
      · exact hy
      · exact h
  · rw [elems_insert_of_not_mem h, List.mem_append, List.mem_singleton]

/-- A list and its set have the same elements. -/
theorem mem_ofList {xs : List κ} {x : κ} : x ∈ (ofList xs).elems ↔ x ∈ xs := by
  -- the set grows at the end, so the induction takes elements from the end of the list
  induction xs using List.reverseRecOn with
  | nil => simp [ofList]
  | append_singleton ys y ih =>
      rw [ofList_append_singleton, mem_insert, ih, List.mem_append, List.mem_singleton]

/-- Of equal elements the first one is kept. -/
theorem elems_ofList [BEq κ] [LawfulBEq κ] (xs : List κ) : (ofList xs).elems = xs.eraseDups := by
  induction xs using List.reverseRecOn with
  | nil => rfl
  | append_singleton ys y ih =>
      rw [ofList_append_singleton, eraseDups_append_singleton, ← ih]
      by_cases hy : y ∈ ys
      · rw [if_pos hy, insert_of_mem (mem_ofList.2 hy)]
      · rw [if_neg hy, elems_insert_of_not_mem fun h => hy (mem_ofList.1 h)]

theorem elems_ofList_eq_nil {xs : List κ} : (ofList xs).elems = [] ↔ xs = [] := by
  constructor
  · intro h
    rw [List.eq_nil_iff_forall_not_mem]
    intro x hx
    have hmem : x ∈ (ofList xs).elems := mem_ofList.2 hx
    rw [h] at hmem
    cases hmem
  · rintro rfl
    rfl

variable {κ' : Type} [DecidableEq κ']

/-- The images of the elements, equal ones collapsed. -/
def map (f : κ → κ') (set : OrderedSet κ) : OrderedSet κ' := ofList (set.elems.map f)

/-- Elements that are equal already need not be collapsed again once they are sent on. -/
theorem map_ofList (f : κ → κ') (xs : List κ) : (ofList xs).map f = ofList (xs.map f) := by
  induction xs using List.reverseRecOn with
  | nil => rfl
  | append_singleton ys y ih =>
      rw [ofList_append_singleton, List.map_append, List.map_singleton, ofList_append_singleton,
        ← ih]
      by_cases h : y ∈ (ofList ys).elems
      · -- an element that is there already has its image there
        have himage : f y ∈ ((ofList ys).map f).elems :=
          mem_ofList.2 (List.mem_map_of_mem h)
        rw [insert_of_mem h, insert_of_mem himage]
      · rw [map, elems_insert_of_not_mem h, List.map_append, List.map_singleton,
          ofList_append_singleton]
        rfl

end OrderedSet

end SchemaCompiler
