import SchemaCompiler.Proofs.OrderedMap
import SchemaCompiler.Sql.Script

namespace SchemaCompiler

/-! # Collected scripts

A book of scripts has one page for each name, and an object whose name has a page already is written
there. So the scripts go out by name, in the order in which names first come up
(`ScriptBook.entries_ofObjects`). Where objects of one name stand next to each other, this is the
order of the objects (`ScriptBook.grouped_of_together`).
-/

namespace ScriptBook

/-- The script of an object. -/
def scriptOf (object : Object) : Text := Script.ofObject Sql.defaultSchema object

/-- The names of objects, in the order in which they first come up. -/
def names (objects : List Object) : List Text := (OrderedSet.ofList (objects.map Object.name)).elems

/-- The scripts of the objects of a name, one after another. -/
def page (objects : List Object) (name : Text) : Text :=
  (objects.filter fun o => o.name = name).flatMap scriptOf

/-- The scripts of objects by name. -/
def grouped (objects : List Object) : Text := (names objects).flatMap (page objects)

/-- The book of the scripts of objects. -/
def ofObjects (objects : List Object) : ScriptBook := objects.foldl add OrderedMap.empty

/-! ## Pages -/

theorem page_concat_self (objects : List Object) (o : Object) :
    page (objects ++ [o]) o.name = page objects o.name ++ scriptOf o := by
  simp [page]

theorem page_concat_of_ne {name : Text} {o : Object} (h : o.name ≠ name) (objects : List Object) :
    page (objects ++ [o]) name = page objects name := by
  simp [page, h]

theorem mem_names {objects : List Object} {name : Text} :
    name ∈ names objects ↔ ∃ o ∈ objects, o.name = name := by
  rw [names, OrderedSet.mem_ofList, List.mem_map]

theorem page_of_not_mem {objects : List Object} {name : Text} (h : name ∉ names objects) :
    page objects name = [] := by
  rw [mem_names] at h
  push Not at h
  rw [page, List.filter_eq_nil_iff.2 (by simpa using h), List.flatMap_nil]

theorem names_concat_of_mem {objects : List Object} {o : Object} (h : o.name ∈ names objects) :
    names (objects ++ [o]) = names objects := by
  rw [names, List.map_append, List.map_singleton, OrderedSet.ofList_append_singleton,
    OrderedSet.insert_of_mem h, names]

theorem names_concat_of_not_mem {objects : List Object} {o : Object} (h : o.name ∉ names objects) :
    names (objects ++ [o]) = names objects ++ [o.name] := by
  rw [names, List.map_append, List.map_singleton, OrderedSet.ofList_append_singleton,
    OrderedSet.elems_insert_of_not_mem h, names]

theorem nodup_names (objects : List Object) : (names objects).Nodup :=
  (OrderedSet.ofList (objects.map Object.name)).nodup_elems

/-- One more object is written on the page of its name, and no other page changes. -/
theorem put_page (objects : List Object) (o : Object) :
    OrderedMap.put o.name (page (objects ++ [o]) o.name)
        ((names objects).map fun name => (name, page objects name)) =
      (names (objects ++ [o])).map fun name => (name, page (objects ++ [o]) name) := by
  have hother : ∀ name ∈ names objects, name ≠ o.name →
      page (objects ++ [o]) name = page objects name :=
    fun name _ hne => page_concat_of_ne (Ne.symm hne) objects
  by_cases hname : o.name ∈ names objects
  · rw [OrderedMap.put_map_of_mem (nodup_names objects) hname hother, names_concat_of_mem hname]
  · -- the name is new, so its page is a new one at the end
    have hsame : (names objects).map (fun name => (name, page (objects ++ [o]) name)) =
        (names objects).map fun name => (name, page objects name) := by
      refine List.map_congr_left fun name hmem => ?_
      rw [hother name hmem fun heq => hname (heq ▸ hmem)]
    rw [OrderedMap.put_of_not_mem (by simpa using hname), names_concat_of_not_mem hname,
      List.map_append, hsame, List.map_singleton]

/-- Every name has its page, in the order in which names first come up. -/
theorem entries_ofObjects (objects : List Object) :
    (ofObjects objects).entries = (names objects).map fun name => (name, page objects name) := by
  induction objects using List.reverseRecOn with
  | nil => rfl
  | append_singleton objects o ih =>
      have hearlier : (OrderedMap.get? (ofObjects objects) o.name).getD [] =
          page objects o.name := by
        rw [OrderedMap.get?, ih, OrderedMap.find?_map_keys]
        split
        · rfl
        · rename_i hname
          exact (page_of_not_mem hname).symm
      have hadd : ofObjects (objects ++ [o]) = add (ofObjects objects) o := by
        rw [ofObjects, List.foldl_append]
        rfl
      rw [hadd, ← put_page, page_concat_self, ← hearlier, ← ih]
      rfl

/-- A book holds the scripts by name. -/
theorem text_ofObjects (objects : List Object) : text (ofObjects objects) = grouped objects := by
  rw [text, entries_ofObjects, List.flatMap_map, grouped]

/-! ## Order -/

/-- Objects of the same name stand next to each other: all objects between two of a name have it. -/
def Together (objects : List Object) : Prop :=
  ∀ before o between o' after, objects = before ++ o :: between ++ o' :: after → o.name = o'.name →
    ∀ x ∈ between, x.name = o.name

theorem Together.of_concat {objects : List Object} {o : Object} (h : Together (objects ++ [o])) :
    Together objects := by
  intro before a between b after heq
  refine h before a between b (after ++ [o]) ?_
  rw [heq]
  simp

/-- An object whose name has come up before follows one of the same name. -/
theorem Together.getLast?_eq {objects : List Object} {o : Object} (h : Together (objects ++ [o]))
    (hname : o.name ∈ names objects) : (objects.map Object.name).getLast? = some o.name := by
  obtain ⟨earlier, hmem, hearlier⟩ := mem_names.1 hname
  obtain ⟨before, between, rfl⟩ := List.append_of_mem hmem
  have hbetween := h before earlier between o [] (by simp) hearlier
  rcases List.eq_nil_or_concat between with rfl | ⟨front, last, hconcat⟩
  · simp [hearlier]
  · rw [List.concat_eq_append] at hconcat
    subst hconcat
    have hlast : last.name = o.name := (hbetween last (by simp)).trans hearlier
    rw [← List.cons_append, ← List.append_assoc, List.map_append, List.map_singleton,
      List.getLast?_concat, hlast]

/-- Where names stand together, the last name to come up is that of the last object. -/
theorem Together.getLast?_names {objects : List Object} (h : Together objects) :
    (names objects).getLast? = (objects.map Object.name).getLast? := by
  induction objects using List.reverseRecOn with
  | nil => rfl
  | append_singleton objects o ih =>
      by_cases hname : o.name ∈ names objects
      · rw [names_concat_of_mem hname, ih h.of_concat, h.getLast?_eq hname]
        simp
      · rw [names_concat_of_not_mem hname]
        simp

theorem flatMap_page_congr {names : List Text} {objects : List Object} {o : Object}
    (h : o.name ∉ names) :
    names.flatMap (page (objects ++ [o])) = names.flatMap (page objects) := by
  have hpages : names.map (page (objects ++ [o])) = names.map (page objects) :=
    List.map_congr_left fun name hmem => page_concat_of_ne (fun heq => h (heq ▸ hmem)) objects
  rw [List.flatMap_def, hpages, List.flatMap_def]

/-- A script goes to the end if its name is new or the last one that came up. -/
theorem grouped_concat {objects : List Object} {o : Object}
    (h : o.name ∈ names objects → (names objects).getLast? = some o.name) :
    grouped (objects ++ [o]) = grouped objects ++ scriptOf o := by
  rw [grouped, grouped]
  by_cases hname : o.name ∈ names objects
  · obtain ⟨front, hfront⟩ := List.getLast?_eq_some_iff.1 (h hname)
    have hnew : o.name ∉ front := by
      have hnodup := nodup_names objects
      rw [hfront] at hnodup
      exact fun hmem => (List.nodup_append.1 hnodup).2.2 _ hmem _ (by simp) rfl
    rw [names_concat_of_mem hname, hfront, List.flatMap_append, flatMap_page_congr hnew,
      List.flatMap_append, List.flatMap_singleton, List.flatMap_singleton, page_concat_self,
      List.append_assoc]
  · rw [names_concat_of_not_mem hname, List.flatMap_append, flatMap_page_congr hname,
      List.flatMap_singleton, page_concat_self, page_of_not_mem hname, List.nil_append]

/-- Where objects of the same name stand next to each other, their scripts go out in their order. -/
theorem grouped_of_together {objects : List Object} (h : Together objects) :
    grouped objects = objects.flatMap scriptOf := by
  induction objects using List.reverseRecOn with
  | nil => rfl
  | append_singleton objects o ih =>
      have hlast : o.name ∈ names objects → (names objects).getLast? = some o.name := fun hname =>
        h.of_concat.getLast?_names.trans (h.getLast?_eq hname)
      rw [grouped_concat hlast, ih h.of_concat, List.flatMap_append, List.flatMap_singleton]

end ScriptBook

end SchemaCompiler
