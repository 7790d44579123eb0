import Mathlib.Data.List.Basic

set_option autoImplicit false

namespace DataPilot.Base

variable {κ α : Type} [DecidableEq κ]

-- fields[key] = value of a dict that keeps the order of its keys.
def setItem (key : κ) (value : α) : List (κ × α) → List (κ × α)
  | [] => [(key, value)]
  | (name, old) :: rest => if name = key then (name, value) :: rest else (name, old) :: setItem key value rest

def setItems (fields pairs : List (κ × α)) : List (κ × α) :=
  pairs.foldl (fun fields pair => setItem pair.1 pair.2 fields) fields

-- {key: value for key, value in pairs}
def fromItems (pairs : List (κ × α)) : List (κ × α) := setItems [] pairs

-- fields.get(key)
def getItem (key : κ) : List (κ × α) → Option α
  | [] => none
  | (name, value) :: rest => if name = key then some value else getItem key rest

-- fields.pop(key, None)
def popItem (key : κ) (fields : List (κ × α)) : List (κ × α) := fields.filter fun field => decide (field.1 ≠ key)

theorem get_item_none (key : κ) (fields : List (κ × α)) : getItem key fields = none ↔ key ∉ fields.map Prod.fst := by
  induction fields with
  | nil => simp [getItem]
  | cons field rest ih =>
      obtain ⟨name, value⟩ := field
      by_cases same : name = key
      · simp [getItem, same]
      · simp [getItem, same, ih, Ne.symm same]

theorem get_item_mem (key : κ) (value : α) (fields : List (κ × α)) (found : getItem key fields = some value) :
    (key, value) ∈ fields := by
  induction fields with
  | nil => cases found
  | cons field rest ih =>
      obtain ⟨name, first⟩ := field
      rw [getItem] at found
      by_cases same : name = key
      · rw [if_pos same] at found
        cases found
        rw [same]
        exact List.mem_cons_self ..
      · rw [if_neg same] at found
        exact List.mem_cons_of_mem _ (ih found)

theorem get_set_item (key other : κ) (value : α) (fields : List (κ × α)) :
    getItem other (setItem key value fields) = if key = other then some value else getItem other fields := by
  induction fields with
  | nil => rfl
  | cons field rest ih =>
      obtain ⟨name, old⟩ := field
      by_cases same : name = key
      · by_cases here : key = other
        · simp [setItem, getItem, same, here]
        · simp [setItem, getItem, same, here]
      · by_cases here : name = other
        · have apart : key ≠ other := fun equal => same (here.trans equal.symm)
          rw [setItem, if_neg same, getItem, if_pos here, getItem, if_pos here, if_neg apart]
        · rw [setItem, if_neg same, getItem, if_neg here, ih, getItem, if_neg here]

theorem get_pop_item (key other : κ) (fields : List (κ × α)) :
    getItem other (popItem key fields) = if key = other then none else getItem other fields := by
  induction fields with
  | nil => simp [popItem, getItem]
  | cons field rest ih =>
      obtain ⟨name, old⟩ := field
      rw [popItem] at ih ⊢
      by_cases same : name = key
      · rw [List.filter_cons_of_neg (by simp [same]), ih]
        by_cases here : key = other
        · rw [if_pos here, if_pos here]
        · rw [if_neg here, if_neg here, getItem, if_neg (same ▸ here)]
      · rw [List.filter_cons_of_pos (by simp [same]), getItem, getItem, ih]
        by_cases here : name = other
        · have apart : key ≠ other := fun equal => same (here.trans equal.symm)
          rw [if_pos here, if_pos here, if_neg apart]
        · rw [if_neg here, if_neg here]

theorem set_item_present (key : κ) (value : α) (fields : List (κ × α)) :
    key ∈ (setItem key value fields).map Prod.fst := by
  induction fields with
  | nil => exact List.mem_cons_self ..
  | cons field rest ih =>
      obtain ⟨name, old⟩ := field
      rw [setItem]
      by_cases same : name = key
      · simp [same]
      · rw [if_neg same]
        exact List.mem_cons_of_mem _ ih

theorem set_item_keeps (key other : κ) (value : α) (fields : List (κ × α)) (present : other ∈ fields.map Prod.fst) :
    other ∈ (setItem key value fields).map Prod.fst := by
  induction fields with
  | nil => cases present
  | cons field rest ih =>
      obtain ⟨name, old⟩ := field
      rw [setItem]
      by_cases same : name = key
      · rw [if_pos same]
        exact present
      · rw [if_neg same]
        rcases List.mem_cons.mp present with here | later
        · exact List.mem_cons.mpr (.inl here)
        · exact List.mem_cons_of_mem _ (ih later)

theorem set_item_keys (key : κ) (value : α) (fields : List (κ × α)) (present : key ∈ fields.map Prod.fst) :
    (setItem key value fields).map Prod.fst = fields.map Prod.fst := by
  induction fields with
  | nil => cases present
  | cons field rest ih =>
      obtain ⟨name, old⟩ := field
      rw [setItem]
      by_cases same : name = key
      · rw [if_pos same]
        rfl
      · rw [if_neg same, List.map_cons, List.map_cons]
        rcases List.mem_cons.mp present with here | later
        · exact absurd here.symm same
        · rw [ih later]

theorem mem_set_item (key : κ) (value : α) (fields : List (κ × α)) (field : κ × α)
    (member : field ∈ setItem key value fields) : field = (key, value) ∨ field ∈ fields := by
  induction fields with
  | nil => exact .inl (List.mem_singleton.mp member)
  | cons first rest ih =>
      obtain ⟨name, old⟩ := first
      rw [setItem] at member
      by_cases same : name = key
      · rw [if_pos same] at member
        rcases List.mem_cons.mp member with here | later
        · exact .inl (same ▸ here)
        · exact .inr (List.mem_cons_of_mem _ later)
      · rw [if_neg same] at member
        rcases List.mem_cons.mp member with here | later
        · exact .inr (List.mem_cons.mpr (.inl here))
        · exact (ih later).imp_right (List.mem_cons_of_mem _)

theorem set_item_same (key : κ) (value : α) (fields : List (κ × α)) (found : getItem key fields = some value) :
    setItem key value fields = fields := by
  induction fields with
  | nil => cases found
  | cons field rest ih =>
      obtain ⟨name, old⟩ := field
      rw [getItem] at found
      rw [setItem]
      by_cases same : name = key
      · rw [if_pos same] at found
        rw [if_pos same, Option.some.inj found]
      · rw [if_neg same] at found
        rw [if_neg same, ih found]

theorem set_item_twice (key : κ) (first second : α) (fields : List (κ × α)) :
    setItem key second (setItem key first fields) = setItem key second fields := by
  induction fields with
  | nil => simp [setItem]
  | cons field rest ih =>
      obtain ⟨name, old⟩ := field
      by_cases same : name = key
      · simp [setItem, same]
      · simp [setItem, same, ih]

theorem set_item_swap (key other : κ) (value next : α) (fields : List (κ × α)) (different : other ≠ key)
    (present : key ∈ fields.map Prod.fst) :
    setItem key value (setItem other next fields) = setItem other next (setItem key value fields) := by
  induction fields with
  | nil => cases present
  | cons field rest ih =>
      obtain ⟨name, old⟩ := field
      by_cases same : name = key
      · have apart : name ≠ other := fun equal => different (equal.symm.trans same)
        simp [setItem, same, same ▸ apart]
      · have later : key ∈ rest.map Prod.fst := by
          rcases List.mem_cons.mp present with here | later
          · exact absurd here.symm same
          · exact later
        by_cases found : name = other
        · simp [setItem, found, different]
        · simp [setItem, same, found, ih later]

theorem set_item_absent (key : κ) (value : α) (fields : List (κ × α)) (absent : key ∉ fields.map Prod.fst) :
    setItem key value fields = fields ++ [(key, value)] := by
  induction fields with
  | nil => rfl
  | cons field rest ih =>
      obtain ⟨name, old⟩ := field
      rw [List.map_cons, List.mem_cons, not_or] at absent
      rw [setItem, if_neg (Ne.symm absent.1), ih absent.2, List.cons_append]

theorem set_item_distinct (key : κ) (value : α) (fields : List (κ × α)) (distinct : (fields.map Prod.fst).Nodup) :
    ((setItem key value fields).map Prod.fst).Nodup := by
  by_cases present : key ∈ fields.map Prod.fst
  · rw [set_item_keys key value fields present]
    exact distinct
  · rw [set_item_absent key value fields present, List.map_append]
    apply List.nodup_append.mpr ⟨distinct, List.pairwise_singleton _ key, _⟩
    rintro name member last single rfl
    exact present (List.mem_singleton.mp single ▸ member)

theorem set_items_fresh (fields pairs : List (κ × α)) (distinct : ((fields ++ pairs).map Prod.fst).Nodup) :
    setItems fields pairs = fields ++ pairs := by
  induction pairs generalizing fields with
  | nil => exact (List.append_nil fields).symm
  | cons pair rest ih =>
      obtain ⟨key, value⟩ := pair
      have absent : key ∉ fields.map Prod.fst := by
        rw [List.map_append, List.map_cons] at distinct
        exact fun member => (List.nodup_append.mp distinct).2.2 key member key (List.mem_cons_self ..) rfl
      have whole : fields ++ [(key, value)] ++ rest = fields ++ (key, value) :: rest := by simp
      have later := ih (fields ++ [(key, value)]) (by rw [whole]; exact distinct)
      rw [whole] at later
      rw [← later, setItems, List.foldl_cons, set_item_absent key value fields absent]
      rfl

theorem from_items_distinct (pairs : List (κ × α)) (distinct : (pairs.map Prod.fst).Nodup) : fromItems pairs = pairs :=
  set_items_fresh [] pairs distinct

theorem set_items_overwrite (key : κ) (first second pairs : List (κ × α)) (there : key ∈ first.map Prod.fst)
    (too : key ∈ second.map Prod.fst) (agree : ∀ value, setItem key value first = setItem key value second)
    (later : key ∈ pairs.map Prod.fst) : setItems first pairs = setItems second pairs := by
  induction pairs generalizing first second with
  | nil => cases later
  | cons pair rest ih =>
      obtain ⟨name, value⟩ := pair
      unfold setItems
      rw [List.foldl_cons, List.foldl_cons]
      by_cases same : name = key
      · subst same
        rw [agree value]
      · have after : key ∈ rest.map Prod.fst := by
          rcases List.mem_cons.mp later with here | after
          · exact absurd here.symm same
          · exact after
        apply ih _ _ (set_item_keeps name key value first there) (set_item_keeps name key value second too) _ after
        intro last
        rw [set_item_swap key name last value first same there, set_item_swap key name last value second same too, agree last]

theorem from_items_overwritten (front back : List (κ × α)) (key : κ) (first second : α) (later : key ∈ back.map Prod.fst) :
    fromItems (front ++ (key, first) :: back) = fromItems (front ++ (key, second) :: back) := by
  unfold fromItems setItems
  rw [List.foldl_append, List.foldl_append, List.foldl_cons, List.foldl_cons]
  apply set_items_overwrite key _ _ back (set_item_present ..) (set_item_present ..) _ later
  intro value
  rw [set_item_twice, set_item_twice]

end DataPilot.Base
