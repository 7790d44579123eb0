import DataPilot.Base.JsonRoundTrip

set_option autoImplicit false

namespace DataPilot.Base

-- Fields that merging leaves as they are.
structure SettledFields (fields : Dict) : Prop where
  distinct : (fields.map Prod.fst).Nodup
  values : ∀ field ∈ fields, mergeKeys field.2 = field.2

theorem dict_set_fresh (key : String) (value : Json) (fields : Dict) (fresh : key ∉ fields.map Prod.fst) :
    dictSet key value fields = fields ++ [(key, value)] := by
  induction fields with
  | nil => rfl
  | cons field rest ih =>
      obtain ⟨name, old⟩ := field
      rw [List.map_cons, List.mem_cons, not_or] at fresh
      rw [dictSet, if_neg (Ne.symm fresh.1), ih fresh.2, List.cons_append]

theorem dict_set_present (key : String) (value : Json) (fields : Dict) (present : key ∈ fields.map Prod.fst) :
    (dictSet key value fields).map Prod.fst = fields.map Prod.fst := by
  induction fields with
  | nil => cases present
  | cons field rest ih =>
      obtain ⟨name, old⟩ := field
      by_cases same : name = key
      · rw [dictSet, if_pos same, List.map_cons, List.map_cons]
      · have later : key ∈ rest.map Prod.fst := by
          rcases List.mem_cons.mp present with here | later
          · exact absurd here.symm same
          · exact later
        rw [dictSet, if_neg same, List.map_cons, List.map_cons, ih later]

theorem mem_dict_set (key : String) (value : Json) (fields : Dict) :
    ∀ field ∈ dictSet key value fields, field ∈ fields ∨ field.2 = value := by
  induction fields with
  | nil =>
      intro field member
      rw [List.mem_singleton.mp member]
      exact .inr rfl
  | cons first rest ih =>
      obtain ⟨name, old⟩ := first
      intro field member
      by_cases same : name = key
      · rw [dictSet, if_pos same] at member
        rcases List.mem_cons.mp member with rfl | later
        · exact .inr rfl
        · exact .inl (List.mem_cons_of_mem _ later)
      · rw [dictSet, if_neg same] at member
        rcases List.mem_cons.mp member with rfl | later
        · exact .inl (List.mem_cons_self ..)
        · exact (ih field later).imp_left (List.mem_cons_of_mem _)

theorem dict_set_settled (key : String) (value : Json) (fields : Dict) (settled : SettledFields fields)
    (merged : mergeKeys value = value) : SettledFields (dictSet key value fields) := by
  constructor
  · by_cases present : key ∈ fields.map Prod.fst
    · rw [dict_set_present key value fields present]
      exact settled.distinct
    · rw [dict_set_fresh key value fields present, List.map_append]
      refine List.nodup_append.mpr ⟨settled.distinct, List.nodup_singleton _, ?_⟩
      rintro name member other last rfl
      obtain rfl : name = key := List.mem_singleton.mp last
      exact present member
  · intro field member
    rcases mem_dict_set key value fields field member with old | fresh
    · exact settled.values field old
    · rw [fresh, merged]

theorem merge_fields_settled (seen rest : Dict) (distinct : ((seen ++ rest).map Prod.fst).Nodup)
    (values : ∀ field ∈ rest, mergeKeys field.2 = field.2) : mergeFields seen rest = seen ++ rest := by
  induction rest generalizing seen with
  | nil => rw [mergeFields, List.append_nil]
  | cons field rest ih =>
      obtain ⟨key, value⟩ := field
      have regrouped : seen ++ (key, value) :: rest = (seen ++ [(key, value)]) ++ rest := by simp
      have fresh : key ∉ seen.map Prod.fst := by
        rw [List.map_append, List.nodup_append] at distinct
        exact fun member => distinct.2.2 key member key (List.mem_cons_self ..) rfl
      rw [mergeFields, values (key, value) (List.mem_cons_self ..), dict_set_fresh key value seen fresh, regrouped]
      apply ih
      · rw [← regrouped]
        exact distinct
      · exact fun other member => values other (List.mem_cons_of_mem _ member)

theorem settled_merged (fields : Dict) (settled : SettledFields fields) : mergeKeys (.obj fields) = .obj fields := by
  rw [mergeKeys, merge_fields_settled [] fields settled.distinct settled.values, List.nil_append]

mutual

theorem merge_keys_twice (value : Json) : mergeKeys (mergeKeys value) = mergeKeys value := by
  cases value with
  | arr items => rw [mergeKeys, mergeKeys, merge_items_twice items]
  | obj fields =>
      rw [mergeKeys]
      exact settled_merged _ (merge_fields_kept [] fields ⟨List.nodup_nil, by simp⟩)
  | _ => rfl

theorem merge_items_twice (items : List Json) : mergeItems (mergeItems items) = mergeItems items := by
  cases items with
  | nil => rfl
  | cons item rest => rw [mergeItems, mergeItems, merge_keys_twice item, merge_items_twice rest]

theorem merge_fields_kept (seen : Dict) (fields : List (String × Json)) (settled : SettledFields seen) :
    SettledFields (mergeFields seen fields) := by
  cases fields with
  | nil => exact settled
  | cons field rest =>
      obtain ⟨key, value⟩ := field
      rw [mergeFields]
      exact merge_fields_kept _ rest (dict_set_settled key _ seen settled (merge_keys_twice value))

end

theorem loads_merged (text : String) (value : Json) (loaded : loads text = some value) : mergeKeys value = value := by
  unfold loads at loaded
  split at loaded
  · split at loaded
    · cases loaded
      exact merge_keys_twice _
    · cases loaded
  · cases loaded

theorem merged_settled (fields : Dict) (merged : mergeKeys (.obj fields) = .obj fields) : SettledFields fields := by
  have kept := merge_fields_kept [] fields ⟨List.nodup_nil, by simp⟩
  rw [mergeKeys, Json.obj.injEq] at merged
  rwa [merged] at kept

theorem dict_get_merged (key : String) (fields : Dict) (settled : SettledFields fields) :
    mergeKeys (dictGet key fields) = dictGet key fields := by
  have values := settled.values
  clear settled
  induction fields with
  | nil => rfl
  | cons field rest ih =>
      obtain ⟨name, value⟩ := field
      by_cases same : name = key
      · rw [dictGet, if_pos same]
        exact values (name, value) (List.mem_cons_self ..)
      · rw [dictGet, if_neg same]
        exact ih fun other member => values other (List.mem_cons_of_mem _ member)

end DataPilot.Base
