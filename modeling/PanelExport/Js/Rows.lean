import PanelExport.Js.Convert

/-
  The object of row objects the time-series exporters fill.

  `result[key] ??= {}; result[key][column] = value` is `setCell`.
  Whatever the order of the writes, a cell holds the last value
  written to it, and the rows are keyed in the order their keys
  were first written.

  Main declarations:
    * `cellOf`, `writeAll`
    * `cellOf_setCell`, `keys_setCell`
    * `cellOf_writeAll`, `keys_writeAll`
-/

------------------------------------------------------------
-- Properties
------------------------------------------------------------

namespace PanelExport

/- `List.lookup` on a first entry, as a condition. -/
theorem lookup_cons_ite {β : Type} (k a : String) (b : β) (es : List (String × β)) :
    ((k, b) :: es).lookup a = if a = k then some b else es.lookup a := by
  by_cases h : a = k
  · simp [List.lookup_cons, h]
  · rw [List.lookup_cons, beq_eq_false_iff_ne.2 h, if_neg h]

/- Updating the entries of one key. -/
theorem lookup_map_update {β : Type} (key a : String) (g : β → β) (l : List (String × β)) :
    (l.map fun p => if p.1 = key then (key, g p.2) else p).lookup a =
      if a = key then (l.lookup key).map g else l.lookup a := by
  induction l with
  | nil => simp
  | cons p l ih =>
      obtain ⟨k, w⟩ := p
      by_cases hK : k = key
      · subst hK
        by_cases hA : a = k <;> simp [lookup_cons_ite, hA, ih]
      · by_cases hA : a = k
        · subst hA
          simp [lookup_cons_ite, hK]
        · simp only [List.map_cons, if_neg hK, lookup_cons_ite, if_neg hA, ih, Ne.symm hK,
            if_false]

/- `row[column] = v` sets that property only. -/
theorem lookup_setProp (props : Props) (column column' : String) (v : JsVal) :
    (setProp props column v).lookup column' =
      if column' = column then some v else props.lookup column' := by
  unfold setProp
  split
  · rename_i hAny
    obtain ⟨p, hp, hKey⟩ := List.any_eq_true.1 hAny
    have hSome : (props.lookup column).isSome :=
      List.lookup_isSome_iff.2 ⟨p, hp, by rw [beq_iff_eq] at hKey ⊢; exact hKey.symm⟩
    rw [lookup_map_update column column' (fun _ => v)]
    split
    · cases hLookup : props.lookup column with
      | none => simp [hLookup] at hSome
      | some w => rfl
    · rfl
  · rename_i hAny
    have hNone : props.lookup column = none := List.lookup_eq_none_iff.2 fun p hp => by
      simp only [bne_iff_ne, ne_eq]
      intro h
      exact hAny (List.any_eq_true.2 ⟨p, hp, by simp [h]⟩)
    rw [List.lookup_append]
    by_cases h : column' = column
    · simp [h, hNone]
    · simp [h, lookup_cons_ite]

------------------------------------------------------------
-- Row Objects
------------------------------------------------------------

/- `result[key]?.[column]`: the cell of a row object, if set. -/
def cellOf (rows : List (String × Props)) (key column : String) : Option JsVal :=
  ((rows.lookup key).getD []).lookup column

/- `result[key] ??= {}; result[key][column] = v` on the rows. -/
theorem lookup_setCell (rows : List (String × Props)) (key key' column : String) (v : JsVal) :
    (setCell rows key column v).lookup key' =
      if key' = key then some (setProp ((rows.lookup key).getD []) column v)
      else rows.lookup key' := by
  unfold setCell
  split
  · rename_i hAny
    obtain ⟨r, hr, hKey⟩ := List.any_eq_true.1 hAny
    have hSome : (rows.lookup key).isSome :=
      List.lookup_isSome_iff.2 ⟨r, hr, by rw [beq_iff_eq] at hKey ⊢; exact hKey.symm⟩
    rw [lookup_map_update key key' (fun props => setProp props column v)]
    split
    · cases hLookup : rows.lookup key with
      | none => simp [hLookup] at hSome
      | some props => rfl
    · rfl
  · rename_i hAny
    have hNone : rows.lookup key = none := List.lookup_eq_none_iff.2 fun r hr => by
      simp only [bne_iff_ne, ne_eq]
      intro h
      exact hAny (List.any_eq_true.2 ⟨r, hr, by simp [h]⟩)
    rw [List.lookup_append]
    by_cases h : key' = key
    · simp [h, hNone, setProp]
    · simp [h, lookup_cons_ite]

/- Setting a cell changes that cell only. -/
theorem cellOf_setCell (rows : List (String × Props)) (key column key' column' : String)
    (v : JsVal) :
    cellOf (setCell rows key column v) key' column' =
      if key' = key ∧ column' = column then some v else cellOf rows key' column' := by
  unfold cellOf
  rw [lookup_setCell]
  by_cases hKey : key' = key
  · subst hKey
    simp only [if_true, Option.getD_some, lookup_setProp, true_and]
  · simp [hKey]

/- Setting a cell adds its row key at the end, unless the row exists. -/
theorem keys_setCell (rows : List (String × Props)) (key column : String) (v : JsVal) :
    (setCell rows key column v).map Prod.fst =
      if key ∈ rows.map Prod.fst then rows.map Prod.fst else rows.map Prod.fst ++ [key] := by
  unfold setCell
  have hAny : rows.any (·.1 == key) = true ↔ key ∈ rows.map Prod.fst := by
    simp [List.any_eq_true, List.mem_map]
  by_cases hKey : key ∈ rows.map Prod.fst
  · rw [if_pos (hAny.2 hKey), if_pos hKey, List.map_map]
    exact List.map_congr_left fun r _ => by by_cases h : r.1 = key <;> simp [h]
  · rw [if_neg (mt hAny.1 hKey), if_neg hKey]
    simp

/- `find?` reads its predicate only on the members of the list. -/
theorem find?_congr {α : Type} {p q : α → Bool} {l : List α} (hSame : ∀ a ∈ l, p a = q a) :
    l.find? p = l.find? q := by
  induction l with
  | nil => rfl
  | cons a l ih =>
      rw [List.find?_cons, List.find?_cons, hSame a (List.mem_cons_self a l),
        ih fun b hb => hSame b (List.mem_cons_of_mem a hb)]

/- The row objects after a run of cell writes. -/
def writeAll (rows : List (String × Props)) (writes : List (String × String × JsVal)) :
    List (String × Props) :=
  writes.foldl (fun rows w => setCell rows w.1 w.2.1 w.2.2) rows

/- A cell holds the last value written to it, else what it held before. -/
theorem cellOf_writeAll (rows : List (String × Props)) (writes : List (String × String × JsVal))
    (key column : String) :
    cellOf (writeAll rows writes) key column =
      ((writes.reverse.find? fun w => w.1 = key ∧ w.2.1 = column).map (·.2.2)).or
        (cellOf rows key column) := by
  induction writes generalizing rows with
  | nil => simp [writeAll]
  | cons w writes ih =>
      simp only [writeAll, List.foldl_cons] at ih ⊢
      rw [ih, cellOf_setCell, List.reverse_cons, List.find?_append]
      cases hFound : writes.reverse.find? (fun w => w.1 = key ∧ w.2.1 = column) with
      | some u => simp
      | none =>
          by_cases h : w.1 = key ∧ w.2.1 = column
          · simp [h, List.find?_cons]
          · have h' : ¬ (key = w.1 ∧ column = w.2.1) := fun h'' => h ⟨h''.1.symm, h''.2.symm⟩
            simp [h, h', List.find?_cons]

/- The row keys after a run of writes: each key once, first written first. -/
theorem keys_writeAll (rows : List (String × Props)) (writes : List (String × String × JsVal)) :
    (writeAll rows writes).map Prod.fst =
      List.eraseDups.loop (writes.map (·.1)) (rows.map Prod.fst).reverse := by
  induction writes generalizing rows with
  | nil => simp [writeAll, List.eraseDups.loop]
  | cons w writes ih =>
      simp only [writeAll, List.foldl_cons] at ih ⊢
      rw [ih, keys_setCell, List.map_cons, List.eraseDups.loop]
      by_cases hKey : w.1 ∈ rows.map Prod.fst <;> simp [hKey]

end PanelExport
