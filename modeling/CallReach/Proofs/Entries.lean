import CallReach.Data.Entries
import Mathlib.Data.List.Induction
import Mathlib.Data.List.Nodup

/-!
# Entries in order of arrival

What is found under a key after pairs have been put in: the last value of the key, at the place of
the first one, and under a key of its own.

* `get?_put`, `keys_put` : one pair more.
* `get?_ofList`, `nodup_ofList` : all pairs of a list.
-/

namespace CallReach.Data.Entries

variable {κ α : Type} [DecidableEq κ] {entries : Entries κ α} {k : κ} {a : α}

theorem put_cons (l : κ) (b : α) (rest : Entries κ α) (key : κ) (value : α) :
    put ((l, b) :: rest) key value =
      if l = key then (l, value) :: rest else (l, b) :: rest.put key value := by
  simp [put, putBy]

theorem get?_cons (l : κ) (b : α) (rest : Entries κ α) (k : κ) :
    get? ((l, b) :: rest) k = if l = k then some b else rest.get? k := by
  by_cases h : l = k <;> simp [get?, h]

theorem get?_put (entries : Entries κ α) (key : κ) (value : α) (k : κ) :
    (entries.put key value).get? k = if key = k then some value else entries.get? k := by
  induction entries with
  | nil => exact get?_cons key value [] k
  | cons e rest ih =>
    obtain ⟨l, b⟩ := e
    rw [put_cons]
    by_cases hl : l = key
    · rw [if_pos hl, get?_cons, get?_cons, hl]
      split_ifs <;> rfl
    · rw [if_neg hl, get?_cons, get?_cons, ih]
      by_cases h : l = k
      · rw [if_pos h, if_pos h, if_neg fun hkey => hl (h.trans hkey.symm)]
      · rw [if_neg h, if_neg h]

theorem keys_put (entries : Entries κ α) (key : κ) (value : α) :
    (entries.put key value).map (·.1) =
      if key ∈ entries.map (·.1) then entries.map (·.1) else entries.map (·.1) ++ [key] := by
  induction entries with
  | nil => rfl
  | cons e rest ih =>
    obtain ⟨l, b⟩ := e
    rw [put_cons, List.map_cons]
    by_cases hl : l = key
    · rw [if_pos hl, if_pos (hl ▸ List.mem_cons_self), List.map_cons]
    · rw [if_neg hl, List.map_cons, ih]
      by_cases hrest : key ∈ rest.map (·.1)
      · rw [if_pos hrest, if_pos (List.mem_cons_of_mem _ hrest)]
      · rw [if_neg hrest, if_neg (by simpa [Ne.symm hl] using hrest), List.cons_append]

theorem ofList_concat (pairs : List (κ × α)) (key : κ) (value : α) :
    ofList (pairs ++ [(key, value)]) = (ofList pairs).put key value := by
  simp [ofList]

/-- The last value of a key counts. -/
theorem get?_ofList (pairs : List (κ × α)) (k : κ) :
    (ofList pairs).get? k = (pairs.reverse.find? (·.1 == k)).map (·.2) := by
  induction pairs using List.reverseRecOn with
  | nil => rfl
  | append_singleton pairs e ih =>
    obtain ⟨key, value⟩ := e
    rw [ofList_concat, get?_put, ih, List.reverse_concat]
    by_cases h : key = k <;> simp [h]

/-- A key stands there once. -/
theorem nodup_ofList (pairs : List (κ × α)) : ((ofList pairs).map (·.1)).Nodup := by
  induction pairs using List.reverseRecOn with
  | nil => exact List.nodup_nil
  | append_singleton pairs e ih =>
    rw [ofList_concat, keys_put]
    split_ifs with h
    · exact ih
    · exact List.nodup_append.2 ⟨ih, List.nodup_singleton _, fun a ha b hb hab =>
        h (List.mem_singleton.1 hb ▸ hab ▸ ha)⟩

/-- Under distinct keys an entry is found by its key. -/
theorem get?_eq_some_iff (h : (entries.map (·.1)).Nodup) :
    entries.get? k = some a ↔ (k, a) ∈ entries := by
  simp only [get?, Option.map_eq_some_iff]
  constructor
  · rintro ⟨⟨l, b⟩, hfind, rfl⟩
    have hl : l = k := by simpa using List.find?_some hfind
    exact hl ▸ List.mem_of_find?_eq_some hfind
  · intro hmem
    obtain ⟨⟨l, b⟩, hfind⟩ : ∃ e, entries.find? (·.1 == k) = some e := by
      rw [← Option.isSome_iff_exists, List.find?_isSome]
      exact ⟨_, hmem, by simp⟩
    have hl : l = k := by simpa using List.find?_some hfind
    have heq := List.inj_on_of_nodup_map h (List.mem_of_find?_eq_some hfind) hmem hl
    exact ⟨_, hfind, congrArg Prod.snd heq⟩

end CallReach.Data.Entries
