/-!
# Tables

An insertion-ordered table is a list of pairs in which no key repeats. Writing to a key that is
present keeps its place; writing to a new key appends it. The main statements give the look-up and
the keys after a write.
-/

namespace TrustWeb

/-- An insertion-ordered table. -/
abbrev Table (κ α : Type) := List (κ × α)

namespace Table

variable {κ α : Type} [DecidableEq κ]

/-- The value under a key. -/
def find? (t : Table κ α) (k : κ) : Option α :=
  match t with
  | [] => none
  | (k', v) :: rest => if k' = k then some v else find? rest k

/-- Whether a key is present. -/
def contains (t : Table κ α) (k : κ) : Bool := (t.find? k).isSome

/-- The keys in insertion order. -/
def keys (t : Table κ α) : List κ := t.map Prod.fst

/-- The table with `v` under `k`: in the place of `k` if that is present, else at the end. -/
def put (t : Table κ α) (k : κ) (v : α) : Table κ α :=
  match t with
  | [] => [(k, v)]
  | (k', v') :: rest => if k' = k then (k', v) :: rest else (k', v') :: put rest k v

/-- The table whose pairs are written in order. -/
def ofList (pairs : List (κ × α)) : Table κ α := pairs.foldl (fun t p => t.put p.1 p.2) []

/-- The table with something else in place of each value. -/
def mapValues {β : Type} (g : α → β) (t : Table κ α) : Table κ β :=
  t.map fun entry => (entry.1, g entry.2)

@[simp] theorem find?_nil (k : κ) : find? ([] : Table κ α) k = none := rfl

theorem find?_cons (k' : κ) (v : α) (t : Table κ α) (k : κ) :
    find? ((k', v) :: t) k = if k' = k then some v else find? t k := rfl

@[simp] theorem find?_put_self (t : Table κ α) (k : κ) (v : α) : (t.put k v).find? k = some v := by
  fun_induction put t k v with
  | case1 => simp [find?_cons]
  | case2 => simp [find?_cons]
  | case3 k' v' rest hne ih => simp [find?_cons, hne, ih]

theorem find?_put_of_ne (t : Table κ α) {k k' : κ} (v : α) (h : k ≠ k') :
    (t.put k v).find? k' = t.find? k' := by
  fun_induction put t k v with
  | case1 => simp [find?_cons, h]
  | case2 => simp [find?_cons, h]
  | case3 k'' v' rest hne ih => simp [find?_cons, ih]

theorem find?_put (t : Table κ α) (k k' : κ) (v : α) :
    (t.put k v).find? k' = if k = k' then some v else t.find? k' := by
  by_cases h : k = k'
  · subst h
    simp
  · rw [find?_put_of_ne t v h, if_neg h]

theorem mem_of_find? {t : Table κ α} {k : κ} {v : α} (h : t.find? k = some v) : (k, v) ∈ t := by
  fun_induction find? t k with
  | case1 => cases h
  | case2 v' rest => simp_all
  | case3 k' v' rest hne ih => exact List.mem_cons_of_mem _ (ih h)

theorem mem_keys_iff {t : Table κ α} {k : κ} : k ∈ t.keys ↔ ∃ v, t.find? k = some v := by
  induction t with
  | nil => simp [keys]
  | cons entry rest ih =>
    obtain ⟨k', v'⟩ := entry
    simp only [keys, List.map_cons, List.mem_cons, find?_cons] at ih ⊢
    by_cases h : k' = k
    · simp [h]
    · simp [h, Ne.symm h, ih]

theorem not_mem_keys {t : Table κ α} {k : κ} (h : t.find? k = none) : k ∉ t.keys := by
  intro hk
  obtain ⟨v, hv⟩ := mem_keys_iff.mp hk
  simp [h] at hv

theorem mem_put {t : Table κ α} {k : κ} {v : α} {entry : κ × α} (h : entry ∈ t.put k v) :
    entry = (k, v) ∨ entry ∈ t := by
  fun_induction put t k v with
  | case1 => simpa using h
  | case2 v' rest =>
    rcases List.mem_cons.mp h with rfl | h
    · exact .inl rfl
    · exact .inr (List.mem_cons_of_mem _ h)
  | case3 k' v' rest hne ih =>
    rcases List.mem_cons.mp h with rfl | h
    · exact .inr List.mem_cons_self
    · exact (ih h).imp_right (List.mem_cons_of_mem _)

theorem put_of_find?_eq_none {t : Table κ α} {k : κ} {v : α} (h : t.find? k = none) :
    t.put k v = t ++ [(k, v)] := by
  fun_induction put t k v with
  | case1 => rfl
  | case2 v' rest => simp [find?_cons] at h
  | case3 k' v' rest hne ih =>
    rw [find?_cons, if_neg hne] at h
    rw [ih h, List.cons_append]

/-- A write keeps the order of the keys and appends a key that is new. -/
theorem keys_put (t : Table κ α) (k : κ) (v : α) :
    (t.put k v).keys = if k ∈ t.keys then t.keys else t.keys ++ [k] := by
  fun_induction put t k v with
  | case1 => simp [keys]
  | case2 => simp [keys]
  | case3 k' v' rest hne ih =>
    have hne' : k ≠ k' := fun h => hne h.symm
    simp only [keys, List.map_cons, List.mem_cons] at ih ⊢
    rw [ih]
    by_cases hk : k ∈ rest.map Prod.fst <;> simp [hk, hne']

theorem length_put (t : Table κ α) (k : κ) (v : α) :
    (t.put k v).length = if k ∈ t.keys then t.length else t.length + 1 := by
  have h := congrArg List.length (keys_put t k v)
  split at h <;> simp_all [keys]

theorem nodup_keys_put {t : Table κ α} (h : t.keys.Nodup) (k : κ) (v : α) :
    (t.put k v).keys.Nodup := by
  rw [keys_put]
  split
  · exact h
  · next hk =>
    refine List.nodup_append.mpr ⟨h, by simp, ?_⟩
    rintro k' hk' _ hself rfl
    exact hk (List.mem_singleton.mp hself ▸ hk')

theorem find?_of_mem {t : Table κ α} (h : t.keys.Nodup) {k : κ} {v : α} (hmem : (k, v) ∈ t) :
    t.find? k = some v := by
  induction t with
  | nil => cases hmem
  | cons entry rest ih =>
    obtain ⟨k', v'⟩ := entry
    rw [keys, List.map_cons, List.nodup_cons] at h
    rcases List.mem_cons.mp hmem with hentry | hmem
    · cases hentry
      simp [find?_cons]
    · have hne : k' ≠ k := fun he => h.1 (he ▸ List.mem_map.mpr ⟨(k, v), hmem, rfl⟩)
      rw [find?_cons, if_neg hne, ih h.2 hmem]

theorem find?_perm {t t' : Table κ α} (hperm : t.Perm t') (hkeys : t.keys.Nodup) (k : κ) :
    t.find? k = t'.find? k := by
  have hkeys' : t'.keys.Nodup := (hperm.map Prod.fst).nodup_iff.mp hkeys
  refine Option.ext fun v => ⟨fun h => ?_, fun h => ?_⟩
  · exact find?_of_mem hkeys' (hperm.mem_iff.mp (mem_of_find? h))
  · exact find?_of_mem hkeys (hperm.mem_iff.mpr (mem_of_find? h))

theorem filter_ne_eq_self {t : Table κ α} {k : κ} (h : k ∉ t.keys) :
    t.filter (·.1 != k) = t := by
  refine List.filter_eq_self.mpr fun entry hentry => bne_iff_ne.mpr ?_
  rintro rfl
  exact h (List.mem_map_of_mem hentry)

/-- Without the key of its first entry a table is what stands after that. -/
theorem filter_ne_perm {t rest : Table κ α} {entry : κ × α} (hperm : t.Perm (entry :: rest))
    (hkeys : t.keys.Nodup) : (t.filter (·.1 != entry.1)).Perm rest := by
  have hnodup : (keys (entry :: rest)).Nodup := (hperm.map Prod.fst).nodup_iff.mp hkeys
  have hfilter := hperm.filter (·.1 != entry.1)
  rwa [List.filter_cons_of_neg (by simp),
    filter_ne_eq_self (List.nodup_cons.mp hnodup).1] at hfilter

/-- A write takes the place of what was under the key. -/
theorem put_perm {t : Table κ α} (h : t.keys.Nodup) (k : κ) (v : α) :
    (t.put k v).Perm ((k, v) :: t.filter (·.1 != k)) := by
  fun_induction put t k v with
  | case1 => exact .refl _
  | case2 v' rest =>
    have hnot : k ∉ keys rest := (List.nodup_cons.mp h).1
    rw [List.filter_cons_of_neg (by simp), filter_ne_eq_self hnot]
  | case3 k' v' rest hne ih =>
    rw [List.filter_cons_of_pos (by simpa using hne)]
    exact ((ih (List.nodup_cons.mp h).2).cons _).trans (.swap _ _ _)

section MapValues

variable {β : Type} (g : α → β)

omit [DecidableEq κ] in
@[simp] theorem keys_mapValues (t : Table κ α) : (t.mapValues g).keys = t.keys := by
  simp [keys, mapValues]

theorem find?_mapValues (t : Table κ α) (k : κ) : (t.mapValues g).find? k = (t.find? k).map g := by
  induction t with
  | nil => rfl
  | cons entry rest ih =>
    obtain ⟨k', v⟩ := entry
    simp only [mapValues, List.map_cons, find?_cons] at ih ⊢
    split
    · rfl
    · exact ih

theorem mapValues_put (t : Table κ α) (k : κ) (v : α) :
    (t.put k v).mapValues g = (t.mapValues g).put k (g v) := by
  fun_induction put t k v with
  | case1 => rfl
  | case2 => simp [mapValues, put]
  | case3 k' v' rest hne ih => simpa [mapValues, put, hne] using ih

end MapValues

theorem find?_map (ks : List κ) (value : κ → α) (k : κ) :
    find? (ks.map fun k => (k, value k)) k = if k ∈ ks then some (value k) else none := by
  induction ks with
  | nil => rfl
  | cons k' rest ih =>
      rw [List.map_cons, find?_cons, ih]
      by_cases h : k' = k
      · simp [h]
      · simp [h, Ne.symm h]

end Table

end TrustWeb
