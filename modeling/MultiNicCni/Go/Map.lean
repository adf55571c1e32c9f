import Mathlib.Data.List.AList
import Mathlib.Tactic
import MultiNicCni.Lib.Fold

/-!
# Go maps

A map is an association list with distinct keys. The order of the list stands for the
iteration order, which a statement about every order leaves arbitrary.

Loops that fill a map are followed by two kinds of invariant:

- `GoMap.All P m`: every key with its value satisfies `P`;
- `GoMap.Separates f m`: different keys hold values with different `f`, so that the list of
  the values has no repeated `f` (`Separates.nodup`).

Each has a rule for `insert` and for `mapValues`.
-/

namespace MultiNicCni.Go

universe u v w

/-- A Go map. -/
abbrev GoMap (κ : Type u) (ν : Type v) : Type (max u v) := AList (fun _ : κ => ν)

namespace GoMap

variable {κ : Type u} {ν : Type v}

/-- The values, in iteration order. -/
def values (m : GoMap κ ν) : List ν := m.entries.map fun e => e.2

/-- An order in which the runtime lists the values of a map: any order. -/
structure RangeOrder (κ : Type u) (ν : Type v) where
  values : GoMap κ ν → List ν
  perm : ∀ m, (values m).Perm m.values

/-- The order of the list. -/
def RangeOrder.listed : RangeOrder κ ν := ⟨GoMap.values, fun _ => .refl _⟩

/-- An order in which the runtime lists the entries of a map: any order. -/
structure EntryOrder (κ : Type u) (ν : Type v) where
  entries : GoMap κ ν → List ((_ : κ) × ν)
  perm : ∀ m, (entries m).Perm m.entries

/-- The order of the list. -/
def EntryOrder.listed : EntryOrder κ ν := ⟨fun m => m.entries, fun _ => .refl _⟩

/-- `for k, v := range m { m[k] = f(v) }`. -/
def mapValues {μ : Type w} (f : ν → μ) (m : GoMap κ ν) : GoMap κ μ where
  entries := m.entries.map fun e => ⟨e.1, f e.2⟩
  nodupKeys := by
    show ((m.entries.map fun e : Sigma fun _ : κ => ν => (⟨e.1, f e.2⟩ : Sigma fun _ : κ => μ)).map
      Sigma.fst).Nodup
    rw [List.map_map]
    exact m.nodupKeys

theorem length_mapValues {μ : Type w} (f : ν → μ) (m : GoMap κ ν) :
    (mapValues f m).entries.length = m.entries.length := List.length_map ..

theorem values_mapValues {μ : Type w} (f : ν → μ) (m : GoMap κ ν) :
    (mapValues f m).values = m.values.map f := by
  simp [values, mapValues]

theorem keys_mapValues {μ : Type w} (f : ν → μ) (m : GoMap κ ν) :
    (mapValues f m).keys = m.keys := by
  simp [AList.keys, List.keys, mapValues]

/-- `for k, v := range m { if !p(k, v) { delete(m, k) } }`. -/
def filter (p : κ → ν → Bool) (m : GoMap κ ν) : GoMap κ ν where
  entries := m.entries.filter fun e => p e.1 e.2
  nodupKeys := m.nodupKeys.sublist List.filter_sublist

variable [DecidableEq κ]

theorem lookup_filter {p : κ → ν → Bool} {m : GoMap κ ν} {k : κ} {v : ν} :
    (filter p m).lookup k = some v ↔ m.lookup k = some v ∧ p k v = true := by
  show v ∈ (filter p m).lookup k ↔ v ∈ m.lookup k ∧ p k v = true
  rw [AList.mem_lookup_iff, AList.mem_lookup_iff]
  exact List.mem_filter

theorem lookup_mapValues {μ : Type w} (f : ν → μ) (m : GoMap κ ν) (k : κ) :
    (mapValues f m).lookup k = (m.lookup k).map f := by
  obtain ⟨l, hl⟩ := m
  induction l with
  | nil => rfl
  | cons e l ih =>
    obtain ⟨k', v⟩ := e
    have ih' := ih (List.nodupKeys_cons.mp hl).2
    show @List.dlookup κ (fun _ => μ) _ k (⟨k', f v⟩ :: l.map fun e => ⟨e.1, f e.2⟩) =
      Option.map f (@List.dlookup κ (fun _ => ν) _ k (⟨k', v⟩ :: l))
    by_cases hk : k = k'
    · subst hk
      rw [List.dlookup_cons_eq, List.dlookup_cons_eq]
      rfl
    · rw [List.dlookup_cons_ne _ _ hk, List.dlookup_cons_ne _ _ hk]
      exact ih'

theorem mapValues_insert {μ : Type w} (f : ν → μ) (m : GoMap κ ν) (k : κ) (v : ν) :
    mapValues f (m.insert k v) = (mapValues f m).insert k (f v) := by
  refine AList.ext ?_
  show (⟨k, f v⟩ : (_ : κ) × μ) :: ((m.entries.eraseP fun e => k = e.1).map fun e => ⟨e.1, f e.2⟩) =
    ⟨k, f v⟩ :: ((m.entries.map fun e => (⟨e.1, f e.2⟩ : (_ : κ) × μ)).eraseP fun e => k = e.1)
  rw [List.eraseP_map]
  rfl

theorem lookup_of_mem {m : GoMap κ ν} {e : (_ : κ) × ν} (he : e ∈ m.entries) :
    m.lookup e.1 = some e.2 := AList.mem_lookup_iff.mpr he

theorem lookup_insert_ite (m : GoMap κ ν) (k k' : κ) (v : ν) :
    (m.insert k v).lookup k' = if k' = k then some v else m.lookup k' := by
  split
  · next heq => rw [heq, AList.lookup_insert]
  · next hne => rw [AList.lookup_insert_ne hne]

theorem mem_values {m : GoMap κ ν} {v : ν} : v ∈ m.values ↔ ∃ k, m.lookup k = some v := by
  constructor
  · intro h
    obtain ⟨⟨k, v'⟩, he, rfl⟩ := List.mem_map.mp h
    exact ⟨k, AList.mem_lookup_iff.mpr he⟩
  · rintro ⟨k, hk⟩
    exact List.mem_map.mpr ⟨⟨k, v⟩, AList.mem_lookup_iff.mp hk, rfl⟩

theorem lookup_insert_cases {m : GoMap κ ν} {k k' : κ} {v v' : ν}
    (h : (m.insert k v).lookup k' = some v') :
    (k' = k ∧ v' = v) ∨ (k' ≠ k ∧ m.lookup k' = some v') := by
  by_cases hk : k' = k
  · subst hk
    rw [AList.lookup_insert] at h
    exact Or.inl ⟨rfl, (Option.some.inj h).symm⟩
  · rw [AList.lookup_insert_ne hk] at h
    exact Or.inr ⟨hk, h⟩

/-- `for k, v := range src { if p(k) { m[k] = v } }`. -/
def copyIf (p : κ → Bool) (src m : GoMap κ ν) : GoMap κ ν :=
  src.entries.foldl (fun m e => if p e.1 then m.insert e.1 e.2 else m) m

theorem lookup_copyIf (p : κ → Bool) (src m : GoMap κ ν) (k : κ) :
    (copyIf p src m).lookup k = if p k then (src.lookup k).or (m.lookup k) else m.lookup k := by
  obtain ⟨l, hl⟩ := src
  show (l.foldl (fun m e => if p e.1 then m.insert e.1 e.2 else m) m).lookup k =
    if p k then (@List.dlookup κ (fun _ => ν) _ k l).or (m.lookup k) else m.lookup k
  induction l generalizing m with
  | nil =>
    show m.lookup k = if p k then Option.or none (m.lookup k) else m.lookup k
    rw [Option.none_or, ite_self]
  | cons e l ih =>
    obtain ⟨k', v⟩ := e
    obtain ⟨hnew, hl⟩ := List.nodupKeys_cons.mp hl
    rw [List.foldl_cons, ih _ hl]
    by_cases hk : k = k'
    · -- the key of this entry is not among the others
      subst hk
      rw [List.dlookup_eq_none.mpr hnew, List.dlookup_cons_eq, Option.none_or]
      by_cases hp : p k = true
      · rw [if_pos hp, if_pos hp, if_pos hp, AList.lookup_insert]
        rfl
      · rw [if_neg hp, if_neg hp, if_neg hp]
    · rw [List.dlookup_cons_ne _ _ hk]
      have hm : (if p k' then m.insert k' v else m).lookup k = m.lookup k := by
        split
        · exact AList.lookup_insert_ne hk
        · rfl
      rw [hm]

/-- `for _, v := range l { m[key(v)] = v }`, from an empty map. -/
def keyBy (key : ν → κ) (l : List ν) : GoMap κ ν := l.foldl (fun m v => m.insert (key v) v) ∅

/-- The only element with a key is found under it. -/
theorem lookup_keyBy {key : ν → κ} {l : List ν} {k : κ} {stored : Option ν}
    (h : ∀ v, (v ∈ l ∧ key v = k) ↔ stored = some v) : (keyBy key l).lookup k = stored := by
  have hset := Lib.foldl_set (l := l) (f := fun (m : GoMap κ ν) v => m.insert (key v) v)
    (fun m => m.lookup k) (fun v => decide (key v = k)) stored ?_ ∅
  · rw [keyBy, hset]
    split
    · rfl
    · next hnone =>
      cases stored with
      | none => rfl
      | some v =>
        obtain ⟨hv, hkey⟩ := (h v).mpr rfl
        exact absurd (List.any_eq_true.mpr ⟨v, hv, decide_eq_true hkey⟩) hnone
  · intro m v hv
    by_cases hkey : key v = k
    · rw [if_pos (decide_eq_true hkey), ← hkey, AList.lookup_insert, (h v).mp ⟨hv, hkey⟩]
    · rw [if_neg fun hdec => hkey (of_decide_eq_true hdec), AList.lookup_insert_ne (Ne.symm hkey)]

/-- `for _, e := range l { m[e.key] = e.value }`, from an empty map. -/
def insertAll (l : List (κ × ν)) : GoMap κ ν := l.foldl (fun m e => m.insert e.1 e.2) ∅

/-- The last value of a key stays. -/
theorem lookup_insertAll (l : List (κ × ν)) (k : κ) :
    (insertAll l).lookup k = (l.filter fun e => e.1 = k).getLast?.map Prod.snd := by
  induction l using List.reverseRecOn with
  | nil => exact AList.lookup_empty k
  | append_singleton l e ih =>
    rw [insertAll] at ih
    rw [insertAll, List.foldl_append, List.foldl_cons, List.foldl_nil, List.filter_append]
    by_cases hkey : e.1 = k
    · rw [← hkey, AList.lookup_insert]
      simp
    · rw [AList.lookup_insert_ne (Ne.symm hkey), ih]
      simp [hkey]

/-- With distinct keys the map is the list. -/
theorem lookup_insertAll_iff {l : List (κ × ν)} (hl : (l.map Prod.fst).Nodup) {k : κ} {v : ν} :
    (insertAll l).lookup k = some v ↔ (k, v) ∈ l := by
  rw [lookup_insertAll, Option.map_eq_some_iff]
  constructor
  · rintro ⟨⟨k', v'⟩, hlast, rfl⟩
    obtain ⟨hmem, hkey⟩ := List.mem_filter.mp (List.mem_of_getLast? hlast)
    rwa [← of_decide_eq_true hkey]
  · intro hmem
    have hin : (k, v) ∈ l.filter fun e => e.1 = k := List.mem_filter.mpr ⟨hmem, decide_eq_true rfl⟩
    refine ⟨_, List.getLast?_eq_some_getLast (List.ne_nil_of_mem hin), ?_⟩
    have hlast := List.mem_filter.mp (List.getLast_mem (List.ne_nil_of_mem hin))
    rw [List.inj_on_of_nodup_map hl hlast.1 hmem (of_decide_eq_true hlast.2)]

/-- Copying a map entry by entry. -/
theorem lookup_insertAll_entries {μ : Type w} (f : ν → μ) (m : GoMap κ ν) (k : κ) :
    (insertAll (m.entries.map fun e => (e.1, f e.2))).lookup k = (m.lookup k).map f := by
  have hkeys : ((m.entries.map fun e => (e.1, f e.2)).map Prod.fst).Nodup := by
    rw [List.map_map]
    exact m.nodupKeys
  refine Option.ext fun v => ?_
  rw [lookup_insertAll_iff hkeys, List.mem_map, Option.map_eq_some_iff]
  constructor
  · rintro ⟨e, he, heq⟩
    cases heq
    exact ⟨e.2, lookup_of_mem he, rfl⟩
  · rintro ⟨v, hv, rfl⟩
    exact ⟨⟨k, v⟩, AList.mem_lookup_iff.mp hv, rfl⟩

theorem lookup_keyBy_iff {key : ν → κ} {l : List ν} (hl : (l.map key).Nodup) {k : κ} {v : ν} :
    (keyBy key l).lookup k = some v ↔ v ∈ l ∧ key v = k := by
  have hall : keyBy key l = insertAll (l.map fun v => (key v, v)) := by
    rw [keyBy, insertAll, List.foldl_map]
  have hkeys : ((l.map fun v => (key v, v)).map Prod.fst).Nodup := by
    rwa [List.map_map]
  rw [hall, lookup_insertAll_iff hkeys]
  simp only [List.mem_map, Prod.mk.injEq]
  constructor
  · rintro ⟨_, hv, hkey, rfl⟩
    exact ⟨hv, hkey⟩
  · rintro ⟨hv, hkey⟩
    exact ⟨v, hv, hkey, rfl⟩

/-- `for _, v := range l { m[key(v)] = append(m[key(v)], v) }`, from an empty map. -/
def groupBy (key : ν → κ) (l : List ν) : GoMap κ (List ν) :=
  l.foldl (fun m v => m.insert (key v) (((m.lookup (key v)).getD []) ++ [v])) ∅

/-- A group is the sublist of its key; there are no empty groups. -/
theorem lookup_groupBy (key : ν → κ) (l : List ν) (k : κ) :
    (groupBy key l).lookup k =
      if l.filter (fun v => key v = k) = [] then none else some (l.filter fun v => key v = k) := by
  induction l using List.reverseRecOn with
  | nil => exact AList.lookup_empty k
  | append_singleton l v ih =>
    rw [groupBy] at ih
    rw [groupBy, List.foldl_append, List.foldl_cons, List.foldl_nil, List.filter_append]
    by_cases hkey : key v = k
    · rw [hkey, AList.lookup_insert, ih]
      by_cases hnil : l.filter (fun v => key v = k) = []
      · simp [hnil, hkey]
      · simp [hnil, hkey]
    · rw [AList.lookup_insert_ne (Ne.symm hkey), ih]
      simp [hkey]

/-- What a loop over a map collects at one key. -/
theorem flatMap_entries_lookup {α : Type w} (g : ν → List α) (m : GoMap κ ν) (k : κ) :
    (m.entries.flatMap fun e => if e.1 = k then g e.2 else []) = (m.lookup k).elim [] g := by
  obtain ⟨l, hl⟩ := m
  show (l.flatMap fun e => if e.1 = k then g e.2 else []) =
    (@List.dlookup κ (fun _ => ν) _ k l).elim [] g
  induction l with
  | nil => rfl
  | cons e l ih =>
    obtain ⟨k', v⟩ := e
    obtain ⟨hnew, hl⟩ := List.nodupKeys_cons.mp hl
    rw [List.flatMap_cons, ih hl]
    by_cases hk : k = k'
    · subst hk
      rw [List.dlookup_eq_none.mpr hnew, List.dlookup_cons_eq, if_pos rfl]
      exact List.append_nil _
    · rw [List.dlookup_cons_ne _ _ hk, if_neg (Ne.symm hk)]
      rfl

theorem length_insert_new {m : GoMap κ ν} {k : κ} (v : ν) (h : m.lookup k = none) :
    (m.insert k v).entries.length = m.entries.length + 1 := by
  rw [AList.insert_of_notMem (AList.lookup_eq_none.mp h)]
  rfl

theorem length_insert_old {m : GoMap κ ν} {k : κ} {w : ν} (v : ν) (h : m.lookup k = some w) :
    (m.insert k v).entries.length = m.entries.length := by
  have hmem : k ∈ m.keys := AList.lookup_isSome.mp (by rw [h]; rfl)
  have hkeys := congrArg List.length (AList.keys_insert (a := k) (b := v) m)
  rw [List.length_cons, List.length_erase_of_mem hmem] at hkeys
  have hpos := List.length_pos_of_mem hmem
  simp only [AList.keys, List.keys, List.length_map] at hkeys hpos
  omega

omit [DecidableEq κ] in
/-- The keys before and after an entry are other keys. -/
theorem key_notMem_of_split {m : GoMap κ ν} {before after : List ((_ : κ) × ν)} {k : κ} {v : ν}
    (h : m.entries = before ++ ⟨k, v⟩ :: after) :
    k ∉ before.map Sigma.fst ∧ k ∉ after.map Sigma.fst := by
  have hnd := m.nodupKeys
  rw [List.NodupKeys, List.keys, h, List.map_append, List.map_cons] at hnd
  obtain ⟨-, hafter, hbefore⟩ := List.nodup_append.mp hnd
  exact ⟨fun hmem => hbefore k hmem k List.mem_cons_self rfl, (List.nodup_cons.mp hafter).1⟩

/-! ## Invariants of a map -/

/-- Every key with its value satisfies `P`. -/
def All (P : κ → ν → Prop) (m : GoMap κ ν) : Prop := ∀ k v, m.lookup k = some v → P k v

theorem All.empty (P : κ → ν → Prop) : All P (∅ : GoMap κ ν) := by
  intro k v h
  rw [AList.lookup_empty] at h
  cases h

theorem All.singleton {P : κ → ν → Prop} {k : κ} {v : ν} (h : P k v) :
    All P (AList.singleton k v) := by
  intro k' v' hl
  obtain ⟨rfl, heq⟩ := Sigma.mk.inj (List.mem_singleton.mp (AList.mem_lookup_iff.mp hl))
  obtain rfl := eq_of_heq heq
  exact h

theorem All.insert {P : κ → ν → Prop} {m : GoMap κ ν} (hm : All P m) {k : κ} {v : ν}
    (h : P k v) : All P (AList.insert k v m) := by
  intro k' v' hl
  rcases lookup_insert_cases hl with ⟨rfl, rfl⟩ | ⟨-, hl⟩
  · exact h
  · exact hm k' v' hl

theorem lookup_erase_eq_some {m : GoMap κ ν} {k k' : κ} {v : ν}
    (h : (AList.erase k m).lookup k' = some v) : k' ≠ k ∧ m.lookup k' = some v := by
  by_cases hk : k' = k
  · rw [hk, AList.lookup_erase] at h
    cases h
  · rw [AList.lookup_erase_ne hk] at h
    exact ⟨hk, h⟩

theorem All.erase {P : κ → ν → Prop} {m : GoMap κ ν} (hm : All P m) (k : κ) :
    All P (AList.erase k m) :=
  fun k' v hl => hm k' v (lookup_erase_eq_some hl).2

theorem All.mapValues {P : κ → ν → Prop} {m : GoMap κ ν} (hm : All P m) {f : ν → ν}
    (hf : ∀ k v, P k v → P k (f v)) : All P (mapValues f m) := by
  intro k v' hl
  rw [lookup_mapValues] at hl
  obtain ⟨v, hv, rfl⟩ := Option.map_eq_some_iff.mp hl
  exact hf k v (hm k v hv)

/-- Different keys hold values with different `f`. -/
def Separates {ι : Type w} (f : ν → ι) (m : GoMap κ ν) : Prop :=
  ∀ k k' v v', m.lookup k = some v → m.lookup k' = some v' → f v = f v' → k = k'

variable {ι : Type w} {f : ν → ι}

theorem Separates.empty (f : ν → ι) : Separates f (∅ : GoMap κ ν) := by
  intro k k' v v' h
  rw [AList.lookup_empty] at h
  cases h

/-- A new value whose `f` no other key has. -/
theorem Separates.insert {m : GoMap κ ν} (hm : Separates f m) {k : κ} {v : ν}
    (h : ∀ k' v', k' ≠ k → m.lookup k' = some v' → f v' ≠ f v) :
    Separates f (AList.insert k v m) := by
  intro k₁ k₂ v₁ v₂ h₁ h₂ hf
  rcases lookup_insert_cases h₁ with ⟨rfl, rfl⟩ | ⟨hk₁, g₁⟩ <;>
    rcases lookup_insert_cases h₂ with ⟨rfl, rfl⟩ | ⟨hk₂, g₂⟩
  · rfl
  · exact absurd hf.symm (h k₂ v₂ hk₂ g₂)
  · exact absurd hf (h k₁ v₁ hk₁ g₁)
  · exact hm k₁ k₂ v₁ v₂ g₁ g₂ hf

theorem Separates.mapValues {m : GoMap κ ν} (hm : Separates f m) {g : ν → ν}
    (hg : ∀ v, f (g v) = f v) : Separates f (mapValues g m) := by
  intro k₁ k₂ v₁ v₂ h₁ h₂ hf
  rw [lookup_mapValues] at h₁ h₂
  obtain ⟨w₁, hw₁, rfl⟩ := Option.map_eq_some_iff.mp h₁
  obtain ⟨w₂, hw₂, rfl⟩ := Option.map_eq_some_iff.mp h₂
  rw [hg, hg] at hf
  exact hm k₁ k₂ w₁ w₂ hw₁ hw₂ hf

/-- The values of a separating map have no repeated `f`. -/
theorem Separates.nodup {m : GoMap κ ν} (hm : Separates f m) : (m.values.map f).Nodup := by
  rw [values, List.map_map]
  have hkeys : (m.entries.map Sigma.fst).Nodup := m.nodupKeys
  refine List.Nodup.map_on ?_ (List.Nodup.of_map _ hkeys)
  intro e he e' he' hf
  have hk : e.1 = e'.1 := hm _ _ _ _ (lookup_of_mem he) (lookup_of_mem he') hf
  exact List.inj_on_of_nodup_map hkeys he he' hk

theorem Separates.of_nodup {m : GoMap κ ν} (h : (m.values.map f).Nodup) : Separates f m := by
  intro k k' v v' hl hl' hf
  rw [values, List.map_map] at h
  have heq := List.inj_on_of_nodup_map h (AList.mem_lookup_iff.mp hl)
    (AList.mem_lookup_iff.mp hl') hf
  exact congrArg Sigma.fst heq

end GoMap

end MultiNicCni.Go
