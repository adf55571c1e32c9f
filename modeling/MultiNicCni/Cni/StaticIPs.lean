import MultiNicCni.Cni.AddRequest

/-!
# The static addresses of a request (`getStaticIPs`)

The arguments of a CNI request are items joined by `;`. An item `IP=…` holds static addresses,
which `cmdAdd` takes out of the arguments before it passes them on. The items after it are kept
under a condition on its position that compares it with the length of the item itself, not with
the number of items.

- `Extracted`: the addresses of the first such item, and the other items;
- `getStaticIPs_eq`: what is returned, for an item at any position;
- `getStaticIPs_extracts_iff`: **the other items are returned exactly when the item is the last
  one or is longer than the number of items up to it**.
-/

namespace MultiNicCni.Cni.MultiNic

open Go

/-! ## What the function is for -/

/-- The item holds static addresses. -/
def IsIP (item : String) : Prop := "IP=".toList.isPrefixOf item.toList = true

instance (item : String) : Decidable (IsIP item) := inferInstanceAs (Decidable (_ = true))

/-- The first item with static addresses, between the items before and after it. -/
structure FirstIP (cniArgs : String) (before : List String) (item : String)
    (after : List String) : Prop where
  items : split cniArgs ';' = before ++ item :: after
  isIP : IsIP item
  none_before : ∀ other ∈ before, ¬ IsIP other

/-- The arguments are made of these items. -/
structure HasItems (cniArgs : String) (items : List String) : Prop where
  joined : cniArgs = ";".intercalate items
  split_eq : items ≠ [] → split cniArgs ';' = items

/-- The addresses of the first item that holds some and the other items in order, or everything
as it was. -/
def Extracted (cniArgs : String) (result : List String × String) : Prop :=
  (∃ before item after, FirstIP cniArgs before item after ∧
    result.1 = split (String.ofList (item.toList.drop 3)) ',' ∧
    HasItems result.2 (before ++ after)) ∨
  ((∀ item ∈ split cniArgs ';', ¬ IsIP item) ∧ result = ([], cniArgs))

/-- The first item with static addresses is the last one, or is longer than the number of items
up to it. -/
def KeepsOthers (cniArgs : String) : Prop :=
  ∀ before item after, FirstIP cniArgs before item after →
    after = [] ∨ before.length + 1 < item.utf8ByteSize

/-! ## What it returns -/

section Return

variable {cniArgs : String} {before after : List String} {item : String}

theorem FirstIP.findIdx (h : FirstIP cniArgs before item after) :
    (split cniArgs ';').findIdx? (fun item => "IP=".toList.isPrefixOf item.toList) =
      some before.length := by
  have hbefore : before.findIdx? (fun item => "IP=".toList.isPrefixOf item.toList) = none := by
    rw [List.findIdx?_eq_none_iff]
    intro other hother
    exact Bool.eq_false_iff.mpr (h.none_before other hother)
  rw [h.items, List.findIdx?_append, hbefore, Option.none_or, List.findIdx?_cons,
    if_pos (show _ = true from h.isIP), Option.map_some, Nat.zero_add]

/-- There is one first item. -/
theorem FirstIP.unique {before' after' : List String} {item' : String}
    (h : FirstIP cniArgs before item after) (h' : FirstIP cniArgs before' item' after') :
    before = before' ∧ item = item' ∧ after = after' := by
  have hlen : before.length = before'.length :=
    Option.some.inj (h.findIdx.symm.trans h'.findIdx)
  obtain ⟨hbefore, hrest⟩ := List.append_inj (h.items.symm.trans h'.items) hlen
  obtain ⟨hitem, hafter⟩ := List.cons.inj hrest
  exact ⟨hbefore, hitem, hafter⟩

theorem getStaticIPs_eq (h : FirstIP cniArgs before item after) :
    getStaticIPs cniArgs = (split (String.ofList (item.toList.drop 3)) ',',
      ";".intercalate (if before.length + 1 < item.utf8ByteSize then before ++ after else before)) := by
  rw [getStaticIPs]
  dsimp only
  rw [h.findIdx]
  dsimp only
  rw [h.items]
  simp

/-- Items of a text that is split are joined and split again. -/
theorem FirstIP.hasItems (h : FirstIP cniArgs before item after) {items : List String}
    (hsub : ∀ other ∈ items, other ∈ before ++ after) : HasItems (";".intercalate items) items := by
  refine ⟨rfl, fun hne => split_intercalate hne fun other hother => ?_⟩
  have hmem : other ∈ split cniArgs ';' := by
    rw [h.items]
    rcases List.mem_append.mp (hsub other hother) with hb | ha
    · exact List.mem_append_left _ hb
    · exact List.mem_append_right _ (List.mem_cons_of_mem item ha)
  exact not_mem_of_mem_split hmem

/-- An item with static addresses has three bytes at least. -/
theorem three_le_size (h : IsIP item) : 3 ≤ item.utf8ByteSize := by
  obtain ⟨rest, hrest⟩ := List.isPrefixOf_iff_prefix.mp h
  have hitem : item = "IP=" ++ String.ofList rest := by
    rw [← String.ofList_toList (s := item), ← hrest, String.ofList_append, String.ofList_toList]
  rw [hitem, String.utf8ByteSize_append]
  exact Nat.le_add_right 3 _

end Return

/-- **The other items are returned exactly when the first item with static addresses is the last
one or is longer than the number of items up to it**; without such an item, everything is returned
as it was. -/
theorem getStaticIPs_extracts_iff (cniArgs : String) :
    Extracted cniArgs (getStaticIPs cniArgs) ↔ KeepsOthers cniArgs := by
  by_cases hip : ∃ before item after, FirstIP cniArgs before item after
  · obtain ⟨before, item, after, h⟩ := hip
    have hkeeps : KeepsOthers cniArgs ↔ after = [] ∨ before.length + 1 < item.utf8ByteSize := by
      constructor
      · exact fun hall => hall before item after h
      · intro hone before' item' after' h'
        obtain ⟨rfl, rfl, rfl⟩ := h.unique h'
        exact hone
    rw [hkeeps, getStaticIPs_eq h]
    constructor
    · rintro (⟨before', item', after', h', -, hitems⟩ | ⟨hnone, -⟩)
      · obtain ⟨rfl, rfl, rfl⟩ := h.unique h'
        by_contra hlost
        rw [not_or] at hlost
        dsimp only at hitems
        rw [if_neg hlost.2] at hitems
        -- two items at least come before, and the items of what is returned are those
        have hne : before ≠ [] := by
          rintro rfl
          have := three_le_size h.isIP
          exact hlost.2 (by simp; omega)
        have hback := (h.hasItems (List.subset_append_left before after)).split_eq hne
        rw [hitems.split_eq (by simp [hne])] at hback
        exact hlost.1 (by simpa using hback)
      · exact absurd h.isIP (hnone item (by rw [h.items]; simp))
    · intro hone
      refine Or.inl ⟨before, item, after, h, rfl, ?_⟩
      dsimp only
      have hsame : (if before.length + 1 < item.utf8ByteSize then before ++ after else before) =
          before ++ after := by
        rcases hone with rfl | hlong
        · simp
        · rw [if_pos hlong]
      rw [hsame]
      exact h.hasItems fun other hother => hother
  · have hnone : ∀ item ∈ split cniArgs ';', ¬ IsIP item := by
      intro item hitem hisIP
      have hsome : ((split cniArgs ';').find? fun item => decide (IsIP item)).isSome = true :=
        List.find?_isSome.mpr ⟨item, hitem, decide_eq_true hisIP⟩
      obtain ⟨first, hfirst⟩ := Option.isSome_iff_exists.mp hsome
      obtain ⟨hisIP', before, after, hitems, hbefore⟩ := List.find?_eq_some_iff_append.mp hfirst
      exact hip ⟨before, first, after, hitems, of_decide_eq_true hisIP', fun other hother => by
        simpa using hbefore other hother⟩
    have hreturn : getStaticIPs cniArgs = ([], cniArgs) := by
      rw [getStaticIPs]
      dsimp only
      rw [List.findIdx?_eq_none_iff.mpr fun item hitem => Bool.eq_false_iff.mpr (hnone item hitem)]
    exact iff_of_true (Or.inr ⟨hnone, hreturn⟩) fun before item after h => absurd ⟨_, _, _, h⟩ hip

/-- Arguments with five items before the addresses and one after them. -/
def manyArgs : String := "A=1;B=2;C=3;D=4;E=5;IP=::1;K8S_POD_NAME=pod"

/-- The item after the addresses is lost: the item of the addresses has only six bytes. -/
theorem getStaticIPs_loses_item :
    getStaticIPs manyArgs = (["::1"], "A=1;B=2;C=3;D=4;E=5") ∧
      ¬ Extracted manyArgs (getStaticIPs manyArgs) := by
  have hreturn : getStaticIPs manyArgs = (["::1"], "A=1;B=2;C=3;D=4;E=5") := by decide +kernel
  have hfirst : FirstIP manyArgs ["A=1", "B=2", "C=3", "D=4", "E=5"] "IP=::1" ["K8S_POD_NAME=pod"] :=
    ⟨by decide +kernel, by decide, by decide⟩
  refine ⟨hreturn, ?_⟩
  rw [hreturn]
  rintro (⟨before, item, after, h, -, hitems⟩ | ⟨hnone, -⟩)
  · obtain ⟨rfl, rfl, rfl⟩ := hfirst.unique h
    exact absurd hitems.joined (by decide +kernel)
  · exact absurd hfirst.isIP (hnone "IP=::1" (by rw [hfirst.items]; decide))

end MultiNicCni.Cni.MultiNic
