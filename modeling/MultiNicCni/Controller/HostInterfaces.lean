import MultiNicCni.Api
import MultiNicCni.Go.Map

/-!
# The interfaces of a host (`controllers/hostinterface_controller.go`)

The controller merges the interfaces that a daemon reports into the `HostInterface` object of
its host. An interface that is not reported any more is kept. The scan over the reported ones
takes what it meets out of the map of the old ones, so that the rest of the map is what to keep.

- `scanNews_spec`: what one scan leaves of the map, and when it raises the flag;
- `updateNewInterfaces_cases`: the two outcomes, in the order in which the map is iterated;
- `updateNewInterfaces_merge`: **the result is the old interfaces overridden by the new ones**,
  it is reported as an update exactly when a new one differs, and a second time it never is.
-/

namespace MultiNicCni.Controller

open Go

/-- The map from name to interface. -/
def byName (infos : List InterfaceInfo) : GoMap String InterfaceInfo :=
  GoMap.keyBy (·.interfaceName) infos

/-- The body of the loop over the new interfaces: the old ones not met yet, and whether there is
a change. -/
def scanNew (st : GoMap String InterfaceInfo × Bool) (new : InterfaceInfo) :
    GoMap String InterfaceInfo × Bool :=
  match st.1.lookup new.interfaceName with
  | some old => (st.1.erase new.interfaceName, if !old.equal new then true else st.2)
  | none => (st.1, true)

/-- `UpdateNewInterfaces`: the interfaces, and whether they are updated. -/
def updateNewInterfaces (order : GoMap.RangeOrder String InterfaceInfo)
    (olds news : List InterfaceInfo) : List InterfaceInfo × Bool :=
  if news.length = 0 then (olds, false)
  else
    let (oldMap, updated) := news.foldl scanNew (byName olds, false)
    if !updated then (olds, false)
    -- no missing old interfaces
    else if oldMap.entries.length = 0 then (news, updated)
    else (news ++ order.values oldMap, true)

/-! ## The scan -/

/-- The interface is among the old ones, as far as `Equal` compares. -/
def Known (m : GoMap String InterfaceInfo) (new : InterfaceInfo) : Prop :=
  ∃ old, m.lookup new.interfaceName = some old ∧ old.equal new = true

/-- One turn. -/
theorem scanNew_spec (m : GoMap String InterfaceInfo) (updated : Bool) (new : InterfaceInfo) :
    (∀ name, (scanNew (m, updated) new).1.lookup name =
        if name = new.interfaceName then none else m.lookup name) ∧
      ((scanNew (m, updated) new).2 = false ↔ updated = false ∧ Known m new) := by
  unfold scanNew Known
  cases hold : m.lookup new.interfaceName with
  | none =>
    refine ⟨fun name => ?_, ⟨nofun, fun ⟨_, old, hl, _⟩ => by cases hl⟩⟩
    by_cases hname : name = new.interfaceName
    · rw [if_pos hname, hname]
      exact hold
    · rw [if_neg hname]
  | some old =>
    constructor
    · intro name
      dsimp only
      split
      · next hname => rw [hname, AList.lookup_erase]
      · next hname => exact AList.lookup_erase_ne hname
    · dsimp only
      cases hequal : old.equal new with
      | false => simp [hequal]
      | true => simp [hequal]

/-- The whole scan. A name occurs once among the new ones, so that the turns before its own
leave the old interface of that name. -/
theorem scanNews_spec {news : List InterfaceInfo} (hnews : (news.map (·.interfaceName)).Nodup)
    (m : GoMap String InterfaceInfo) (updated : Bool) :
    (∀ name, (news.foldl scanNew (m, updated)).1.lookup name =
        if name ∈ news.map (·.interfaceName) then none else m.lookup name) ∧
      ((news.foldl scanNew (m, updated)).2 = false ↔
        updated = false ∧ ∀ new ∈ news, Known m new) := by
  induction news generalizing m updated with
  | nil => simp
  | cons new news ih =>
    rw [List.map_cons, List.nodup_cons] at hnews
    obtain ⟨hfresh, hnews⟩ := hnews
    obtain ⟨hstep, hflag⟩ := scanNew_spec m updated new
    obtain ⟨ihmap, ihflag⟩ := ih hnews (scanNew (m, updated) new).1 (scanNew (m, updated) new).2
    rw [List.foldl_cons]
    constructor
    · intro name
      rw [ihmap, hstep, List.map_cons]
      by_cases hname : name = new.interfaceName
      · simp [hname]
      · simp [hname]
    · -- the names of the rest are other names
      have hrest : ∀ new' ∈ news, Known (scanNew (m, updated) new).1 new' ↔ Known m new' := by
        intro new' hnew'
        have hne : new'.interfaceName ≠ new.interfaceName := fun heq =>
          hfresh (heq ▸ List.mem_map_of_mem hnew')
        rw [Known, Known, hstep, if_neg hne]
      rw [ihflag, hflag, List.forall_mem_cons, and_assoc]
      exact and_congr_right fun _ => and_congr_right fun _ => forall₂_congr hrest

/-! ## The outcomes -/

/-- There is nothing to update. -/
def UpToDate (olds news : List InterfaceInfo) : Prop :=
  news = [] ∨ ∀ new ∈ news, ∃ old ∈ olds, old.interfaceName = new.interfaceName ∧
    old.equal new = true

/-- The old interfaces of which no new one has the name, in some order. -/
structure Missing (olds news rest : List InterfaceInfo) : Prop where
  mem : ∀ i, i ∈ rest ↔ i ∈ olds ∧ i.interfaceName ∉ news.map (·.interfaceName)
  distinct : (rest.map (·.interfaceName)).Nodup

section Outcomes

variable {olds news : List InterfaceInfo} (holds : (olds.map (·.interfaceName)).Nodup)
  (hnews : (news.map (·.interfaceName)).Nodup)

include holds

theorem known_byName_iff (new : InterfaceInfo) : Known (byName olds) new ↔
    ∃ old ∈ olds, old.interfaceName = new.interfaceName ∧ old.equal new = true := by
  refine exists_congr fun old => ?_
  rw [byName, GoMap.lookup_keyBy_iff holds, and_assoc]

include hnews

/-- What the scan leaves is what is missing. -/
theorem missing_scanNews (order : GoMap.RangeOrder String InterfaceInfo) :
    Missing olds news (order.values (news.foldl scanNew (byName olds, false)).1) := by
  obtain ⟨hmap, -⟩ := scanNews_spec hnews (byName olds) false
  have hlookup : ∀ name i, (news.foldl scanNew (byName olds, false)).1.lookup name = some i ↔
      name ∉ news.map (·.interfaceName) ∧ i ∈ olds ∧ i.interfaceName = name := by
    intro name i
    rw [hmap, byName]
    by_cases hname : name ∈ news.map (·.interfaceName)
    · simp [hname]
    · rw [if_neg hname, GoMap.lookup_keyBy_iff holds]
      simp [hname]
  have hperm := order.perm (news.foldl scanNew (byName olds, false)).1
  constructor
  · intro i
    rw [hperm.mem_iff, GoMap.mem_values]
    constructor
    · rintro ⟨name, hl⟩
      obtain ⟨hname, hi, rfl⟩ := (hlookup name i).mp hl
      exact ⟨hi, hname⟩
    · rintro ⟨hi, hname⟩
      exact ⟨i.interfaceName, (hlookup _ i).mpr ⟨hname, hi, rfl⟩⟩
  · rw [(hperm.map _).nodup_iff]
    refine GoMap.Separates.nodup fun name name' i i' hl hl' heq => ?_
    rw [← ((hlookup name i).mp hl).2.2, ← ((hlookup name' i').mp hl').2.2, heq]

/-- Either nothing is to update, or the missing old interfaces follow the new ones. -/
theorem updateNewInterfaces_cases (order : GoMap.RangeOrder String InterfaceInfo) :
    (UpToDate olds news ∧ updateNewInterfaces order olds news = (olds, false)) ∨
      (¬ UpToDate olds news ∧ ∃ rest, Missing olds news rest ∧
        updateNewInterfaces order olds news = (news ++ rest, true)) := by
  by_cases hempty : news.length = 0
  · left
    exact ⟨Or.inl (List.length_eq_zero_iff.mp hempty), by rw [updateNewInterfaces, if_pos hempty]⟩
  obtain ⟨-, hflag⟩ := scanNews_spec hnews (byName olds) false
  have hmissing := missing_scanNews holds hnews order
  have hnil : news ≠ [] := fun h => hempty (by rw [h]; rfl)
  have hupToDate : UpToDate olds news ↔
      (news.foldl scanNew (byName olds, false)).2 = false := by
    rw [hflag, UpToDate, or_iff_right hnil]
    simp only [true_and, known_byName_iff holds]
  rw [hupToDate, updateNewInterfaces, if_neg hempty]
  rcases hscan : news.foldl scanNew (byName olds, false) with ⟨oldMap, updated⟩
  rw [hscan] at hmissing
  cases updated with
  | false => exact Or.inl ⟨rfl, rfl⟩
  | true =>
    refine Or.inr ⟨nofun, order.values oldMap, hmissing, ?_⟩
    dsimp only
    rw [if_neg (by decide)]
    split
    · -- nothing is left in the map
      next hlen =>
      have hvalues : order.values oldMap = [] := by
        refine List.length_eq_zero_iff.mp ?_
        rw [(order.perm oldMap).length_eq, GoMap.values, List.length_map, hlen]
      rw [hvalues, List.append_nil]
    · rfl

omit holds in
/-- The new interfaces and the missing ones have distinct names. -/
theorem Missing.nodup_append {rest : List InterfaceInfo} (h : Missing olds news rest) :
    ((news ++ rest).map (·.interfaceName)).Nodup := by
  rw [List.map_append]
  refine hnews.append h.distinct ?_
  intro name hnew hrest
  obtain ⟨i, hi, rfl⟩ := List.mem_map.mp hrest
  exact ((h.mem i).mp hi).2 hnew

/-- As a map, they are the old ones overridden by the new ones. -/
theorem Missing.lookup_byName {rest : List InterfaceInfo} (h : Missing olds news rest)
    (name : String) : (byName (news ++ rest)).lookup name =
      ((byName news).lookup name).or ((byName olds).lookup name) := by
  ext i
  simp only [byName, Option.or_eq_some_iff, GoMap.lookup_keyBy_iff (h.nodup_append hnews),
    GoMap.lookup_keyBy_iff hnews, GoMap.lookup_keyBy_iff holds, Option.eq_none_iff_forall_ne_some,
    ne_eq, List.mem_append, h.mem, List.mem_map, not_exists, not_and]
  constructor
  · rintro ⟨hnew | ⟨hold, hnot⟩, rfl⟩
    · exact Or.inl ⟨hnew, rfl⟩
    · exact Or.inr ⟨hnot, hold, rfl⟩
  · rintro (⟨hnew, rfl⟩ | ⟨hnot, hold, rfl⟩)
    · exact ⟨Or.inl hnew, rfl⟩
    · exact ⟨Or.inr ⟨hold, hnot⟩, rfl⟩

/-- **Merging the reported interfaces.** The result is reported as updated unless every new
interface is `Equal` to the old one of its name, and then the old ones are returned. Otherwise
the result has distinct names and is, as a map, the old interfaces overridden by the new ones.
Merging the same interfaces once more reports no update. All of this in every order in which
the maps are iterated. -/
theorem updateNewInterfaces_merge (order order' : GoMap.RangeOrder String InterfaceInfo) :
    ((updateNewInterfaces order olds news).2 = false ↔ UpToDate olds news) ∧
      (UpToDate olds news → (updateNewInterfaces order olds news).1 = olds) ∧
      (¬ UpToDate olds news →
        ((updateNewInterfaces order olds news).1.map (·.interfaceName)).Nodup ∧
          ∀ name, (byName (updateNewInterfaces order olds news).1).lookup name =
            ((byName news).lookup name).or ((byName olds).lookup name)) ∧
      (updateNewInterfaces order' (updateNewInterfaces order olds news).1 news).2 = false := by
  rcases updateNewInterfaces_cases holds hnews order with ⟨hup, heq⟩ | ⟨hup, rest, hrest, heq⟩
  · rw [heq]
    refine ⟨⟨fun _ => hup, fun _ => rfl⟩, fun _ => rfl, fun h => absurd hup h, ?_⟩
    rcases updateNewInterfaces_cases holds hnews order' with ⟨-, heq'⟩ | ⟨hnot, -⟩
    · rw [heq']
    · exact absurd hup hnot
  · rw [heq]
    have hnodup := hrest.nodup_append hnews
    refine ⟨⟨nofun, fun h => absurd h hup⟩, fun h => absurd h hup,
      fun _ => ⟨hnodup, hrest.lookup_byName holds hnews⟩, ?_⟩
    -- every new interface is there itself
    have hagain : UpToDate (news ++ rest) news := Or.inr fun new hnew =>
      ⟨new, List.mem_append_left rest hnew, rfl, new.equal_self⟩
    rcases updateNewInterfaces_cases hnodup hnews order' with ⟨-, heq'⟩ | ⟨hnot, -⟩
    · rw [heq']
    · exact absurd hagain hnot

end Outcomes

/-- An interface with a given address. -/
def eth1At (hostIP : String) : InterfaceInfo :=
  ⟨⟨"eth1", "10.0.1.0/24", hostIP⟩, "0x1d0f", "0xefa1", "0000:00:05.0"⟩

def eth2 : InterfaceInfo := ⟨⟨"eth2", "10.0.2.0/24", "10.0.2.1"⟩, "0x1d0f", "0xefa1", "0000:00:06.0"⟩

/-- The address of `eth1` changes while `eth2` is not reported. -/
theorem updateNewInterfaces_merge_changed :
    updateNewInterfaces .listed [eth1At "10.0.1.1", eth2] [eth1At "10.0.1.7"] =
        ([eth1At "10.0.1.7", eth2], true) ∧
      (updateNewInterfaces .listed [eth1At "10.0.1.7", eth2] [eth1At "10.0.1.7"]).2 = false := by
  refine ⟨by decide +kernel, ?_⟩
  exact (@updateNewInterfaces_merge [eth1At "10.0.1.1", eth2] [eth1At "10.0.1.7"] (by decide)
    (by decide) .listed .listed).2.2.2

end MultiNicCni.Controller
