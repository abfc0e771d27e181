import Gatehouse.Capability.Set
import Gatehouse.Proofs.Readings

/-!
# `Gatehouse.Proofs.Capability.Names` — capabilities by their names

The name of a capability may be written in any ASCII case and with white space around it
(`Capability.IsSpelled`), and nothing else is read as the capability (`Capability.parse_eq_ok_iff`). The set of a
list of names depends on no more than which capabilities are named (`Capabilities.contains_of_ofNames`,
`Capabilities.ofNames_eq_ok_iff`), and the names of its members are read back as the same set
(`Capabilities.ofNames_names`).
-/

namespace Gatehouse

namespace Capability

/-- The text is the name of the capability, in any ASCII case and with white space around it. -/
def IsSpelled (c : Capability) (s : String) : Prop :=
  ∃ before core after, s.toList = before ++ (core ++ after) ∧
    (∀ ch ∈ before, Text.isBlank ch = true) ∧ (∀ ch ∈ after, Text.isBlank ch = true) ∧
    core.map Char.toLower = c.name.toList

/-- A name holds no white space. -/
theorem not_isBlank_of_mem_name (c : Capability) {ch : Char} (h : ch ∈ c.name.toList) :
    Text.isBlank ch = false := by
  have hall : c.name.toList.all (fun ch => !Text.isBlank ch) = true := by
    cases c <;> decide +kernel
  simpa using List.all_eq_true.mp hall ch h

/-- Different capabilities have different names. -/
theorem find?_name (c : Capability) : all.find? (fun d => d.name = c.name) = some c := by
  cases c <;> decide +kernel

/-- **What is read as a capability is its name**, in any ASCII case and with white space around it. -/
theorem parse_eq_ok_iff {s : String} {c : Capability} : parse s = .ok c ↔ c.IsSpelled s := by
  constructor
  · intro h
    simp only [parse] at h
    split at h
    · next d hfind =>
        obtain rfl := Except.ok.inj h
        have hname : d.name = String.ofList (Text.asciiLowercase (Text.trim s.toList)) := by
          simpa using List.find?_some hfind
        obtain ⟨before, after, hs, hbefore, hafter⟩ := Text.exists_eq_trim s.toList
        refine ⟨before, _, after, hs, hbefore, hafter, ?_⟩
        rw [hname, String.toList_ofList]
        rfl
    · cases h
  · rintro ⟨before, core, after, hs, hbefore, hafter, hcore⟩
    -- The name holds no white space, so neither does the core, and trimming stops there.
    have hsolid : ∀ ch ∈ core, Text.isBlank ch = false := by
      intro ch hch
      rw [← Text.isBlank_toLower]
      exact c.not_isBlank_of_mem_name (hcore ▸ List.mem_map_of_mem hch)
    have htrim : Text.trim s.toList = core := by
      rw [hs]
      exact Text.trim_append hbefore hafter (fun ch hch => hsolid ch (List.mem_of_mem_head? hch))
        (fun ch hch => hsolid ch (List.mem_of_mem_getLast? hch))
    have hneedle : String.ofList (Text.asciiLowercase (Text.trim s.toList)) = c.name := by
      rw [htrim, Text.asciiLowercase, hcore, String.ofList_toList]
    simp only [parse, hneedle, find?_name]

/-- A name is a spelling of itself. -/
theorem parse_name (c : Capability) : parse c.name = .ok c := by
  have hlower : c.name.toList.map Char.toLower = c.name.toList := by
    cases c <;> decide +kernel
  exact parse_eq_ok_iff.mpr ⟨[], c.name.toList, [], by simp, nofun, nofun, hlower⟩

end Capability

namespace Capabilities

/-- **The set of a list of names** has as members the capabilities that are named. -/
theorem contains_of_ofNames {names : List String} {s : Capabilities} (h : ofNames names = .ok s)
    (c : Capability) : s.contains c = true ↔ ∃ name ∈ names, c.IsSpelled name := by
  obtain ⟨cs, hread, rfl⟩ := map_eq_ok_iff.mp h
  have hunique (name : String) (d d' : Capability) (hd : Capability.parse name = .ok d)
      (hd' : Capability.parse name = .ok d') : d = d' := Except.ok.inj (hd.symm.trans hd')
  rw [contains_ofList, mem_of_forall₂ (mapM_eq_ok_iff.mp hread) hunique]
  simp only [Capability.parse_eq_ok_iff]

/-- **What is read as the set** are names of its members, in any order and as often as one likes, with none of the
    members left out. -/
theorem ofNames_eq_ok_iff {names : List String} {s : Capabilities} :
    ofNames names = .ok s ↔
      (∀ name ∈ names, ∃ c, s.contains c = true ∧ c.IsSpelled name) ∧
        ∀ c, s.contains c = true → ∃ name ∈ names, c.IsSpelled name := by
  constructor
  · intro h
    refine ⟨fun name hname => ?_, fun c => (contains_of_ofNames h c).mp⟩
    obtain ⟨cs, hread, -⟩ := map_eq_ok_iff.mp h
    obtain ⟨c, hc⟩ := exists_mapM_eq_ok_iff.mp ⟨cs, hread⟩ name hname
    rw [Capability.parse_eq_ok_iff] at hc
    exact ⟨c, (contains_of_ofNames h c).mpr ⟨name, hname, hc⟩, hc⟩
  · rintro ⟨hnamed, hall⟩
    obtain ⟨cs, hread⟩ := exists_mapM_eq_ok_iff.mpr fun name hname =>
      (hnamed name hname).imp fun c hc => Capability.parse_eq_ok_iff.mpr hc.2
    have hset : ofNames names = .ok (ofList cs) := by
      rw [ofNames, hread]
      rfl
    rw [hset, Except.ok.injEq]
    refine ext_contains fun c => Bool.eq_iff_iff.mpr ?_
    rw [contains_of_ofNames hset]
    refine ⟨?_, hall c⟩
    rintro ⟨name, hname, hc⟩
    obtain ⟨d, hd, hname'⟩ := hnamed name hname
    -- A name is not one of two capabilities.
    have hcd := (Capability.parse_eq_ok_iff.mpr hc).symm.trans (Capability.parse_eq_ok_iff.mpr hname')
    rwa [Except.ok.inj hcd]

/-- The members are listed. -/
theorem mem_toList {s : Capabilities} {c : Capability} : c ∈ s.toList ↔ s.contains c = true := by
  rw [toList, List.mem_filter]
  exact and_iff_right c.mem_all

/-- The set of the members is the set. -/
theorem ofList_toList (s : Capabilities) : ofList s.toList = s := by
  refine ext_contains fun c => ?_
  rw [Bool.eq_iff_iff, contains_ofList, mem_toList]

/-- **The names of the members stand for the set.** -/
theorem ofNames_names (s : Capabilities) : ofNames s.names = .ok s := by
  have hread : s.names.mapM Capability.parse = .ok s.toList := by
    refine mapM_eq_ok_iff.mpr (List.forall₂_map_left_iff.mpr ?_)
    exact List.forall₂_same.mpr fun c _ => c.parse_name
  rw [ofNames, hread, Except.map, ofList_toList]

end Capabilities

end Gatehouse
