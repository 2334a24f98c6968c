import DriverValidation.Pod.Build
import Mathlib.Data.List.Nodup
import Mathlib.Data.List.Induction

/-!
Pods that are built again and again, each time for a DaemonSet and a node. Every field follows a rule of
its own: the name grows, the namespace is the first one there is, the node is the last one, and each
DaemonSet that can own the pod comes to its owners once, behind those that were there before.
-/

namespace DriverValidation

/-- The name and the uid of a DaemonSet, if it has both. -/
def DaemonSet.identity? (d : DaemonSet) : Option (String × String) :=
  d.metadata.name.bind fun name => d.metadata.uid.map fun uid => (name, uid)

namespace OwnerReference

/-- The reference by which the DaemonSet with a name and a uid controls a pod. -/
def controlling (id : String × String) : OwnerReference where
  apiVersion := "apps/v1"
  kind := "DaemonSet"
  name := id.1
  uid := id.2
  controller := some true
  blockOwnerDeletion := some true

def uids (owners : Option (List OwnerReference)) : List String := (owners.getD []).map (·.uid)

end OwnerReference

open OwnerReference (controlling uids)

namespace DaemonSet

theorem owner?_eq (d : DaemonSet) : d.owner? = d.identity?.map controlling := by
  rw [owner?, identity?]
  cases d.metadata.name <;> cases d.metadata.uid <;> rfl

theorem identity?_eq_none_iff {d : DaemonSet} :
    d.identity? = none ↔ d.metadata.name = none ∨ d.metadata.uid = none := by
  rw [identity?]
  cases d.metadata.name <;> cases d.metadata.uid <;> simp

/-- Of some identities those whose uid is neither known nor that of an earlier one, in order. -/
def newcomers (known : List String) (ids : List (String × String)) : List (String × String) :=
  ids.zipIdx.filterMap fun e =>
    if e.1.2 ∈ known ∨ e.1.2 ∈ (ids.take e.2).map Prod.snd then none else some e.1

section Newcomers

variable (known : List String) (ids : List (String × String))

theorem newcomers_concat (id : String × String) :
    newcomers known (ids ++ [id]) = newcomers known ids ++
      if id.2 ∈ known ∨ id.2 ∈ ids.map Prod.snd then [] else [id] := by
  rw [newcomers, List.zipIdx_append, List.filterMap_append]
  congr 1
  · -- what stands before an earlier one is the same
    refine List.filterMap_congr fun e he => ?_
    obtain ⟨hlt, -⟩ := List.getElem?_eq_some_iff.mp (List.mk_mem_zipIdx_iff_getElem?.mp he)
    rw [List.take_append_of_le_length (Nat.le_of_lt hlt)]
  · simp only [List.zipIdx_cons, List.zipIdx_nil, Nat.zero_add, List.filterMap_cons,
      List.filterMap_nil, List.take_left]
    by_cases hid : id.2 ∈ known ∨ id.2 ∈ ids.map Prod.snd
    · simp only [if_pos hid]
    · simp only [if_neg hid]

/-- With the newcomers all uids are known. -/
theorem known_or_newcomer_iff {uid : String} :
    uid ∈ known ∨ uid ∈ (newcomers known ids).map Prod.snd ↔
      uid ∈ known ∨ uid ∈ ids.map Prod.snd := by
  induction ids using List.reverseRecOn with
  | nil => rfl
  | append_singleton ids id ih =>
      rw [newcomers_concat, List.map_append, List.mem_append, ← or_assoc, ih, List.map_append,
        List.mem_append, ← or_assoc]
      by_cases hid : id.2 ∈ known ∨ id.2 ∈ ids.map Prod.snd
      · rw [if_pos hid, List.map_nil, List.map_singleton, List.mem_singleton]
        constructor
        · exact fun h => Or.inl (h.resolve_right List.not_mem_nil)
        · rintro (h | rfl)
          · exact Or.inl h
          · exact Or.inl hid
      · rw [if_neg hid]

theorem newcomers_unknown : ∀ uid ∈ (newcomers known ids).map Prod.snd, uid ∉ known := by
  induction ids using List.reverseRecOn with
  | nil => exact fun uid huid => absurd huid List.not_mem_nil
  | append_singleton ids id ih =>
      rw [newcomers_concat]
      split
      · rwa [List.append_nil]
      · rename_i hid
        rw [List.map_append, List.map_singleton]
        refine List.forall_mem_append.mpr ⟨ih, List.forall_mem_singleton.mpr ?_⟩
        exact fun hknown => hid (Or.inl hknown)

theorem nodup_newcomers : ((newcomers known ids).map Prod.snd).Nodup := by
  induction ids using List.reverseRecOn with
  | nil => exact List.nodup_nil
  | append_singleton ids id ih =>
      rw [newcomers_concat]
      split
      · rwa [List.append_nil]
      · rename_i hid
        rw [List.map_append, List.map_singleton, ← List.concat_eq_append]
        exact ih.concat fun h => hid ((known_or_newcomer_iff known ids).mp (Or.inr h))

end Newcomers

end DaemonSet

/-- What building a pod leaves alone of its description. -/
def Metadata.rest (m : Metadata) : Metadata :=
  { m with
    name := none, namespaceName := none, labels := none, annotations := none
    ownerReferences := none }

namespace Pod

open DaemonSet (newcomers)

/-- The pod after it was built for some DaemonSets and nodes, one after the other. -/
def buildAll (p : Pod) (builds : List (DaemonSet × String)) : Pod :=
  builds.foldl (fun p b => p.build b.1 b.2) p

def identities (builds : List (DaemonSet × String)) : List (String × String) :=
  builds.filterMap (·.1.identity?)

variable (p : Pod) (builds : List (DaemonSet × String))

theorem buildAll_concat (b : DaemonSet × String) :
    p.buildAll (builds ++ [b]) = (p.buildAll builds).build b.1 b.2 :=
  List.foldl_concat ..

/-- The name grows by each node. -/
theorem name_buildAll : (p.buildAll builds).metadata.name =
    p.metadata.name.map fun name => name ++ String.join (builds.map fun b => "-" ++ b.2) := by
  induction builds using List.reverseRecOn with
  | nil =>
      change p.metadata.name = p.metadata.name.map fun name => name ++ ""
      simp only [String.append_empty, Option.map_id']
  | append_singleton builds b ih =>
      rw [buildAll_concat]
      change (p.buildAll builds).metadata.name.map (fun name => name ++ "-" ++ b.2) = _
      have hjoin : String.join ["-" ++ b.2] = "-" ++ b.2 := String.empty_append
      rw [ih, Option.map_map, List.map_append, List.map_singleton, String.join_append, hjoin]
      simp only [Function.comp_def, String.append_assoc]

/-- The first namespace stays. -/
theorem namespaceName_buildAll : (p.buildAll builds).metadata.namespaceName =
    (p.metadata.namespaceName :: builds.map (·.1.metadata.namespaceName)).findSome? id := by
  induction builds using List.reverseRecOn with
  | nil =>
      change p.metadata.namespaceName = [p.metadata.namespaceName].findSome? id
      cases p.metadata.namespaceName <;> rfl
  | append_singleton builds b ih =>
      rw [buildAll_concat]
      change (p.buildAll builds).metadata.namespaceName.or b.1.metadata.namespaceName = _
      rw [ih, List.map_append, ← List.cons_append, List.findSome?_append]
      simp

/-- What the pod runs is as it was, but for the node. -/
theorem spec_buildAll_getD (node : Option String) :
    { (p.buildAll builds).spec.getD {} with nodeName := node } =
      { p.spec.getD {} with nodeName := node } := by
  induction builds using List.reverseRecOn with
  | nil => rfl
  | append_singleton builds b ih =>
      rw [buildAll_concat]
      exact ih

/-- The last node stays. -/
theorem spec_buildAll (b : DaemonSet × String) : (p.buildAll (builds ++ [b])).spec =
    some { p.spec.getD {} with nodeName := some b.2 } := by
  rw [buildAll_concat]
  exact congrArg some (p.spec_buildAll_getD builds (some b.2))

/-- An owner comes behind those there are, unless its uid is one of theirs. -/
theorem controlling_addTo (id : String × String) (owners : Option (List OwnerReference)) :
    (controlling id).addTo owners =
      owners.getD [] ++ if id.2 ∈ uids owners then [] else [controlling id] := by
  have hany : (owners.getD []).any (·.uid == (controlling id).uid) = true ↔ id.2 ∈ uids owners := by
    simp [uids, controlling]
  rw [OwnerReference.addTo]
  by_cases hid : id.2 ∈ uids owners
  · rw [if_pos (hany.mpr hid), if_pos hid, List.append_nil]
  · rw [if_neg (mt hany.mp hid), if_neg hid]

theorem ownerReferences_build (b : DaemonSet × String) :
    (p.build b.1 b.2).metadata.ownerReferences =
      (b.1.identity?.map fun id => (controlling id).addTo p.metadata.ownerReferences).or
        p.metadata.ownerReferences := by
  have hbuild : (p.build b.1 b.2).metadata.ownerReferences =
      (metadataOn p.metadata b.1 b.2).ownerReferences := rfl
  rw [hbuild, metadataOn, DaemonSet.owner?_eq]
  cases b.1.identity? <;> rfl

theorem identities_concat (b : DaemonSet × String) :
    identities (builds ++ [b]) = identities builds ++ b.1.identity?.toList := by
  rw [identities, List.filterMap_append, List.filterMap_cons]
  cases b.1.identity? <;> rfl

/-- Behind the owners there were come those that are new. -/
theorem ownerReferences_buildAll : (p.buildAll builds).metadata.ownerReferences.getD [] =
    p.metadata.ownerReferences.getD [] ++
      (newcomers (uids p.metadata.ownerReferences) (identities builds)).map controlling := by
  induction builds using List.reverseRecOn with
  | nil => exact (List.append_nil _).symm
  | append_singleton builds b ih =>
      have huids : ∀ uid, uid ∈ uids (p.buildAll builds).metadata.ownerReferences ↔
          uid ∈ uids p.metadata.ownerReferences ∨ uid ∈ (identities builds).map Prod.snd := by
        intro uid
        rw [← DaemonSet.known_or_newcomer_iff, uids, ih, List.map_append, List.mem_append,
          List.map_map]
        rfl
      rw [buildAll_concat, ownerReferences_build, identities_concat]
      cases b.1.identity? with
      | none =>
          rw [Option.toList_none, List.append_nil]
          exact ih
      | some id =>
          rw [Option.toList_some, DaemonSet.newcomers_concat, List.map_append, ← List.append_assoc,
            Option.map_some, Option.some_or, Option.getD_some, controlling_addTo, ih]
          by_cases hid : id.2 ∈ uids p.metadata.ownerReferences ∨
              id.2 ∈ (identities builds).map Prod.snd
          · rw [if_pos hid, if_pos ((huids id.2).mpr hid), List.map_nil]
          · rw [if_neg hid, if_neg (mt (huids id.2).mp hid), List.map_singleton]

/-- A list of owners is made for the first DaemonSet that has a name and a uid. -/
theorem ownerReferences_buildAll_eq_none_iff :
    (p.buildAll builds).metadata.ownerReferences = none ↔
      p.metadata.ownerReferences = none ∧ identities builds = [] := by
  induction builds using List.reverseRecOn with
  | nil => exact (and_iff_left rfl).symm
  | append_singleton builds b ih =>
      rw [buildAll_concat, ownerReferences_build, identities_concat]
      cases b.1.identity? with
      | none =>
          rw [Option.toList_none, List.append_nil]
          exact ih
      | some id => simp

theorem rest_buildAll : (p.buildAll builds).metadata.rest = p.metadata.rest ∧
    (p.buildAll builds).status = p.status := by
  induction builds using List.reverseRecOn with
  | nil => exact ⟨rfl, rfl⟩
  | append_singleton builds b ih =>
      rw [buildAll_concat]
      exact ih

/-- What has become of a pod `p` when it is `p'` after it was built for some DaemonSets and nodes, one
after the other. -/
structure Built (p : Pod) (builds : List (DaemonSet × String)) (p' : Pod) : Prop where
  name : p'.metadata.name =
    p.metadata.name.map fun name => name ++ String.join (builds.map fun b => "-" ++ b.2)
  /-- The namespace is the first there is, be it empty, among that of the pod and those of the
  DaemonSets. -/
  namespaceName : p'.metadata.namespaceName =
    (p.metadata.namespaceName :: builds.map (·.1.metadata.namespaceName)).findSome? id
  /-- The pod runs what it ran, or nothing in particular, on the last node. -/
  spec : ∀ d node, builds.getLast? = some (d, node) →
    p'.spec = some { p.spec.getD {} with nodeName := some node }
  /-- Behind the owners that were there, which stay as they were, stand in order the DaemonSets with a
  name and a uid that is not the uid of any of those owners or of an earlier such DaemonSet. -/
  owners : p'.metadata.ownerReferences.getD [] = p.metadata.ownerReferences.getD [] ++
    (newcomers (uids p.metadata.ownerReferences) (identities builds)).map controlling
  /-- There are no owners only where there were none, not even an empty list, and no DaemonSet has both
  a name and a uid. -/
  owners_absent_iff : p'.metadata.ownerReferences = none ↔ p.metadata.ownerReferences = none ∧
    ∀ b ∈ builds, b.1.metadata.name = none ∨ b.1.metadata.uid = none
  /-- A uid that was there comes up as often as before, and any other at most once. -/
  count_known : ∀ uid ∈ uids p.metadata.ownerReferences,
    (uids p'.metadata.ownerReferences).count uid = (uids p.metadata.ownerReferences).count uid
  count_new : ∀ uid ∉ uids p.metadata.ownerReferences,
    (uids p'.metadata.ownerReferences).count uid ≤ 1
  /-- The DaemonSets without a name or a uid are warned of, each once, and nothing else is logged. -/
  events : builds.flatMap (fun b => buildEvents b.1) =
    (builds.filter fun b => b.1.metadata.name.isNone || b.1.metadata.uid.isNone).map
      fun b => .ownerUnknown b.1.metadata.name
  warnings : ∀ e ∈ builds.flatMap (fun b => buildEvents b.1), e.level = .warning
  /-- The rest of the description and how the pod fares are as they were. -/
  rest : p'.metadata.rest = p.metadata.rest
  status : p'.status = p.status

theorem buildEvents_eq (d : DaemonSet) : buildEvents d =
    if d.metadata.name.isNone || d.metadata.uid.isNone then [.ownerUnknown d.metadata.name]
    else [] := by
  rw [buildEvents, DaemonSet.owner?_eq, DaemonSet.identity?]
  cases d.metadata.name <;> cases d.metadata.uid <;> rfl

theorem flatMap_buildEvents : builds.flatMap (fun b => buildEvents b.1) =
    (builds.filter fun b => b.1.metadata.name.isNone || b.1.metadata.uid.isNone).map
      fun b => .ownerUnknown b.1.metadata.name := by
  induction builds with
  | nil => rfl
  | cons b builds ih =>
      rw [List.flatMap_cons, ih, buildEvents_eq, List.filter_cons]
      split <;> rfl

theorem uids_buildAll : uids (p.buildAll builds).metadata.ownerReferences =
    uids p.metadata.ownerReferences ++
      (newcomers (uids p.metadata.ownerReferences) (identities builds)).map Prod.snd := by
  rw [uids, ownerReferences_buildAll, List.map_append, List.map_map]
  rfl

/-- A pod after it was built for any DaemonSets and nodes, one after the other. -/
theorem buildAll_built (p : Pod) (builds : List (DaemonSet × String)) :
    Built p builds (p.buildAll builds) where
  name := p.name_buildAll builds
  namespaceName := p.namespaceName_buildAll builds
  spec d node hlast := by
    obtain ⟨front, rfl⟩ := List.getLast?_eq_some_iff.mp hlast
    exact p.spec_buildAll front (d, node)
  owners := p.ownerReferences_buildAll builds
  owners_absent_iff := by
    rw [ownerReferences_buildAll_eq_none_iff, identities, List.filterMap_eq_nil_iff]
    simp only [DaemonSet.identity?_eq_none_iff]
  count_known uid huid := by
    have hnew := mt (DaemonSet.newcomers_unknown _ (identities builds) uid) (not_not_intro huid)
    rw [uids_buildAll, List.count_append, List.count_eq_zero.mpr hnew, Nat.add_zero]
  count_new uid huid := by
    rw [uids_buildAll, List.count_append, List.count_eq_zero.mpr huid, Nat.zero_add]
    exact List.nodup_iff_count_le_one.mp (DaemonSet.nodup_newcomers _ (identities builds)) uid
  events := flatMap_buildEvents builds
  warnings := by
    rw [flatMap_buildEvents]
    rintro e he
    obtain ⟨b, -, rfl⟩ := List.mem_map.mp he
    rfl
  rest := (p.rest_buildAll builds).1
  status := (p.rest_buildAll builds).2

end Pod

end DriverValidation
