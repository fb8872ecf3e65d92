import Mathlib

/-!
# Reassembly of multi-part group messages

`online_push.rs` holds two versions of `parse_group_message` (lines 28-70 and 72-114).
Both sort the parts by `pkg_index` with the stable `sort_by` and walk them in that order.
The first takes the scalar fields from the first part before its loop and collects each
element's inner `elem`; the second takes them in the loop's first iteration and collects
the raw elements, which `MessageChain::from` converts at the end. Both return `Ok`, which
the model leaves out.

* `parseGroupMessage_eq_assemble`, `parseGroupMessage'_eq_assemble`: each version is
  `assemble` of the sorted parts, so the two agree on every list.
* `reassembles_assemble_sort`: with distinct `pkg_index` values the sorted parts are the
  one strictly ascending arrangement of the input, so the result does not depend on the
  arrival order.
-/

namespace Ricq.Client

/-- `pb::msg::Elem`: a message element, whose inner element (`elem::Elem`, left abstract
as `E`) may be absent. -/
structure Elem (E : Type) where
  elem : Option E
  deriving DecidableEq, Repr

/-- `MessageChain`: the inner elements of a message, in order. -/
structure MessageChain (E : Type) where
  elems : List E
  deriving DecidableEq, Repr

/-- Modelled from the spec: `impl From<Vec<Elem>> for MessageChain` is outside `src/`. A
chain holds inner elements (the first version builds `MessageChain(elements)` from
`filter_map(|e| e.elem)`), so the conversion keeps the inner element of each element, in
order; the elements that the spec's note says the second version "does not filter out"
are the raw ones its loop collects before this conversion. -/
def MessageChain.ofElems {E : Type} (elems : List (Elem E)) : MessageChain E :=
  ⟨elems.filterMap (·.elem)⟩

/-- The fields of `GroupMessagePart` that `parse_group_message` reads. -/
structure GroupMessagePart (E : Type) where
  seq : Int
  rand : Int
  groupCode : Int
  fromUin : Int
  elems : List (Elem E)
  time : Int
  pkgIndex : Int
  groupName : String
  groupCard : String
  deriving DecidableEq, Repr

/-- `GroupMessage`. -/
structure GroupMessage (E : Type) where
  seqs : List Int
  rands : List Int
  groupCode : Int
  groupName : String
  groupCard : String
  fromUin : Int
  time : Int
  elements : MessageChain E
  deriving DecidableEq, Repr

variable {E : Type}

/-- `parts.sort_by(|a, b| a.pkg_index.cmp(&b.pkg_index))`: stable, by `pkg_index`. -/
def sortByPkgIndex (parts : List (GroupMessagePart E)) : List (GroupMessagePart E) :=
  parts.mergeSort fun a b => a.pkgIndex ≤ b.pkgIndex

/-! ## The first version -/

/-- One iteration of the first version's loop (lines 49-53). -/
def collectPart (acc : List Int × List Int × List E) (p : GroupMessagePart E) :
    List Int × List Int × List E :=
  (acc.1 ++ [p.seq], acc.2.1 ++ [p.rand], acc.2.2 ++ p.elems.filterMap (·.elem))

/-- `parse_group_message`, lines 28-70. The `std::mem::take` of the first part's name and
card empties fields that the loop does not read. -/
def parseGroupMessage (parts : List (GroupMessagePart E)) : GroupMessage E :=
  let parts := sortByPkgIndex parts
  let groupCode := (parts.head?.map (·.groupCode)).getD 0
  let groupName := (parts.head?.map (·.groupName)).getD ""
  let groupCard := (parts.head?.map (·.groupCard)).getD ""
  let fromUin := (parts.head?.map (·.fromUin)).getD 0
  let time := (parts.head?.map (·.time)).getD 0
  let acc := parts.foldl collectPart ([], [], [])
  { seqs := acc.1, rands := acc.2.1, groupCode := groupCode, groupName := groupName,
    groupCard := groupCard, fromUin := fromUin, time := time, elements := ⟨acc.2.2⟩ }

/-! ## The second version -/

/-- The loop variables of the second version (lines 79-87). -/
structure PartsAcc (E : Type) where
  isFirstPart : Bool
  seqs : List Int
  rands : List Int
  groupCode : Int
  groupName : String
  groupCard : String
  fromUin : Int
  time : Int
  elements : List (Elem E)

/-- Their initial values. -/
def PartsAcc.init : PartsAcc E := ⟨true, [], [], 0, "", "", 0, 0, []⟩

/-- One iteration of the second version's loop (lines 88-100). -/
def PartsAcc.step (acc : PartsAcc E) (p : GroupMessagePart E) : PartsAcc E :=
  let acc := if acc.isFirstPart then
      { acc with
        isFirstPart := false, groupCode := p.groupCode, groupName := p.groupName,
        groupCard := p.groupCard, fromUin := p.fromUin, time := p.time }
    else acc
  { acc with
    seqs := acc.seqs ++ [p.seq], rands := acc.rands ++ [p.rand],
    elements := acc.elements ++ p.elems }

/-- `parse_group_message`, lines 72-114. -/
def parseGroupMessage' (parts : List (GroupMessagePart E)) : GroupMessage E :=
  let acc := (sortByPkgIndex parts).foldl PartsAcc.step PartsAcc.init
  { seqs := acc.seqs, rands := acc.rands, groupCode := acc.groupCode,
    groupName := acc.groupName, groupCard := acc.groupCard, fromUin := acc.fromUin,
    time := acc.time, elements := MessageChain.ofElems acc.elements }

/-! ## Both versions assemble the sorted parts -/

/-- The message that parts already in order reassemble to: their `seq`s, `rand`s and
elements in that order, and the scalar fields of the first part (the defaults when there
is none). -/
def assemble (qs : List (GroupMessagePart E)) : GroupMessage E where
  seqs := qs.map (·.seq)
  rands := qs.map (·.rand)
  groupCode := (qs.head?.map (·.groupCode)).getD 0
  groupName := (qs.head?.map (·.groupName)).getD ""
  groupCard := (qs.head?.map (·.groupCard)).getD ""
  fromUin := (qs.head?.map (·.fromUin)).getD 0
  time := (qs.head?.map (·.time)).getD 0
  elements := MessageChain.ofElems (qs.flatMap (·.elems))

theorem foldl_collectPart (qs : List (GroupMessagePart E)) (acc : List Int × List Int × List E) :
    qs.foldl collectPart acc =
      (acc.1 ++ qs.map (·.seq), acc.2.1 ++ qs.map (·.rand),
        acc.2.2 ++ (qs.flatMap (·.elems)).filterMap (·.elem)) := by
  induction qs generalizing acc with
  | nil => simp
  | cons q qs ih => simp [ih, collectPart, List.filterMap_append]

/-- After the first part, the loop only appends. -/
theorem foldl_step_of_not_first (qs : List (GroupMessagePart E)) (acc : PartsAcc E)
    (h : acc.isFirstPart = false) :
    qs.foldl PartsAcc.step acc =
      { acc with
        seqs := acc.seqs ++ qs.map (·.seq), rands := acc.rands ++ qs.map (·.rand),
        elements := acc.elements ++ qs.flatMap (·.elems) } := by
  induction qs generalizing acc with
  | nil => simp
  | cons q qs ih =>
    rw [List.foldl_cons, ih _ (by simp [PartsAcc.step, h])]
    simp [PartsAcc.step, h]

theorem parseGroupMessage_eq_assemble (ps : List (GroupMessagePart E)) :
    parseGroupMessage ps = assemble (sortByPkgIndex ps) := by
  simp only [parseGroupMessage, foldl_collectPart, assemble, MessageChain.ofElems]
  rfl

theorem parseGroupMessage'_eq_assemble (ps : List (GroupMessagePart E)) :
    parseGroupMessage' ps = assemble (sortByPkgIndex ps) := by
  unfold parseGroupMessage'
  cases sortByPkgIndex ps with
  | nil => rfl
  | cons q qs =>
    rw [List.foldl_cons, foldl_step_of_not_first _ _ (by rfl)]
    rfl

/-- The two versions agree on every list of parts. -/
theorem parseGroupMessage'_eq_parseGroupMessage (ps : List (GroupMessagePart E)) :
    parseGroupMessage' ps = parseGroupMessage ps := by
  rw [parseGroupMessage_eq_assemble, parseGroupMessage'_eq_assemble]

/-! ## Distinct indices: the arrival order does not matter -/

/-- Strictly ascending `pkg_index`. -/
def PkgAscending (qs : List (GroupMessagePart E)) : Prop :=
  qs.Pairwise fun a b => a.pkgIndex < b.pkgIndex

/-- `m` reassembles the parts `ps`: its `seq`s, `rand`s and element chain follow the parts
in ascending `pkg_index` order, and its scalar fields are those of the part with the least
`pkg_index`. -/
def Reassembles (ps : List (GroupMessagePart E)) (m : GroupMessage E) : Prop :=
  (∀ qs, qs.Perm ps → PkgAscending qs →
    m.seqs = qs.map (·.seq) ∧ m.rands = qs.map (·.rand) ∧
      m.elements = MessageChain.ofElems (qs.flatMap (·.elems))) ∧
  ∀ p ∈ ps, (∀ q ∈ ps, p.pkgIndex ≤ q.pkgIndex) →
    m.groupCode = p.groupCode ∧ m.groupName = p.groupName ∧ m.groupCard = p.groupCard ∧
      m.fromUin = p.fromUin ∧ m.time = p.time

theorem pkgAscending_sortByPkgIndex {ps : List (GroupMessagePart E)}
    (hd : (ps.map (·.pkgIndex)).Nodup) : PkgAscending (sortByPkgIndex ps) := by
  have hle : (sortByPkgIndex ps).Pairwise fun a b => a.pkgIndex ≤ b.pkgIndex := by
    simpa using @List.sorted_mergeSort _ (fun a b : GroupMessagePart E => a.pkgIndex ≤ b.pkgIndex)
      (fun a b c hab hbc => by simp only [decide_eq_true_eq] at *; omega)
      (fun a b => by simpa using le_total a.pkgIndex b.pkgIndex) ps
  have hne : (sortByPkgIndex ps).Pairwise fun a b => a.pkgIndex ≠ b.pkgIndex :=
    List.pairwise_map.mp (((List.mergeSort_perm ps _).map _).nodup_iff.mpr hd)
  exact (hle.and hne).imp fun h => lt_of_le_of_ne h.1 h.2

/-- A strictly ascending arrangement of the parts is what the sort returns. -/
theorem sortByPkgIndex_eq {ps qs : List (GroupMessagePart E)} (hperm : qs.Perm ps)
    (hasc : PkgAscending qs) : sortByPkgIndex ps = qs := by
  haveI : IsAntisymm (GroupMessagePart E) fun a b => a.pkgIndex < b.pkgIndex :=
    ⟨fun _ _ h1 h2 => absurd (h1.trans h2) (lt_irrefl _)⟩
  have hd : (ps.map (·.pkgIndex)).Nodup :=
    (hperm.map _).nodup_iff.mp (List.pairwise_map.mpr (hasc.imp ne_of_lt))
  exact List.eq_of_perm_of_sorted ((List.mergeSort_perm ps _).trans hperm.symm)
    (pkgAscending_sortByPkgIndex hd) hasc

/-- The part with the least `pkg_index` comes first in a strictly ascending arrangement. -/
theorem head_of_least {ps qs : List (GroupMessagePart E)} (hperm : qs.Perm ps)
    (hasc : PkgAscending qs) {p : GroupMessagePart E} (hp : p ∈ ps)
    (hmin : ∀ q ∈ ps, p.pkgIndex ≤ q.pkgIndex) : qs.head? = some p := by
  cases qs with
  | nil => exact absurd (hperm.symm.subset hp) (List.not_mem_nil p)
  | cons h t =>
    rcases List.mem_cons.mp (hperm.symm.subset hp) with rfl | ht
    · rfl
    · have hlt := List.rel_of_pairwise_cons hasc ht
      have hle := hmin h (hperm.subset (List.mem_cons_self h t))
      omega

theorem reassembles_assemble_sort {ps : List (GroupMessagePart E)}
    (hd : (ps.map (·.pkgIndex)).Nodup) : Reassembles ps (assemble (sortByPkgIndex ps)) := by
  refine ⟨fun qs hperm hasc => ?_, fun p hp hmin => ?_⟩
  · rw [sortByPkgIndex_eq hperm hasc]
    exact ⟨rfl, rfl, rfl⟩
  · have hhead := head_of_least (List.mergeSort_perm ps _) (pkgAscending_sortByPkgIndex hd) hp hmin
    simp only [assemble, sortByPkgIndex] at hhead ⊢
    simp [hhead]

theorem sortByPkgIndex_perm {ps ps' : List (GroupMessagePart E)}
    (hd : (ps.map (·.pkgIndex)).Nodup) (h : ps'.Perm ps) :
    sortByPkgIndex ps' = sortByPkgIndex ps :=
  sortByPkgIndex_eq ((List.mergeSort_perm ps _).trans h.symm) (pkgAscending_sortByPkgIndex hd)

/-- With pairwise distinct `pkg_index` values, each version reassembles the parts in
ascending `pkg_index` order, and so returns the same message for every arrival order. -/
theorem parseGroupMessage_reassembles (ps : List (GroupMessagePart E))
    (hd : (ps.map (·.pkgIndex)).Nodup) :
    Reassembles ps (parseGroupMessage ps) ∧ Reassembles ps (parseGroupMessage' ps) ∧
      ∀ ps', ps'.Perm ps → parseGroupMessage ps' = parseGroupMessage ps ∧
        parseGroupMessage' ps' = parseGroupMessage' ps := by
  simp only [parseGroupMessage_eq_assemble, parseGroupMessage'_eq_assemble]
  exact ⟨reassembles_assemble_sort hd, reassembles_assemble_sort hd,
    fun ps' h => by rw [sortByPkgIndex_perm hd h]; exact ⟨rfl, rfl⟩⟩

theorem parseGroupMessage_reassembles_three :
    let mk (i : Int) (c : Char) : GroupMessagePart Char := ⟨i, i, 7, 9, [⟨some c⟩], 1, i, "g", ""⟩
    let ps := [mk 2 'c', mk 0 'a', mk 1 'b']
    (ps.map (·.pkgIndex)).Nodup ∧
      Reassembles ps (parseGroupMessage ps) ∧ Reassembles ps (parseGroupMessage' ps) ∧
        ∀ ps', ps'.Perm ps → parseGroupMessage ps' = parseGroupMessage ps ∧
          parseGroupMessage' ps' = parseGroupMessage' ps :=
  ⟨by decide, parseGroupMessage_reassembles _ (by decide)⟩

end Ricq.Client
