import Mathlib.Data.List.Induction
import Mathlib.Data.List.Nodup
import QueryReport.Text.Seen

/-!
# `QueryReport.Proofs.Text.Seen`: texts collected on a walk through a tree

Some texts of a tree are collected where they are first met.  `Walk` says which texts are met and in
which order: a node shows its own text, then what is below it is walked through, then the nodes
beside it.  `FirstSeen` says what is left of the texts that were met: each of them once, in the order
of their first places.

* `exists_walk` and `Walk.unique`: there is one walk through a tree.
* `Walk.foldl_collect`: a function that hands the texts met so far from node to node is a walk.
* `firstSeen_foldl`: such a function leaves every text at its first place.
* `exists_walk_firstSeen` puts them together.
-/

set_option autoImplicit false

namespace QueryReport.Text

/-! ## Walks -/

section Walk

variable {ν : Type} {below : ν → List ν} {shown : ν → Option String}
variable {agenda : List ν} {visits : List String}

/-- The texts that are met on a walk through the nodes of an agenda and all that is below them. -/
inductive Walk (below : ν → List ν) (shown : ν → Option String) : List ν → List String → Prop where
  | done : Walk below shown [] []
  | step {n : ν} {agenda : List ν} {visits : List String}
      (h : Walk below shown (below n ++ agenda) visits) :
      Walk below shown (n :: agenda) ((shown n).toList ++ visits)

theorem Walk.unique {other : List String} (h : Walk below shown agenda visits)
    (hother : Walk below shown agenda other) : other = visits := by
  induction h generalizing other with
  | done =>
      cases hother
      rfl
  | step _ ih =>
      cases hother with
      | step hother => rw [ih hother]

/-- A walk goes on through nodes each of which it gets through. -/
theorem exists_walk_append {ns : List ν}
    (hns : ∀ n ∈ ns, ∀ agenda, (∃ visits, Walk below shown agenda visits) →
      ∃ visits, Walk below shown (n :: agenda) visits)
    (hagenda : ∃ visits, Walk below shown agenda visits) :
    ∃ visits, Walk below shown (ns ++ agenda) visits := by
  induction ns with
  | nil => exact hagenda
  | cons n ns ih =>
      rw [List.forall_mem_cons] at hns
      exact hns.1 _ (ih hns.2)

/-- Where nodes get smaller on the way down, a walk gets through each of them. -/
theorem exists_walk_cons (size : ν → Nat) (hsize : ∀ n, ∀ m ∈ below n, size m < size n) (n : ν)
    (hagenda : ∃ visits, Walk below shown agenda visits) :
    ∃ visits, Walk below shown (n :: agenda) visits := by
  induction hk : size n using Nat.strongRecOn generalizing n agenda with
  | ind k ih =>
  have hbelow : ∀ m ∈ below n, ∀ agenda, (∃ visits, Walk below shown agenda visits) →
      ∃ visits, Walk below shown (m :: agenda) visits :=
    fun m hm _ hagenda => ih (size m) (hk ▸ hsize n m hm) m hagenda rfl
  obtain ⟨visits, hwalk⟩ := exists_walk_append hbelow hagenda
  exact ⟨_, .step hwalk⟩

theorem exists_walk (size : ν → Nat) (hsize : ∀ n, ∀ m ∈ below n, size m < size n)
    (agenda : List ν) : ∃ visits, Walk below shown agenda visits := by
  induction agenda with
  | nil => exact ⟨[], .done⟩
  | cons n agenda ih => exact exists_walk_cons size hsize n ih

/-- A function that adds the text of a node and then goes on with what is below it meets the texts
in the order of the walk. -/
theorem Walk.foldl_collect {collect : ν → List String → List String}
    (hcollect : ∀ n seen, collect n seen
      = (below n).foldl (fun seen m => collect m seen) ((shown n).toList.foldl addUnseen seen))
    (h : Walk below shown agenda visits) (seen : List String) :
    agenda.foldl (fun seen n => collect n seen) seen = visits.foldl addUnseen seen := by
  induction h generalizing seen with
  | done => rfl
  | step _ ih => rw [List.foldl_cons, hcollect, ← List.foldl_append, ih, ← List.foldl_append]

end Walk

/-! ## First places -/

/-- The texts are those that were met, each once, in the order of their first places. -/
structure FirstSeen (visits texts : List String) : Prop where
  nodup : texts.Nodup
  mem_iff : ∀ text, text ∈ texts ↔ text ∈ visits
  ordered : texts.Pairwise fun a b => visits.idxOf a < visits.idxOf b

theorem firstSeen_addUnseen {visits texts : List String} (h : FirstSeen visits texts)
    (text : String) : FirstSeen (visits ++ [text]) (addUnseen texts text) := by
  -- A text that was met before has its first place where it had it.
  have hidx : ∀ t ∈ texts, (visits ++ [text]).idxOf t = visits.idxOf t :=
    fun t ht => List.idxOf_append_of_mem ((h.mem_iff t).mp ht)
  have hordered : texts.Pairwise fun a b =>
      (visits ++ [text]).idxOf a < (visits ++ [text]).idxOf b := by
    refine h.ordered.imp_of_mem fun ha hb hlt => ?_
    rw [hidx _ ha, hidx _ hb]
    exact hlt
  unfold addUnseen
  by_cases hmet : text ∈ texts
  · rw [if_pos (by simpa using hmet)]
    refine ⟨h.nodup, fun t => ?_, hordered⟩
    rw [List.mem_append, List.mem_singleton, ← h.mem_iff]
    exact ⟨.inl, fun ht => ht.elim id fun heq => heq ▸ hmet⟩
  · rw [if_neg (by simpa using hmet)]
    refine ⟨List.nodup_append_comm.mp ?_, fun t => ?_, ?_⟩
    · exact List.nodup_cons.mpr ⟨hmet, h.nodup⟩
    · rw [List.mem_append, List.mem_append, h.mem_iff]
    · rw [List.pairwise_append]
      refine ⟨hordered, List.pairwise_singleton _ _, ?_⟩
      rintro a ha b hb
      rw [List.mem_singleton.mp hb, hidx a ha]
      have hlast : visits.length ≤ (visits ++ [text]).idxOf text := by
        rw [List.idxOf_append_of_notMem (fun hmem => hmet ((h.mem_iff text).mpr hmem))]
        exact Nat.le_add_right _ _
      exact Nat.lt_of_lt_of_le (List.idxOf_lt_length_of_mem ((h.mem_iff a).mp ha)) hlast

theorem firstSeen_foldl (visits : List String) : FirstSeen visits (visits.foldl addUnseen []) := by
  induction visits using List.reverseRecOn with
  | nil => exact ⟨List.nodup_nil, fun _ => Iff.rfl, List.Pairwise.nil⟩
  | append_singleton visits text ih =>
      rw [List.foldl_append]
      exact firstSeen_addUnseen ih text

/-- What is collected from an agenda are the texts of its walk, each at its first place. -/
theorem exists_walk_firstSeen {ν : Type} {below : ν → List ν} {shown : ν → Option String}
    {collect : ν → List String → List String} (size : ν → Nat)
    (hsize : ∀ n, ∀ m ∈ below n, size m < size n)
    (hcollect : ∀ n seen, collect n seen
      = (below n).foldl (fun seen m => collect m seen) ((shown n).toList.foldl addUnseen seen))
    (agenda : List ν) :
    ∃ visits, (∀ other, Walk below shown agenda other ↔ other = visits)
      ∧ FirstSeen visits (agenda.foldl (fun seen n => collect n seen) []) := by
  obtain ⟨visits, hwalk⟩ : ∃ visits, Walk below shown agenda visits :=
    exists_walk size hsize agenda
  refine ⟨visits, fun other => ⟨hwalk.unique, fun heq => heq ▸ hwalk⟩, ?_⟩
  rw [hwalk.foldl_collect hcollect]
  exact firstSeen_foldl visits

end QueryReport.Text
