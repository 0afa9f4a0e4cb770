import Mathlib
import ParticleShaders.Proofs.Compilation
import ParticleShaders.Proofs.Packing

namespace ParticleShaders

section Places

variable {α : Type} [DecidableEq α]

theorem pairwise_idxOf {xs : List α} (distinct : xs.Nodup) :
    xs.Pairwise (xs.idxOf · < xs.idxOf ·) := by
  refine List.pairwise_iff_getElem.2 fun i j hi hj before => ?_
  rwa [distinct.idxOf_getElem, distinct.idxOf_getElem]

theorem idxOf_lt_of_filter {test : α → Bool} {xs : List α} {x y : α} (hx : test x) (hy : test y)
    (h : (xs.filter test).idxOf x < (xs.filter test).idxOf y) : xs.idxOf x < xs.idxOf y := by
  induction xs with
  | nil => exact h
  | cons z rest ih =>
    by_cases first : z = x
    · subst first
      by_cases same : z = y
      · subst same
        exact absurd h (Nat.lt_irrefl _)
      · rw [List.idxOf_cons_self, List.idxOf_cons_ne _ same]
        exact Nat.succ_pos _
    · by_cases second : z = y
      · subst second
        rw [List.filter_cons_of_pos hy, List.idxOf_cons_self] at h
        exact absurd h (Nat.not_lt_zero _)
      · rw [List.idxOf_cons_ne _ first, List.idxOf_cons_ne _ second]
        refine Nat.succ_lt_succ (ih ?_)
        by_cases kept : test z
        · rw [List.filter_cons_of_pos kept, List.idxOf_cons_ne _ first,
            List.idxOf_cons_ne _ second] at h
          exact Nat.lt_of_succ_lt_succ h
        · rwa [List.filter_cons_of_neg kept] at h

theorem pairwise_eraseDups : ∀ xs : List α, xs.eraseDups.Pairwise (xs.idxOf · < xs.idxOf ·)
  | [] => .nil
  | x :: xs => by
    have shorter := List.length_filter_le (fun y => !y == x) xs
    have other : ∀ y ∈ (xs.filter fun y => !y == x).eraseDups, x ≠ y ∧ !y == x := by
      intro y mem
      have kept := (List.mem_filter.1 (List.mem_eraseDups.1 mem)).2
      refine ⟨?_, kept⟩
      rintro rfl
      simp at kept
    rw [List.eraseDups_cons, List.pairwise_cons]
    constructor
    · intro y mem
      rw [List.idxOf_cons_self, List.idxOf_cons_ne _ (other y mem).1]
      exact Nat.succ_pos _
    · refine (pairwise_eraseDups (xs.filter fun y => !y == x)).imp_of_mem ?_
      intro y z hy hz before
      rw [List.idxOf_cons_ne _ (other y hy).1, List.idxOf_cons_ne _ (other z hz).1]
      exact Nat.succ_lt_succ
        (@idxOf_lt_of_filter α _ (fun y => !y == x) xs y z (other y hy).2 (other z hz).2 before)
termination_by xs => xs.length

end Places

namespace UsageTable

variable {t : UsageTable} {limit : Nat} {buffers : List Buffer} {a c : Attribute} {u : Usage}
  {b : Buffer}

def masks (t : UsageTable) : List Usage := t.entries.map (·.2)

/-- Larger attributes come first, and of equally large ones the one that the table has first. -/
def Precedes (t : UsageTable) (a c : Attribute) : Prop :=
  c.components < a.components ∨
    c.components = a.components ∧ t.attributes.idxOf a < t.attributes.idxOf c

structure Grouping (t : UsageTable) (buffers : List Buffer) : Prop where
  index : ∀ (n : Nat) (b : Buffer), buffers[n]? = some b → b.index = n
  usage : ∀ u, u ∈ buffers.map (·.usage) ↔ u ∈ t.masks
  order : (buffers.map (·.usage)).Pairwise (t.masks.idxOf · < t.masks.idxOf ·)
  members : ∀ b ∈ buffers, ∀ a, a ∈ b.attributes ↔ t.find? a = some b.usage
  sorted : ∀ b ∈ buffers, b.attributes.Pairwise t.Precedes

theorem find?_eq_some_iff : t.find? a = some u ↔ (a, u) ∈ t.entries :=
  lookup_eq_some_iff_mem t.distinct

theorem Precedes.asymm (h : t.Precedes a c) : ¬ t.Precedes c a := by
  unfold Precedes at *
  omega

theorem sorted_mergeSort (found : List Attribute) :
    let sorted := found.mergeSort fun a b => b.components ≤ a.components
    sorted.Pairwise (fun a c => c.components ≤ a.components) ∧
      ∀ n, sorted.filter (·.components = n) = found.filter (·.components = n) := by
  have trans : ∀ a b c : Attribute, decide (b.components ≤ a.components) →
      decide (c.components ≤ b.components) → decide (c.components ≤ a.components) := by
    intro a b c
    simp only [decide_eq_true_eq]
    omega
  have total : ∀ a b : Attribute, decide (b.components ≤ a.components)
      || decide (a.components ≤ b.components) := by
    intro a b
    simp only [Bool.or_eq_true, decide_eq_true_eq]
    omega
  intro sorted
  refine ⟨(List.pairwise_mergeSort trans total found).imp fun large => by simpa using large, ?_⟩
  intro n
  let alike (a : Attribute) : Bool := a.components = n
  have tied : (found.filter alike).Pairwise fun a b => decide (b.components ≤ a.components) := by
    refine List.pairwise_of_forall_mem_list fun a ha b hb => ?_
    have ha : a.components = n := by simpa [alike] using (List.mem_filter.1 ha).2
    have hb : b.components = n := by simpa [alike] using (List.mem_filter.1 hb).2
    simp [ha, hb]
  -- A sorted part of what is sorted stays as it is, and there is nothing else of that size.
  have kept : (found.filter alike).Sublist sorted :=
    List.sublist_mergeSort trans total tied List.filter_sublist
  have within : (found.filter alike).Sublist (sorted.filter alike) := by
    have within := kept.filter alike
    rwa [List.filter_filter, show (fun a => alike a && alike a) = alike by simp] at within
  have same : (sorted.filter alike).length = (found.filter alike).length :=
    ((List.mergeSort_perm found _).filter alike).length_eq
  exact (within.eq_of_length same.symm).symm

theorem pairwise_members (t : UsageTable) (u : Usage) : (t.members u).Pairwise t.Precedes := by
  let found := (t.entries.filter (·.2 = u)).map (·.1)
  obtain ⟨large, kept⟩ := sorted_mergeSort found
  have listed : found.Pairwise (t.attributes.idxOf · < t.attributes.idxOf ·) :=
    (pairwise_idxOf t.distinct).sublist (List.filter_sublist.map _)
  refine List.pairwise_iff_forall_sublist.2 fun {a c} ordered => ?_
  rcases (List.pairwise_iff_forall_sublist.1 large ordered).lt_or_eq with smaller | alike
  · exact .inl smaller
  · refine .inr ⟨alike, ?_⟩
    have tied := ordered.filter (·.components = a.components)
    rw [List.filter_cons_of_pos (by simp), List.filter_cons_of_pos (by simp [alike]),
      List.filter_nil] at tied
    have tied : [a, c].Sublist (found.filter (·.components = a.components)) :=
      kept a.components ▸ tied
    exact List.pairwise_iff_forall_sublist.1 listed (tied.trans List.filter_sublist)

theorem map_usage_pack (h : t.pack limit = .ok buffers) : buffers.map (·.usage) = t.usages := by
  rw [pack_eq_ok h, List.mapIdx_eq_zipIdx_map, List.map_map]
  exact List.zipIdx_map_fst 0 t.usages

theorem card_masks (t : UsageTable) : t.masks.toFinset.card = t.usages.length := by
  rw [usages, ← List.toFinset_card_of_nodup (nodup_eraseDups _)]
  congr 1
  ext u
  simp [masks]

theorem grouping_of_pack (h : t.pack limit = .ok buffers) : t.Grouping buffers := by
  constructor
  case index => exact fun n b found => ((getElem?_pack h).1 found).2.1
  case usage =>
    intro u
    rw [map_usage_pack h]
    exact List.mem_eraseDups
  case order =>
    rw [map_usage_pack h]
    exact pairwise_eraseDups t.masks
  case members => exact fun b hb a => (mem_attributes_buffer h hb).trans find?_eq_some_iff.symm
  case sorted =>
    intro b hb
    rw [((getElem?_pack h).1 (getElem?_index h hb)).2.2]
    exact t.pairwise_members b.usage

namespace Grouping

variable {others : List Buffer} (g : t.Grouping buffers)

include g

theorem nodup_usages : (buffers.map (·.usage)).Nodup :=
  g.order.imp fun before same => Nat.ne_of_lt before (congrArg t.masks.idxOf same)

theorem nodup_attributes (hb : b ∈ buffers) : b.attributes.Nodup := by
  refine (g.sorted b hb).imp ?_
  rintro a _ before rfl
  exact before.asymm before

theorem length_eq : buffers.length = t.masks.toFinset.card := by
  rw [← List.length_map (·.usage), ← List.toFinset_card_of_nodup g.nodup_usages]
  congr 1
  ext u
  rw [List.mem_toFinset, List.mem_toFinset, g.usage]

theorem unique (g' : t.Grouping others) : buffers = others := by
  have usages : buffers.map (·.usage) = others.map (·.usage) := by
    refine List.Perm.eq_of_pairwise ?_ g.order g'.order ?_
    · exact fun u v _ _ before after => absurd before (Nat.lt_asymm after)
    · refine (List.perm_ext_iff_of_nodup g.nodup_usages g'.nodup_usages).2 fun u => ?_
      rw [g.usage, g'.usage]
  have lengths : buffers.length = others.length := by
    simpa using congrArg List.length usages
  refine List.ext_getElem lengths fun n hn hn' => ?_
  have hb := List.getElem_mem hn
  have hc := List.getElem_mem hn'
  have usage : buffers[n].usage = others[n].usage := by
    have same := congrArg (·[n]?) usages
    simpa [hn, hn'] using same
  have index : buffers[n].index = others[n].index := by
    rw [g.index n _ (List.getElem?_eq_getElem hn), g'.index n _ (List.getElem?_eq_getElem hn')]
  have attributes : buffers[n].attributes = others[n].attributes := by
    refine List.Perm.eq_of_pairwise ?_ (g.sorted _ hb) (g'.sorted _ hc) ?_
    · exact fun a c _ _ before after => absurd before after.asymm
    · refine (List.perm_ext_iff_of_nodup (g.nodup_attributes hb) (g'.nodup_attributes hc)).2
        fun a => ?_
      rw [g.members _ hb, g'.members _ hc, usage]
  cases h : buffers[n]
  cases h' : others[n]
  simp_all

theorem perm : (buffers.flatMap (·.attributes)).Perm t.attributes := by
  have apart : buffers.Pairwise (Function.onFun List.Disjoint (·.attributes)) := by
    refine (List.pairwise_map.1 g.nodup_usages).imp_of_mem fun hb hc other a ha hc' => ?_
    exact other (Option.some.inj (((g.members _ hb a).1 ha).symm.trans ((g.members _ hc a).1 hc')))
  have distinct : (buffers.flatMap (·.attributes)).Nodup :=
    List.nodup_flatMap.2 ⟨fun b hb => g.nodup_attributes hb, apart⟩
  refine (List.perm_ext_iff_of_nodup distinct t.distinct).2 fun a => ?_
  rw [List.mem_flatMap]
  constructor
  · rintro ⟨b, hb, ha⟩
    exact List.mem_map.2 ⟨_, find?_eq_some_iff.1 ((g.members b hb a).1 ha), rfl⟩
  · intro ha
    obtain ⟨⟨a, u⟩, mem, rfl⟩ := List.mem_map.1 ha
    obtain ⟨b, hb, rfl⟩ := List.mem_map.1 ((g.usage u).2 (List.mem_map.2 ⟨_, mem, rfl⟩))
    exact ⟨b, hb, (g.members b hb a).2 (find?_eq_some_iff.2 mem)⟩

end Grouping

/-- A table is packed into the buffers that group it, unless it has more usages than there may be
buffers. -/
theorem pack_groups (t : UsageTable) (limit : Nat) :
    (∀ e, t.pack limit = .error e ↔ limit < t.masks.toFinset.card ∧
        e = .tooManyBuffers t.masks.toFinset.card limit) ∧
    (∀ buffers, t.pack limit = .ok buffers ↔ t.masks.toFinset.card ≤ limit ∧
        t.Grouping buffers) ∧
    ∀ buffers, t.Grouping buffers → buffers.length = t.masks.toFinset.card ∧
      (buffers.flatMap (·.attributes)).Perm t.attributes := by
  have packed (h : t.masks.toFinset.card ≤ limit) : ∃ buffers, t.pack limit = .ok buffers :=
    exists_pack_eq_ok_iff.2 (t.card_masks ▸ h)
  refine ⟨fun e => ?_, fun buffers => ?_, fun buffers g => ⟨g.length_eq, g.perm⟩⟩
  · rw [card_masks]
    unfold pack
    split
    · next few => simp [few, eq_comm]
    · next enough => simp [enough]
  · constructor
    · intro h
      rw [card_masks]
      exact ⟨exists_pack_eq_ok_iff.1 ⟨buffers, h⟩, grouping_of_pack h⟩
    · rintro ⟨enough, g⟩
      obtain ⟨others, h⟩ := packed enough
      rw [h, g.unique (grouping_of_pack h)]

def flight : UsageTable := UsageTable.addAll ∅
  [(.age, .init ∪ .update), (.color, .init), (.alpha, .init ∪ .update),
    (.position, .init ∪ .update), (.angle, .init)]

theorem flight_groups : ∃ buffers, flight.pack 2 = .ok buffers ∧ flight.Grouping buffers ∧
    buffers.map (·.attributes) = [[.position, .age, .alpha], [.color, .angle]] ∧
    buffers.length = flight.masks.toFinset.card ∧
    (buffers.flatMap (·.attributes)).Perm flight.attributes := by
  have packed : (flight.pack 2).toOption.map (·.map (·.attributes))
      = some [[.position, .age, .alpha], [.color, .angle]] := by
    cbv
  obtain ⟨buffers, h, attributes⟩ := exists_of_toOption packed
  obtain ⟨-, groups, grouped⟩ := pack_groups flight 2
  obtain ⟨-, g⟩ := (groups buffers).1 h
  exact ⟨buffers, h, g, attributes, grouped buffers g⟩

end UsageTable

end ParticleShaders
