import Mathlib.Data.List.SplitBy

/-!
# Tagged values in fragments

A value that is too long for one record travels as several records under one
tag, and the reader joins neighbours that carry the same tag.  This file has
the two halves, over arbitrary tags and elements: `fragments` cuts a value into
pieces of a bounded length, `push` is the accumulator of a reader that joins.

* `mergeRuns` is what joining means: each maximal run of equal tags becomes one
  item.  The accumulator computes it (`foldl_push`).
* Cutting is invisible to the accumulator (`foldl_push_fragments`).
* What the accumulator produces has no neighbours left to join
  (`isApart_foldl_push`), and such a list is its own merge (`mergeRuns_eq_self`).
-/

universe u v

/-- A value under a tag. -/
structure Tagged (κ : Type u) (β : Type v) where
  tag : κ
  value : List β
deriving DecidableEq, Repr

namespace Tagged

variable {κ : Type u} {β : Type v}

/-! ## Cutting -/

/-- Consecutive pieces of `size` elements, the last one possibly shorter. -/
def chunks (size : Nat) (l : List β) : List (List β) :=
  if l.length = 0 ∨ size = 0 then
    []
  else
    l.take size :: chunks size (l.drop size)
termination_by l.length
decreasing_by
  rw [List.length_drop]
  omega

@[simp] theorem chunks_nil (size : Nat) : chunks size ([] : List β) = [] := by
  rw [chunks, if_pos (Or.inl List.length_nil)]

theorem chunks_of_ne_nil {size : Nat} {l : List β} (hsize : 0 < size) (h : l ≠ []) :
    chunks size l = l.take size :: chunks size (l.drop size) := by
  have hlen : l.length ≠ 0 := fun h0 => h (List.eq_nil_of_length_eq_zero h0)
  rw [chunks, if_neg (by omega)]

theorem flatten_chunks {size : Nat} (hsize : 0 < size) (l : List β) :
    (chunks size l).flatten = l := by
  induction hn : l.length using Nat.strongRecOn generalizing l with
  | ind n ih =>
    by_cases h : l = []
    · rw [h, chunks_nil, List.flatten_nil]
    · have hlen : 0 < l.length := List.length_pos_iff.mpr h
      have hdrop : (l.drop size).length < n := by
        rw [List.length_drop]
        omega
      rw [chunks_of_ne_nil hsize h, List.flatten_cons, ih _ hdrop _ rfl,
        List.take_append_drop]

theorem length_le_of_mem_chunks {size : Nat} {l c : List β} (h : c ∈ chunks size l) :
    c.length ≤ size := by
  induction hn : l.length using Nat.strongRecOn generalizing l with
  | ind n ih =>
    rw [chunks] at h
    by_cases hstop : l.length = 0 ∨ size = 0
    · rw [if_pos hstop] at h
      cases h
    · rw [if_neg hstop, List.mem_cons] at h
      rcases h with rfl | hmem
      · exact List.length_take_le size l
      · exact ih (l.drop size).length (by rw [List.length_drop]; omega) hmem rfl

/-- The pieces an item travels as.  An empty value still travels, as one empty
piece. -/
def fragments (size : Nat) (item : Tagged κ β) : List (Tagged κ β) :=
  if item.value = [] then [item] else (chunks size item.value).map (⟨item.tag, ·⟩)

theorem length_le_of_mem_fragments {size : Nat} {item piece : Tagged κ β}
    (h : piece ∈ fragments size item) : piece.value.length ≤ size := by
  rw [fragments] at h
  by_cases hvalue : item.value = []
  · rw [if_pos hvalue, List.mem_singleton] at h
    rw [h, hvalue]
    exact Nat.zero_le size
  · rw [if_neg hvalue] at h
    obtain ⟨c, hc, rfl⟩ := List.mem_map.mp h
    exact length_le_of_mem_chunks hc

/-! ## Joining -/

variable [DecidableEq κ]

/-- Add an item behind the others, or to the last one if the tags agree. -/
def push (items : List (Tagged κ β)) (item : Tagged κ β) : List (Tagged κ β) :=
  match items.getLast? with
  | some last =>
      if last.tag = item.tag then
        items.dropLast ++ [⟨last.tag, last.value ++ item.value⟩]
      else
        items ++ [item]
  | none => items ++ [item]

@[simp] theorem push_nil (item : Tagged κ β) : push [] item = [item] :=
  rfl

theorem push_concat (items : List (Tagged κ β)) (last item : Tagged κ β) :
    push (items ++ [last]) item =
      if last.tag = item.tag then
        items ++ [⟨last.tag, last.value ++ item.value⟩]
      else
        items ++ [last] ++ [item] := by
  simp only [push, List.getLast?_concat, List.dropLast_concat]

/-- Two pieces under one tag are added as one. -/
theorem push_push (items : List (Tagged κ β)) (t : κ) (v w : List β) :
    push (push items ⟨t, v⟩) ⟨t, w⟩ = push items ⟨t, v ++ w⟩ := by
  rcases items.eq_nil_or_concat' with rfl | ⟨front, last, rfl⟩
  · show push ([] ++ [_]) _ = _
    rw [push_concat, if_pos rfl, push_nil, List.nil_append]
  · simp only [push_concat]
    by_cases h : last.tag = t
    · rw [if_pos h, if_pos h, push_concat, if_pos h, List.append_assoc]
    · rw [if_neg h, if_neg h, push_concat, if_pos rfl]

theorem foldl_push_pieces (items : List (Tagged κ β)) (t : κ) (v : List β)
    (pieces : List (List β)) :
    (pieces.map (⟨t, ·⟩)).foldl push (push items ⟨t, v⟩) =
      push items ⟨t, v ++ pieces.flatten⟩ := by
  induction pieces generalizing v with
  | nil =>
    rw [List.map_nil, List.foldl_nil, List.flatten_nil, List.append_nil]
  | cons piece rest ih =>
    rw [List.map_cons, List.foldl_cons, push_push, ih, List.flatten_cons,
      List.append_assoc]

/-- **Cutting is invisible.**  The pieces of an item add up to the item. -/
theorem foldl_push_fragments {size : Nat} (hsize : 0 < size)
    (items : List (Tagged κ β)) (item : Tagged κ β) :
    (fragments size item).foldl push items = push items item := by
  by_cases h : item.value = []
  · rw [fragments, if_pos h, List.foldl_cons, List.foldl_nil]
  · have hflat := flatten_chunks hsize item.value
    rw [chunks_of_ne_nil hsize h, List.flatten_cons] at hflat
    rw [fragments, if_neg h, chunks_of_ne_nil hsize h, List.map_cons,
      List.foldl_cons, foldl_push_pieces, hflat]

theorem foldl_push_flatMap_fragments {size : Nat} (hsize : 0 < size)
    (acc items : List (Tagged κ β)) :
    (items.flatMap (fragments size)).foldl push acc = items.foldl push acc := by
  induction items generalizing acc with
  | nil =>
    rfl
  | cons item rest ih =>
    rw [List.flatMap_cons, List.foldl_append, foldl_push_fragments hsize,
      List.foldl_cons, ih]

/-! ## Maximal runs -/

/-- One item for a run: the tag of its first item and all values in order. -/
def joined (run : List (Tagged κ β)) : List (Tagged κ β) :=
  match run with
  | [] => []
  | first :: _ => [⟨first.tag, run.flatMap value⟩]

/-- Each maximal run of neighbours with equal tags, replaced by one item. -/
def mergeRuns (items : List (Tagged κ β)) : List (Tagged κ β) :=
  (items.splitBy fun a b => a.tag == b.tag).flatMap joined

/-- No two neighbours carry one tag. -/
def IsApart (items : List (Tagged κ β)) : Prop :=
  items.IsChain fun a b => a.tag ≠ b.tag

omit [DecidableEq κ] in
theorem tag_eq_of_isChain {first : Tagged κ β} {more : List (Tagged κ β)}
    (h : (first :: more).IsChain fun a b => a.tag = b.tag) :
    ∀ item ∈ more, item.tag = first.tag := by
  induction more generalizing first with
  | nil =>
    intro item hitem
    cases hitem
  | cons next rest ih =>
    obtain ⟨hnext, hrest⟩ := List.isChain_cons_cons.mp h
    intro item hitem
    rcases List.mem_cons.mp hitem with rfl | hmem
    · exact hnext.symm
    · exact (ih hrest item hmem).trans hnext.symm

/-- Adding items under the tag of the last one extends its value. -/
theorem foldl_push_same (items : List (Tagged κ β)) (last : Tagged κ β)
    (more : List (Tagged κ β)) (h : ∀ item ∈ more, item.tag = last.tag) :
    more.foldl push (items ++ [last]) =
      items ++ [⟨last.tag, last.value ++ more.flatMap value⟩] := by
  induction more generalizing last with
  | nil =>
    rw [List.foldl_nil, List.flatMap_nil, List.append_nil]
  | cons item rest ih =>
    have htag : last.tag = item.tag := (h item List.mem_cons_self).symm
    rw [List.foldl_cons, push_concat, if_pos htag,
      ih ⟨last.tag, last.value ++ item.value⟩
        fun x hx => h x (List.mem_cons_of_mem item hx),
      List.flatMap_cons, List.append_assoc]

theorem push_of_ne {acc : List (Tagged κ β)} {item : Tagged κ β}
    (h : ∀ last ∈ acc.getLast?, last.tag ≠ item.tag) :
    push acc item = acc ++ [item] := by
  rcases acc.eq_nil_or_concat' with rfl | ⟨front, last, rfl⟩
  · rfl
  · rw [push_concat, if_neg (h last (by rw [List.getLast?_concat]; rfl))]

/-- Adding the runs one after the other adds one item for each. -/
theorem foldl_push_flatten (acc : List (Tagged κ β)) (runs : List (List (Tagged κ β)))
    (hne : [] ∉ runs)
    (hrun : ∀ run ∈ runs, run.IsChain fun a b => a.tag = b.tag)
    (hbreak : runs.IsChain fun a b =>
      ∃ ha hb, (a.getLast ha).tag ≠ (b.head hb).tag)
    (hacc : ∀ last ∈ acc.getLast?, ∀ first ∈ runs.flatten.head?,
      last.tag ≠ first.tag) :
    runs.flatten.foldl push acc = acc ++ runs.flatMap joined := by
  induction runs generalizing acc with
  | nil =>
    rw [List.flatten_nil, List.foldl_nil, List.flatMap_nil, List.append_nil]
  | cons run rest ih =>
    rcases run with _ | ⟨first, more⟩
    · exact absurd List.mem_cons_self hne
    have hsame := tag_eq_of_isChain (hrun _ List.mem_cons_self)
    have hfirst : push acc first = acc ++ [first] :=
      push_of_ne fun last hlast => hacc last hlast first rfl
    have hstep : (first :: more).foldl push acc = acc ++ joined (first :: more) := by
      rw [List.foldl_cons, hfirst, foldl_push_same _ _ _ hsame]
      rfl
    rw [List.flatten_cons, List.foldl_append, hstep, List.flatMap_cons,
      ← List.append_assoc]
    apply ih
    · exact fun h => hne (List.mem_cons_of_mem _ h)
    · exact fun r hr => hrun r (List.mem_cons_of_mem _ hr)
    · exact hbreak.tail
    · -- the item of this run keeps its tag, which the next run's first lacks
      intro last hlast next hnext
      rcases rest with _ | ⟨run', rest'⟩
      · cases hnext
      obtain ⟨ha, hb, hdiff⟩ := (List.isChain_cons_cons.mp hbreak).1
      have hlast' : last.tag = first.tag := by
        rw [joined, List.getLast?_concat, Option.mem_some_iff] at hlast
        rw [← hlast]
      have hend : ((first :: more).getLast ha).tag = first.tag := by
        rcases List.mem_cons.mp (List.getLast_mem ha) with heq | hmem
        · rw [heq]
        · exact hsame _ hmem
      have hhead : next = run'.head hb := by
        rcases run' with _ | ⟨y, ys⟩
        · exact absurd rfl hb
        · exact (Option.mem_some_iff.mp hnext).symm
      rw [hlast', ← hend, hhead]
      exact hdiff

/-- **The accumulator computes the merge.** -/
theorem foldl_push (items : List (Tagged κ β)) :
    items.foldl push [] = mergeRuns items := by
  have h := foldl_push_flatten [] (items.splitBy fun a b => a.tag == b.tag)
    (List.nil_notMem_splitBy _ _)
    (fun run hrun => (List.isChain_of_mem_splitBy hrun).imp
      fun a b hab => beq_iff_eq.mp hab)
    ((List.isChain_getLast_head_splitBy _ items).imp
      fun a b ⟨ha, hb, hab⟩ => ⟨ha, hb, beq_eq_false_iff_ne.mp hab⟩)
    (fun last hlast => by cases hlast)
  rw [List.flatten_splitBy, List.nil_append] at h
  exact h

theorem foldl_push_of_isApart (acc items : List (Tagged κ β))
    (h : IsApart (acc ++ items)) : items.foldl push acc = acc ++ items := by
  induction items generalizing acc with
  | nil =>
    rw [List.foldl_nil, List.append_nil]
  | cons item rest ih =>
    have hitem : push acc item = acc ++ [item] := by
      apply push_of_ne
      intro last hlast
      exact (List.isChain_append.mp h).2.2 last hlast item rfl
    rw [List.foldl_cons, hitem, ih _ (by rwa [List.append_assoc]), List.append_assoc]
    rfl

/-- **Nothing to join.**  A list without neighbours under one tag is its own
merge. -/
theorem mergeRuns_eq_self {items : List (Tagged κ β)} (h : IsApart items) :
    mergeRuns items = items := by
  rw [← foldl_push, foldl_push_of_isApart [] items h, List.nil_append]

theorem isApart_push {items : List (Tagged κ β)} (h : IsApart items)
    (item : Tagged κ β) : IsApart (push items item) := by
  rcases items.eq_nil_or_concat' with rfl | ⟨front, last, rfl⟩
  · exact List.isChain_singleton _
  · rw [push_concat]
    obtain ⟨hfront, -, hjoin⟩ := List.isChain_append.mp h
    by_cases htag : last.tag = item.tag
    · rw [if_pos htag]
      refine List.isChain_append.mpr ⟨hfront, List.isChain_singleton _, ?_⟩
      intro x hx y hy
      rw [List.head?_cons, Option.mem_some_iff] at hy
      rw [← hy]
      exact hjoin x hx last rfl
    · rw [if_neg htag]
      refine List.isChain_append.mpr ⟨h, List.isChain_singleton _, ?_⟩
      intro x hx y hy
      rw [List.getLast?_concat, Option.mem_some_iff] at hx
      rw [List.head?_cons, Option.mem_some_iff] at hy
      rw [← hx, ← hy]
      exact htag

theorem isApart_foldl_push (acc items : List (Tagged κ β)) (h : IsApart acc) :
    IsApart (items.foldl push acc) := by
  induction items generalizing acc with
  | nil =>
    exact h
  | cons item rest ih =>
    exact ih _ (isApart_push h item)

end Tagged
