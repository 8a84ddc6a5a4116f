import Mathlib.Algebra.GroupWithZero.Nat
import Mathlib.Data.List.Sort
import PlantDrawing.Segment

/-!
# The layers of a drawing

Sorting a drawing into layers keeps every segment and its place among those of the same
depth. There is one layer for each depth that occurs, the shallowest first, and it holds
the segments of its depth in the order of the drawing (`segments_of_mem_ofSegments`). How many
segments each layer has is a matter of the segments alone and not of their order
(`counts_of_perm`).
-/
namespace PlantDrawing.Layer

variable {segment : Segment} {layers : List Layer} {layer : Layer} {depth : Int}

theorem mem_insert_depths :
    depth ∈ (insert segment layers).map Layer.depth ↔
      depth = segment.depth ∨ depth ∈ layers.map Layer.depth := by
  induction layers with
  | nil => simp [insert]
  | cons head rest ih =>
    rw [insert]
    split
    · simp
    · split
      · rename_i same
        simp [same]
      · rw [List.map_cons, List.mem_cons, ih, List.map_cons, List.mem_cons]
        exact or_left_comm

theorem insert_pairwise (sorted : (layers.map Layer.depth).Pairwise (· < ·)) :
    ((insert segment layers).map Layer.depth).Pairwise (· < ·) := by
  induction layers with
  | nil => simp [insert]
  | cons head rest ih =>
    obtain ⟨above, sortedRest⟩ := List.pairwise_cons.mp sorted
    rw [insert]
    split
    · rename_i below
      refine List.pairwise_cons.mpr ⟨?_, sorted⟩
      refine List.forall_mem_cons.mpr ⟨below, ?_⟩
      intro depth member
      exact Int.lt_trans below (above depth member)
    · rename_i notBelow
      split
      · exact sorted
      · rename_i different
        refine List.pairwise_cons.mpr ⟨?_, ih sortedRest⟩
        intro depth member
        rcases mem_insert_depths.mp member with rfl | member
        · show head.depth < segment.depth
          omega
        · exact above depth member

/-- A segment joins the segments of its depth, where `content` tells the segments that
    were there for each depth before it came. -/
theorem segments_of_mem_insert {content : Int → List Segment}
    (sorted : (layers.map Layer.depth).Pairwise (· < ·))
    (held : ∀ layer ∈ layers, layer.segments = content layer.depth)
    (fresh : segment.depth ∉ layers.map Layer.depth → content segment.depth = [])
    (member : layer ∈ insert segment layers) :
    layer.segments =
      if segment.depth = layer.depth then segment :: content layer.depth else content layer.depth := by
  induction layers with
  | nil =>
    obtain rfl := List.mem_singleton.mp member
    simp [fresh]
  | cons head rest ih =>
    obtain ⟨above, sortedRest⟩ := List.pairwise_cons.mp sorted
    obtain ⟨headHeld, restHeld⟩ := List.forall_mem_cons.mp held
    have deeper : ∀ layer ∈ rest, head.depth < layer.depth :=
      fun layer member => above layer.depth (List.mem_map_of_mem member)
    rw [insert] at member
    split at member
    · rename_i below
      rcases List.mem_cons.mp member with rfl | member
      · have absent : segment.depth ∉ (head :: rest).map Layer.depth := by
          intro present
          obtain ⟨layer, member, same⟩ := List.mem_map.mp present
          rcases List.mem_cons.mp member with rfl | member
          · omega
          · have := deeper layer member
            omega
        simp [fresh absent]
      · rw [held layer member, if_neg]
        rcases List.mem_cons.mp member with rfl | member
        · omega
        · have := deeper layer member
          omega
    · rename_i notBelow
      split at member
      · rename_i same
        rcases List.mem_cons.mp member with rfl | member
        · rw [if_pos same, headHeld]
        · have := deeper layer member
          rw [restHeld layer member, if_neg (by omega)]
      · rename_i different
        rcases List.mem_cons.mp member with rfl | member
        · rw [headHeld, if_neg different]
        · -- The depth is new to the whole list if it is new to the rest, as it is not the first.
          refine ih sortedRest restHeld ?_ member
          intro absent
          refine fresh ?_
          rw [List.map_cons, List.mem_cons]
          exact fun present => present.elim different absent

/-! ## All layers -/

variable {segments : List Segment}

theorem mem_ofSegments_depths :
    depth ∈ (ofSegments segments).map Layer.depth ↔ ∃ segment ∈ segments, segment.depth = depth := by
  induction segments with
  | nil => simp [ofSegments]
  | cons segment rest ih =>
    rw [ofSegments, List.foldr_cons, mem_insert_depths, ← ofSegments, ih]
    simp [eq_comm]

theorem ofSegments_pairwise : ((ofSegments segments).map Layer.depth).Pairwise (· < ·) := by
  induction segments with
  | nil => simp [ofSegments]
  | cons segment rest ih => exact insert_pairwise ih

/-- A layer holds the segments of its depth in the order of the drawing. -/
theorem segments_of_mem_ofSegments (member : layer ∈ ofSegments segments) :
    layer.segments = segments.filter (·.depth = layer.depth) := by
  induction segments generalizing layer with
  | nil => simp [ofSegments] at member
  | cons segment rest ih =>
    have fresh : segment.depth ∉ (ofSegments rest).map Layer.depth →
        rest.filter (·.depth = segment.depth) = [] := by
      intro absent
      rw [List.filter_eq_nil_iff]
      intro other otherMember same
      exact absent (mem_ofSegments_depths.mpr ⟨other, otherMember, of_decide_eq_true same⟩)
    have joined := @segments_of_mem_insert segment _ layer (fun depth => rest.filter (·.depth = depth))
      ofSegments_pairwise (fun _ member => ih member) fresh member
    rw [joined, List.filter_cons]
    simp

/-- The layers are the depths that occur, each with its segments. -/
theorem mem_ofSegments_iff :
    layer ∈ ofSegments segments ↔
      layer.segments ≠ [] ∧ layer.segments = segments.filter (·.depth = layer.depth) := by
  have present (layer : Layer) : layer.depth ∈ (ofSegments segments).map Layer.depth ↔
      segments.filter (·.depth = layer.depth) ≠ [] := by
    rw [mem_ofSegments_depths, ne_eq, List.filter_eq_nil_iff]
    simp
  constructor
  · intro member
    have held := segments_of_mem_ofSegments member
    exact ⟨held ▸ (present layer).mp (List.mem_map_of_mem member), held⟩
  · rintro ⟨drawn, held⟩
    obtain ⟨other, member, same⟩ := List.mem_map.mp ((present layer).mpr (held ▸ drawn))
    obtain rfl : other = layer := by
      rcases other with ⟨depth, content⟩
      rcases layer with ⟨_, _⟩
      obtain rfl : depth = _ := same
      have contentHeld : content = _ := segments_of_mem_ofSegments member
      rw [contentHeld, ← held]
    exact member

/-! ## How many segments -/

theorem sum_lengths_insert :
    ((insert segment layers).map (·.segments.length)).sum = (layers.map (·.segments.length)).sum + 1 := by
  induction layers with
  | nil => simp [insert]
  | cons head rest ih =>
    rw [insert]
    split
    · simp [Nat.add_comm]
    · split
      · simp only [List.map_cons, List.sum_cons, List.length_cons]
        omega
      · simp only [List.map_cons, List.sum_cons, ih]
        omega

/-- No segment is lost and none comes twice. -/
theorem sum_lengths_ofSegments : ((ofSegments segments).map (·.segments.length)).sum = segments.length := by
  induction segments with
  | nil => rfl
  | cons segment rest ih => rw [ofSegments, List.foldr_cons, sum_lengths_insert, ← ofSegments, ih, List.length_cons]

/-- The depths that occur in a drawing, each with the number of its segments. -/
def counts (segments : List Segment) : List (Int × Nat) :=
  (ofSegments segments).map fun layer => (layer.depth, layer.segments.length)

theorem counts_pairwise : ((counts segments).map Prod.fst).Pairwise (· < ·) := by
  simpa [counts, Function.comp_def] using @ofSegments_pairwise segments

theorem sum_counts : ((counts segments).map Prod.snd).sum = segments.length := by
  simpa [counts, Function.comp_def] using @sum_lengths_ofSegments segments

theorem mem_counts {number : Nat} :
    (depth, number) ∈ counts segments ↔ 0 < number ∧ number = segments.countP (·.depth = depth) := by
  simp only [counts, List.mem_map, mem_ofSegments_iff, List.countP_eq_length_filter]
  constructor
  · rintro ⟨layer, ⟨drawn, held⟩, same⟩
    obtain ⟨rfl, rfl⟩ := Prod.mk.inj same
    exact ⟨List.length_pos_iff.mpr drawn, congrArg List.length held⟩
  · rintro ⟨some, rfl⟩
    exact ⟨⟨depth, segments.filter (·.depth = depth)⟩, ⟨List.length_pos_iff.mp some, rfl⟩, rfl⟩

/-- Two lists of things at increasing depths are the same if the same things are in them. -/
theorem eq_of_increasing {α : Type} {depthOf : α → Int} {one other : List α}
    (increasing : (one.map depthOf).Pairwise (· < ·)) (increasing' : (other.map depthOf).Pairwise (· < ·))
    (same : ∀ thing, thing ∈ one ↔ thing ∈ other) : one = other := by
  have : Std.Irrefl fun thing thing' => depthOf thing < depthOf thing' := ⟨fun _ => Int.lt_irrefl _⟩
  have : Std.Antisymm fun thing thing' => depthOf thing < depthOf thing' :=
    ⟨fun _ _ less more => absurd more (Int.lt_asymm less)⟩
  exact (List.pairwise_map.mp increasing).eq_of_mem_iff (List.pairwise_map.mp increasing') same

/-- The order of a drawing does not matter to how many segments each of its layers has. -/
theorem counts_of_perm {others : List Segment} (same : segments.Perm others) : counts segments = counts others := by
  refine eq_of_increasing counts_pairwise counts_pairwise ?_
  rintro ⟨depth, number⟩
  rw [mem_counts, mem_counts, same.countP_eq]

end PlantDrawing.Layer
