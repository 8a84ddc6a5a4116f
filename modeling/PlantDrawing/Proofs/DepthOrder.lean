import PlantDrawing.Proofs.Layers
import PlantDrawing.Proofs.Turning

/-!
# The order of depths

The layers of a drawing are a partition of it, and one after another they are the drawing
sorted by depth, where segments of one depth keep their order (`SortedByDepth`). What a layer
holds is all that the layers depend on (`ofSegments_congr`), and a drawing that is sorted
already is not changed (`flatMap_ofSegments`); so the layers of a drawing are those of the
sorted one, and it is the stable sort that comes out. Turning a drawing leaves all depths as
they are and so turns each layer on its own (`ofSegments_map`).
-/
namespace PlantDrawing.Layer

/-- Layers are a partition of a drawing: they go from the shallowest to the deepest, none is
    without segments, and each depth that occurs has one, with the segments of this depth in
    the order of the drawing. -/
structure Partition (segments : List Segment) (layers : List Layer) : Prop where
  increasing : (layers.map Layer.depth).Pairwise (· < ·)
  drawn : ∀ layer ∈ layers, layer.segments ≠ []
  held : ∀ layer ∈ layers, layer.segments = segments.filter (·.depth = layer.depth)
  covered : ∀ segment ∈ segments, segment.depth ∈ layers.map Layer.depth

/-- A drawing is sorted by depth: it has the same segments, the shallowest first, and those of
    one depth come in the order in which they came before. -/
structure SortedByDepth (segments sorted : List Segment) : Prop where
  perm : sorted.Perm segments
  increasing : sorted.Pairwise fun one other => one.depth ≤ other.depth
  stable : ∀ depth : Int, sorted.filter (·.depth = depth) = segments.filter (·.depth = depth)

/-- A layer turned about the origin by an angle in degrees. -/
def rotate (angle : Float) (layer : Layer) : Except ArithmeticFault Layer :=
  (Segment.rotate layer.segments angle).map (Layer.mk layer.depth)

variable {segment : Segment} {segments sorted others : List Segment} {layers : List Layer} {angle : Float}

theorem partition_ofSegments (segments : List Segment) : Partition segments (ofSegments segments) where
  increasing := ofSegments_pairwise
  drawn := fun _ member => (mem_ofSegments_iff.mp member).1
  held := fun _ member => segments_of_mem_ofSegments member
  covered := fun segment member => mem_ofSegments_depths.mpr ⟨segment, member, rfl⟩

/-- Drawings with the same segments at each depth have the same layers. -/
theorem ofSegments_congr
    (same : ∀ depth : Int, segments.filter (·.depth = depth) = others.filter (·.depth = depth)) :
    ofSegments segments = ofSegments others := by
  refine eq_of_increasing ofSegments_pairwise ofSegments_pairwise fun layer => ?_
  rw [mem_ofSegments_iff, mem_ofSegments_iff, same]

/-! ## Sorting -/

/-- A segment that is no deeper than all layers is put in front of everything they hold. -/
theorem flatMap_insert (least : ∀ layer ∈ layers, segment.depth ≤ layer.depth) :
    (insert segment layers).flatMap Layer.segments = segment :: layers.flatMap Layer.segments := by
  cases layers with
  | nil => rfl
  | cons layer rest =>
    have shallow := least layer List.mem_cons_self
    rw [insert]
    split
    · rfl
    · rw [if_pos (by omega)]
      rfl

/-- The layers of a sorted drawing, one after another, are the drawing. -/
theorem flatMap_ofSegments (increasing : segments.Pairwise fun one other => one.depth ≤ other.depth) :
    (ofSegments segments).flatMap Layer.segments = segments := by
  induction segments with
  | nil => rfl
  | cons segment rest ih =>
    obtain ⟨least, increasingRest⟩ := List.pairwise_cons.mp increasing
    have leastLayer : ∀ layer ∈ ofSegments rest, segment.depth ≤ layer.depth := by
      intro layer member
      obtain ⟨other, inside, same⟩ := mem_ofSegments_depths.mp (List.mem_map_of_mem member)
      exact same ▸ least other inside
    rw [ofSegments, List.foldr_cons, ← ofSegments, flatMap_insert leastLayer, ih increasingRest]

theorem sortedByDepth_mergeSort (segments : List Segment) :
    SortedByDepth segments (segments.mergeSort fun one other => one.depth ≤ other.depth) := by
  have transitive : ∀ one other another : Segment, decide (one.depth ≤ other.depth) = true →
      decide (other.depth ≤ another.depth) = true → decide (one.depth ≤ another.depth) = true := by
    simp only [decide_eq_true_eq]
    intro one other another first second
    exact Int.le_trans first second
  have total : ∀ one other : Segment, (decide (one.depth ≤ other.depth) || decide (other.depth ≤ one.depth)) = true := by
    simp only [Bool.or_eq_true, decide_eq_true_eq]
    intro one other
    exact Int.le_total _ _
  have perm := List.mergeSort_perm segments fun one other => one.depth ≤ other.depth
  refine ⟨perm, ?_, fun depth => ?_⟩
  · exact (List.pairwise_mergeSort transitive total segments).imp of_decide_eq_true
  · -- The segments of one depth are in order whatever the drawing, so they are still together.
    have level : (segments.filter (·.depth = depth)).Pairwise fun one other =>
        decide (one.depth ≤ other.depth) = true := by
      refine List.pairwise_of_forall_mem_list fun one member other otherMember => ?_
      have atDepth := of_decide_eq_true (List.mem_filter.mp member).2
      have otherAtDepth := of_decide_eq_true (List.mem_filter.mp otherMember).2
      exact decide_eq_true (atDepth.trans otherAtDepth.symm).le
    have kept := (List.sublist_mergeSort transitive total level List.filter_sublist).filter (·.depth = depth)
    simp only [List.filter_filter, Bool.and_self] at kept
    exact (kept.eq_of_length (perm.filter _).length_eq.symm).symm

/-- The layers of a drawing, one after another, are the drawing sorted by depth. -/
theorem SortedByDepth.eq_flatMap (sorting : SortedByDepth segments sorted) :
    (ofSegments segments).flatMap Layer.segments = sorted := by
  rw [← ofSegments_congr sorting.stable, flatMap_ofSegments sorting.increasing]

/-! ## Turning -/

theorem insert_map {change : Segment → Segment} (kept : ∀ segment, (change segment).depth = segment.depth) :
    insert (change segment) (layers.map fun layer => ⟨layer.depth, layer.segments.map change⟩) =
      (insert segment layers).map fun layer => ⟨layer.depth, layer.segments.map change⟩ := by
  induction layers with
  | nil => simp [insert, kept]
  | cons head rest ih =>
    rw [List.map_cons, insert, insert, kept]
    split
    · simp
    · split
      · simp
      · rw [ih, List.map_cons]

/-- A change that leaves all depths as they are changes each layer on its own. -/
theorem ofSegments_map {change : Segment → Segment} (kept : ∀ segment, (change segment).depth = segment.depth) :
    ofSegments (segments.map change) =
      (ofSegments segments).map fun layer => ⟨layer.depth, layer.segments.map change⟩ := by
  induction segments with
  | nil => rfl
  | cons segment rest ih =>
    rw [List.map_cons, ofSegments, List.foldr_cons, ← ofSegments, ih, insert_map kept]
    rfl

/-- Turning by a finite angle is a change of each segment, and leaves its depth as it is. -/
theorem exists_turn (finite : angle.isFinite = true) :
    ∃ turn : Segment → Segment, (∀ segment, (turn segment).depth = segment.depth) ∧
      ∀ segments, Segment.rotate segments angle = .ok (segments.map turn) := by
  have turnable : (Double.radians angle).isInf = false := Double.isInf_of_isFinite (Double.isFinite_radians finite)
  cases zero : angle == 0 with
  | true =>
    refine ⟨id, fun _ => rfl, fun segments => ?_⟩
    rw [Segment.rotate, if_pos zero, List.map_id]
  | false =>
    refine ⟨Segment.turned (Double.radians angle).cos (Double.radians angle).sin, fun _ => rfl, fun segments => ?_⟩
    rw [Segment.rotate, zero, Double.cosine, Double.sine, turnable]
    rfl

theorem mapM_rotate (finite : angle.isFinite = true) (segments : List Segment) :
    ∃ turned, Segment.rotate segments angle = .ok turned ∧
      (ofSegments segments).mapM (rotate angle) = .ok (ofSegments turned) := by
  obtain ⟨turn, kept, turns⟩ := exists_turn finite
  have each : rotate angle = fun layer => pure ⟨layer.depth, layer.segments.map turn⟩ := by
    funext layer
    rw [rotate, turns]
    rfl
  refine ⟨_, turns segments, ?_⟩
  rw [each, List.mapM_pure, ofSegments_map kept]
  rfl

/-! ## Layers are a stable partition -/

/-- The layers of a drawing are a partition of it. One after another they are its stable sort by
    depth, which has the same layers again; and turning the drawing by a finite angle turns each
    of them. -/
theorem ofSegments_stable (segments : List Segment) :
    Partition segments (ofSegments segments) ∧
      SortedByDepth segments ((ofSegments segments).flatMap Layer.segments) ∧
      (ofSegments segments).flatMap Layer.segments =
        segments.mergeSort (fun one other => one.depth ≤ other.depth) ∧
      ofSegments ((ofSegments segments).flatMap Layer.segments) = ofSegments segments ∧
      ∀ angle : Float, angle.isFinite = true → ∃ turned, Segment.rotate segments angle = .ok turned ∧
        (ofSegments segments).mapM (rotate angle) = .ok (ofSegments turned) := by
  have sorting := sortedByDepth_mergeSort segments
  have joined := sorting.eq_flatMap
  refine ⟨partition_ofSegments segments, joined ▸ sorting, joined, ?_, fun angle finite => mapM_rotate finite segments⟩
  rw [joined, ofSegments_congr sorting.stable]

/-- A stem with a root and two branches that are drawn in turns. -/
def interleaved : List Segment :=
  [⟨0, 0, 1, 0, 1⟩, ⟨0, 0, 0, -1, -1⟩, ⟨1, 0, 2, 0, 0⟩, ⟨2, 0, 3, 1, 1⟩, ⟨0, -1, 0, -2, -1⟩]

theorem interleaved_stable :
    ofSegments interleaved =
        [⟨-1, [⟨0, 0, 0, -1, -1⟩, ⟨0, -1, 0, -2, -1⟩]⟩, ⟨0, [⟨1, 0, 2, 0, 0⟩]⟩,
          ⟨1, [⟨0, 0, 1, 0, 1⟩, ⟨2, 0, 3, 1, 1⟩]⟩] ∧
      Partition interleaved (ofSegments interleaved) ∧ Float.isFinite 90 = true ∧
      ∃ turned, Segment.rotate interleaved 90 = .ok turned ∧
        (ofSegments interleaved).mapM (rotate 90) = .ok (ofSegments turned) := by
  obtain ⟨partition, -, -, -, turns⟩ := ofSegments_stable interleaved
  have finite : Float.isFinite 90 = true := by decide +kernel
  exact ⟨by decide +kernel, partition, finite, turns 90 finite⟩

end PlantDrawing.Layer
