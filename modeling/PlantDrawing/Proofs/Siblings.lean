import PlantDrawing.Proofs.Branches
import PlantDrawing.Proofs.Hull
import PlantDrawing.Proofs.Layers

/-!
# Siblings

Two branches that are entered at the same place do not see each other: each of them is a detour from
there and back (`Walk.reads_siblings`). So it does not matter which of the two is walked first. The
drawing has the same segments in another order (`Word.segments_swapped`), and hence layers of the
same sizes and bounds with the same sides (`Word.siblings_in_either_order`).
-/
namespace PlantDrawing

namespace Walk

variable {angle scale : Float} {alphabet : Alphabet} {walk last : Walk} {front first second rest : Word}

/-- The walk along a word with two branches in one place: along the front, into each of the branches
    from where the front ends, and on along the rest from there as well. -/
theorem reads_siblings (firstClosed : first.Balanced) (secondClosed : second.Balanced)
    (spares : alphabet.SparesBrackets) :
    Reads angle scale alphabet walk (front ++ first.enclosed ++ second.enclosed ++ rest) last ↔
      ∃ middle inFirst inSecond after added, Reads angle scale alphabet walk front middle ∧
        Reads angle scale alphabet (middle.entering scale) first inFirst ∧
        Reads angle scale alphabet (middle.entering scale) second inSecond ∧
        Reads angle scale alphabet middle rest after ∧ after.drawn = added ++ middle.drawn ∧
        last = { after with drawn := added ++ (inSecond.drawn ++ (inFirst.drawn ++ middle.drawn)) } := by
  constructor
  · intro reads
    obtain ⟨back, inSecond, after, added, there, within, onward, drawn, rfl⟩ :=
      (reads_detour secondClosed spares).mp reads
    obtain ⟨middle, walked, branched⟩ := reads_append.mp there
    obtain ⟨inFirst, inside, rfl⟩ := (reads_enclosed firstClosed spares).mp branched
    -- The rest is walked from where the front ends, whatever the first branch has drawn.
    obtain ⟨late, redrawn, again⟩ := reads_redrawn onward
    obtain rfl : late = added := List.append_cancel_right (redrawn.symm.trans drawn)
    exact ⟨middle, inFirst, inSecond, _, late, walked, inside, within, again middle.drawn, rfl, rfl⟩
  · rintro ⟨middle, inFirst, inSecond, after, added, walked, inside, within, onward, drawn, rfl⟩
    obtain ⟨late, redrawn, again⟩ := reads_redrawn onward
    obtain rfl : late = added := List.append_cancel_right (redrawn.symm.trans drawn)
    refine (reads_detour secondClosed spares).mpr ⟨{ middle with drawn := inFirst.drawn ++ middle.drawn }, inSecond,
      _, late, reads_append.mpr ⟨middle, walked, ?_⟩, within, again _, rfl, rfl⟩
    exact (reads_enclosed firstClosed spares).mpr ⟨inFirst, inside, rfl⟩

end Walk

namespace Word

variable {angle : Float} {settings : Settings} {alphabet : Alphabet} {before first second after : Word}
  {drawing : List Segment}

/-- With two branches in one place swapped, a word draws the same segments in another order. -/
theorem segments_swapped (firstClosed : first.Balanced) (secondClosed : second.Balanced)
    (spares : alphabet.SparesBrackets)
    (drawn : segments (before ++ first.enclosed ++ second.enclosed ++ after) angle settings alphabet = .ok drawing) :
    ∃ swapped,
      segments (before ++ second.enclosed ++ first.enclosed ++ after) angle settings alphabet = .ok swapped ∧
        drawing.Perm swapped := by
  obtain ⟨valid, last, reads, rfl⟩ := segments_eq_ok.mp drawn
  obtain ⟨middle, inFirst, inSecond, final, added, walked, inside, within, onward, late, rfl⟩ :=
    (Walk.reads_siblings firstClosed secondClosed spares).mp reads
  have swapped := (Walk.reads_siblings secondClosed firstClosed spares).mpr
    ⟨middle, inSecond, inFirst, final, added, walked, within, inside, onward, late, rfl⟩
  refine ⟨_, segments_eq_ok.mpr ⟨valid, _, swapped, rfl⟩, ?_⟩
  have exchanged : (added ++ (inSecond.drawn ++ (inFirst.drawn ++ middle.drawn))).Perm
      (added ++ (inFirst.drawn ++ (inSecond.drawn ++ middle.drawn))) :=
    (List.perm_append_comm_assoc ..).append_left added
  exact (List.reverse_perm _).trans (exchanged.trans (List.reverse_perm _).symm)

/-- Two branches that are entered at the same place can be walked in either order: a word draws with
    the one order exactly if it draws with the other. The two drawings have the same segments, though
    not in the same order, as many of them at each depth, and bounds with numerically equal sides. -/
theorem siblings_in_either_order (before first second after : Word) (angle : Float) (settings : Settings)
    (alphabet : Alphabet) (firstClosed : first.Balanced) (secondClosed : second.Balanced)
    (spares : alphabet.SparesBrackets) :
    ((∃ drawing, segments (before ++ first.enclosed ++ second.enclosed ++ after) angle settings alphabet =
          .ok drawing) ↔
        ∃ drawing, segments (before ++ second.enclosed ++ first.enclosed ++ after) angle settings alphabet =
          .ok drawing) ∧
      ∀ drawing swapped,
        segments (before ++ first.enclosed ++ second.enclosed ++ after) angle settings alphabet = .ok drawing →
        segments (before ++ second.enclosed ++ first.enclosed ++ after) angle settings alphabet = .ok swapped →
          drawing.Perm swapped ∧ Layer.counts drawing = Layer.counts swapped ∧
            (Bounds.ofSegments drawing).SameSides (Bounds.ofSegments swapped) := by
  refine ⟨⟨?_, ?_⟩, fun drawing swapped drawn drawnSwapped => ?_⟩
  · rintro ⟨drawing, drawn⟩
    obtain ⟨swapped, drawnSwapped, -⟩ := segments_swapped firstClosed secondClosed spares drawn
    exact ⟨swapped, drawnSwapped⟩
  · rintro ⟨swapped, drawnSwapped⟩
    obtain ⟨drawing, drawn, -⟩ := segments_swapped secondClosed firstClosed spares drawnSwapped
    exact ⟨drawing, drawn⟩
  · obtain ⟨same, drawnSame, permuted⟩ := segments_swapped firstClosed secondClosed spares drawn
    obtain rfl : same = swapped := Except.ok.inj (drawnSame.symm.trans drawnSwapped)
    exact ⟨permuted, Layer.counts_of_perm permuted, Bounds.sameSides_of_mem_iff fun _ => permuted.mem_iff⟩

/-- Two branches on a stem, of which one has a branch of its own, inside a branch that stays open. -/
theorem twigs_in_either_order :
    Balanced (ofText "+F[-F]f") ∧ Balanced (ofText "-FF") ∧ Alphabet.SparesBrackets {} ∧
      ∃ drawing swapped,
        segments (ofText "F[F" ++ enclosed (ofText "+F[-F]f") ++ enclosed (ofText "-FF") ++ ofText "F") 25 {} {} =
          .ok drawing ∧
        segments (ofText "F[F" ++ enclosed (ofText "-FF") ++ enclosed (ofText "+F[-F]f") ++ ofText "F") 25 {} {} =
          .ok swapped ∧
        drawing.Perm swapped ∧ Layer.counts drawing = Layer.counts swapped ∧
          (Bounds.ofSegments drawing).SameSides (Bounds.ofSegments swapped) := by
  have firstClosed : Balanced (ofText "+F[-F]f") := by decide
  have secondClosed : Balanced (ofText "-FF") := by decide
  have spares : Alphabet.SparesBrackets {} := by decide
  obtain ⟨drawing, drawn⟩ : ∃ drawing, segments
      (ofText "F[F" ++ enclosed (ofText "+F[-F]f") ++ enclosed (ofText "-FF") ++ ofText "F") 25 {} {} =
        .ok drawing := ⟨_, rfl⟩
  obtain ⟨either, alike⟩ := siblings_in_either_order (ofText "F[F") (ofText "+F[-F]f") (ofText "-FF") (ofText "F")
    25 {} {} firstClosed secondClosed spares
  obtain ⟨swapped, drawnSwapped⟩ := either.mp ⟨drawing, drawn⟩
  exact ⟨firstClosed, secondClosed, spares, drawing, swapped, drawn, drawnSwapped,
    alike drawing swapped drawn drawnSwapped⟩

end Word

end PlantDrawing
