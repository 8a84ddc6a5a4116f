import PlantDrawing.Proofs.FileWays

/-!
# Changes to a file tree

Writing a file makes folders where nothing was, at the ends of the beginnings of a way, and
then sets the file; it touches no other place (`write_eq_ok`). Writing that fails may have
made some of the folders and touches no file (`write_eq_error`). A file that has been
written is found under the path it was written to.
-/
namespace PlantDrawing

namespace FileTree

variable {tree before between after grown : FileTree} {here place current folder : Place}
  {way longer : List String} {path mark name : String} {problem : FileProblem} {fault : FileFault}
  {bytes : ByteArray} {folders links : Nat}

/-- Beyond the earlier tree the later one has folders, where nothing was, to which a way
    from the root leads as far as it is followed. -/
def GrownAlong (way : Place) (before after : FileTree) : Prop :=
  ∀ place, after.find? place = before.find? place ∨
    before.find? place = none ∧ after.find? place = some .folder ∧
      ∃ front, front <+: way ∧ after.follow [] front = .ok place

theorem GrownAlong.refl (way : Place) (tree : FileTree) : GrownAlong way tree tree :=
  fun _ => .inl rfl

theorem GrownAlong.find?_of_some {entry : Entry} (grown : GrownAlong way before after)
    (found : before.find? place = some entry) : after.find? place = some entry := by
  rcases grown place with kept | ⟨nothing, -, -⟩
  · exact kept.trans found
  · rw [nothing] at found
    cases found

theorem GrownAlong.keepsWays (grown : GrownAlong way before after) : KeepsWays before after :=
  fun _ _ found _ => grown.find?_of_some found

theorem GrownAlong.trans (first : GrownAlong way before between) (second : GrownAlong way between after) :
    GrownAlong way before after := by
  intro place
  rcases first place with kept | ⟨nothing, made, front, onWay, leads⟩
  · exact (second place).imp (·.trans kept) (fun ⟨nothing, made⟩ => ⟨kept ▸ nothing, made⟩)
  · exact .inr ⟨nothing, second.find?_of_some made, front, onWay, follow_keeps second.keepsWays leads⟩

theorem GrownAlong.widen (grown : GrownAlong way before after) (within : way <+: longer) :
    GrownAlong longer before after := fun place =>
  (grown place).imp_right fun ⟨nothing, made, front, onWay, leads⟩ =>
    ⟨nothing, made, front, onWay.trans within, leads⟩

/-- What is no folder was there before and is still there. -/
theorem GrownAlong.find?_eq_some_iff {entry : Entry} (grown : GrownAlong way before after)
    (noFolder : entry ≠ .folder) : after.find? place = some entry ↔ before.find? place = some entry := by
  rcases grown place with kept | ⟨nothing, made, -⟩
  · rw [kept]
  · rw [nothing, made]
    simp [noFolder.symm]

theorem GrownAlong.linkless (grown : GrownAlong way before after) (linkless : Linkless before) :
    Linkless after :=
  fun place target found => linkless place target ((grown.find?_eq_some_iff (by simp)).mp found)

theorem GrownAlong.isEnd (grown : GrownAlong way before after) (free : IsEnd (after.find? place)) :
    IsEnd (before.find? place) := by
  rcases grown place with kept | ⟨nothing, -⟩
  · rwa [kept] at free
  · exact .inl nothing

/-- Where there are no links, the new folders are named by beginnings of the way itself. -/
theorem GrownAlong.prefix_of_linkless (grown : GrownAlong way before after) (linkless : Linkless before)
    (onward : Onward way) (nothing : before.find? place = none)
    (made : after.find? place = some .folder) : place <+: way := by
  rcases grown place with kept | ⟨-, -, front, onWay, leads⟩
  · rw [kept, nothing] at made
    cases made
  · obtain ⟨whole, parts, rfl⟩ := (follow_eq_ok.mp leads).of_linkless (grown.linkless linkless)
    obtain rfl := parts.trans (List.append_nil whole)
    rw [foldl_enter_of_onward fun name member => onward name (onWay.subset member), List.nil_append]
    exact onWay

/-- Setting what was no folder and no link leaves all ways as they were. -/
theorem keepsWays_put {entry : Entry} (free : IsEnd (tree.find? place)) : KeepsWays tree (tree.put place entry) := by
  intro other held found notFile
  rw [find?_put_of_ne]
  · exact found
  · rintro rfl
    rw [found] at free
    rcases free with nothing | ⟨bytes, file⟩
    · cases nothing
    · exact notFile bytes (Option.some.inj file)

/-! ## Making folders -/

theorem makeFolder_eq_ok (made : tree.makeFolder mark way = .ok grown) :
    ∃ folder, tree.follow [] way.dropLast = .ok folder ∧ checkName (way.getLastD "") = .ok () ∧
      tree.find? (folder ++ [way.getLastD ""]) = none ∧ grown = tree.put (folder ++ [way.getLastD ""]) .folder := by
  obtain ⟨_, _, made⟩ := Outcome.bind_eq_ok.mp made
  obtain ⟨folder, followed, made⟩ := Outcome.bind_eq_ok.mp made
  obtain ⟨_, checked, made⟩ := Outcome.bind_eq_ok.mp made
  split at made
  · rename_i nothing
    exact ⟨folder, followed, checked, nothing, (Except.ok.inj made).symm⟩
  · cases made

/-- The folder that is made is found at the end of its way. -/
theorem makeFolder_grown {outer : List String} (onward : GoesOn name)
    (made : tree.makeFolder mark (outer ++ [name]) = .ok grown) : GrownAlong (outer ++ [name]) tree grown := by
  obtain ⟨folder, followed, checked, nothing, rfl⟩ := makeFolder_eq_ok made
  simp only [List.dropLast_concat, List.getLastD_concat] at followed checked nothing ⊢
  have found : (tree.put (folder ++ [name]) .folder).find? (folder ++ [name]) = some .folder :=
    find?_put_self tree .folder (by simp)
  have arrives := ((follow_eq_ok.mp followed).keeps (keepsWays_put (.inl nothing)) (by simp)).append
    (walks_entered 0 onward checked found)
  intro other
  by_cases same : other = folder ++ [name]
  · subst same
    exact .inr ⟨nothing, found, _, List.prefix_rfl, follow_eq_ok.mpr arrives⟩
  · exact .inl (find?_put_of_ne tree .folder same)

theorem makeLast_grown {around : Except FileFault Unit × FileTree} {outer : List String} (onward : GoesOn name)
    (grown : GrownAlong (outer ++ [name]) tree around.2) :
    GrownAlong (outer ++ [name]) tree (makeLast mark (outer ++ [name]) around).2 := by
  unfold makeLast
  split
  · exact grown
  · split
    · rename_i made
      exact grown.trans (makeFolder_grown onward made)
    · split <;> exact grown

theorem passOccupied_tree (made : Except FileFault Unit × FileTree) : (passOccupied made).2 = made.2 := by
  unfold passOccupied
  split <;> rfl

theorem makeFolders_grown (tree : FileTree) (mark : String) (reversed : List String)
    (onward : ∀ name ∈ reversed, GoesOn name) :
    GrownAlong reversed.reverse tree (tree.makeFolders mark reversed).2 := by
  induction reversed with
  | nil => exact .refl _ _
  | cons name outer ih =>
    obtain ⟨goesOn, onward⟩ := List.forall_mem_cons.mp onward
    unfold makeFolders
    rw [List.reverse_cons]
    refine makeLast_grown goesOn ?_
    split
    · exact .refl _ _
    · rw [passOccupied_tree]
      exact (ih onward).widen (List.prefix_append _ _)

theorem makeWay_grown (onward : Onward current) (tree : FileTree) (folders : Nat) (path : String) :
    GrownAlong (nominalPlace current path).dropLast tree (tree.makeWay folders current path).2 := by
  unfold makeWay
  dsimp only
  split
  · exact .refl _ _
  · have within : ∀ name ∈ (nominalPlace current path).dropLast.reverse, GoesOn name := fun name member =>
      onward_nominalPlace onward path name (List.dropLast_subset _ (List.mem_reverse.mp member))
    have grown := makeFolders_grown tree (mark path) _ within
    rwa [List.reverse_reverse] at grown

/-! ## Places to write to -/

/-- A way that ends at a name does not end in a blank one. -/
theorem Walks.last_of_left (walks : Walks tree links here way folder [name]) : way.getLast? ≠ some "" := by
  generalize left_eq : [name] = left at walks
  induction walks with
  | arrived => cases left_eq
  | @stayed _ _ _ _ rest _ _ further ih =>
    cases rest with
    | nil =>
      cases further
      cases left_eq
    | cons => exact ih left_eq
  | @back _ _ _ rest _ further ih =>
    cases rest with
    | nil => simp
    | cons => exact ih left_eq
  | @entered _ _ _ _ rest _ _ _ _ further ih =>
    cases rest with
    | nil =>
      cases further
      cases left_eq
    | cons => exact ih left_eq
  | @linked _ _ _ _ target rest _ onward _ _ _ ih =>
    cases rest with
    | nil =>
      rintro ⟨⟩
      exact absurd onward (by decide)
    | cons =>
      rw [List.getLast?_append, Option.or_of_isSome (by simp)] at ih
      exact ih left_eq
  | ended onward _ _ =>
    cases left_eq
    rintro ⟨⟩
    exact absurd onward (by decide)

/-- A file can be written where a way ends at a name that is none of a folder. -/
theorem writableOver_eq_ok : tree.writableOver links here way = .ok place ↔
    ∃ folder name, Walks tree links here way folder [name] ∧ place = folder ++ [name] := by
  -- The induction is on the links: the way of a link may be longer than the one it stands in.
  induction links using Nat.strongRecOn generalizing here way with
  | _ links fewer =>
    unfold writableOver
    by_cases blank : way.getLast? = some ""
    · rw [if_pos blank]
      constructor
      · intro found
        obtain ⟨_, _, found⟩ := Outcome.bind_eq_ok.mp found
        cases found
      · rintro ⟨_, _, walks, -⟩
        exact absurd blank walks.last_of_left
    · rw [if_neg blank]
      simp only [← walk_eq_ok]
      rw [walk.eq_def]
      cases tree.stretch here way with
      | error problem => simp [Bind.bind, Except.bind]
      | ok reached =>
        obtain ⟨inner, left⟩ := reached
        simp only [Bind.bind, Except.bind]
        cases left with
        | nil => simp
        | cons first rest =>
          dsimp only
          split
          · cases links with
            | zero => simp
            | succ others =>
              simp only [walk_eq_ok]
              exact fewer others (Nat.lt_succ_self _)
          · split
            · rename_i alone
              subst alone
              simp [eq_comm, and_assoc]
            · rename_i more
              simp [more]

theorem writable_eq_ok : tree.writable here way = .ok place ↔
    ∃ folder name, Walks tree mostLinks here way folder [name] ∧ place = folder ++ [name] := writableOver_eq_ok

theorem writablePath_eq_ok : tree.writablePath current path = .ok place ↔
    checkPath path = .ok () ∧ tree.writable (origin current path) (names path) = .ok place := by
  unfold writablePath
  rw [Outcome.mapError_eq_ok, Outcome.bind_eq_ok]
  constructor
  · rintro ⟨_, checked, found⟩
    exact ⟨checked, found⟩
  · exact fun ⟨checked, found⟩ => ⟨_, checked, found⟩

/-- A file that is put where a way leads is found there. -/
theorem writable_put (found : tree.writable here way = .ok place) (bytes : ByteArray) :
    place ≠ [] ∧ IsEnd (tree.find? place) ∧ (tree.put place (.file bytes)).writable here way = .ok place ∧
      (tree.put place (.file bytes)).contents here way = .ok bytes := by
  obtain ⟨folder, name, walks, rfl⟩ := writable_eq_ok.mp found
  obtain ⟨-, -, free⟩ := walks.end_of_left
  have held : (tree.put (folder ++ [name]) (.file bytes)).find? (folder ++ [name]) = some (.file bytes) :=
    find?_put_self tree (.file bytes) (by simp)
  have still : Walks (tree.put (folder ++ [name]) (.file bytes)) mostLinks here way folder [name] :=
    walks.keeps (keepsWays_put free) fun
      | _, rfl => .inr ⟨bytes, held⟩
  refine ⟨by simp, free, writable_eq_ok.mpr ⟨_, _, still, rfl⟩, ?_⟩
  refine Outcome.bind_eq_ok.mpr ⟨_, still.walk_eq, ?_⟩
  simp only [held]

/-- A path leads where its text says if no link stands before two dots. -/
theorem writable_nominal (home : IsHome tree current)
    (noLink : NoLinkLeft tree (origin current path) (names path))
    (found : tree.writablePath current path = .ok place) :
    tree.writable [] (nominalPlace current path) = .ok place := by
  obtain ⟨-, found⟩ := writablePath_eq_ok.mp found
  obtain ⟨folder, name, walks, rfl⟩ := writable_eq_ok.mp found
  exact writable_eq_ok.mpr ⟨folder, name, walks.nominal (home.origin path) noLink, rfl⟩

theorem writablePath_of_linkless (linkless : Linkless tree) (found : tree.writablePath current path = .ok place) :
    place = nominalPlace current path := by
  obtain ⟨-, found⟩ := writablePath_eq_ok.mp found
  obtain ⟨folder, name, walks, rfl⟩ := writable_eq_ok.mp found
  obtain ⟨onward, -⟩ := walks.end_of_left
  obtain ⟨front, parts, rfl⟩ := walks.of_linkless linkless
  rw [nominalPlace, parts, List.foldl_append, List.foldl_cons, enter_of_goesOn onward, List.foldl_nil]

/-! ## Writing -/

/-- The later tree has a file under a path, at the place that the path leads to, where
    there was none or another file. Elsewhere it has only grown, on the way that the path
    names as a text. This way leads to the file too if no link stands before two dots in the
    path; without any links it is the place of the file. -/
structure Written (current : Place) (path : String) (before after : FileTree) (place : Place)
    (bytes : ByteArray) : Prop where
  reached : after.writablePath current path = .ok place
  held : after.find? place = some (.file bytes)
  readable : after.read current path = .ok bytes
  free : IsEnd (before.find? place)
  elsewhere : ∀ other, other ≠ place → after.find? other = before.find? other ∨
    before.find? other = none ∧ after.find? other = some .folder ∧
      ∃ front, front <+: (nominalPlace current path).dropLast ∧ after.follow [] front = .ok other
  nominal : IsHome before current → NoLinkLeft before (origin current path) (names path) →
    after.writable [] (nominalPlace current path) = .ok place
  linkless : Linkless before → place = nominalPlace current path ∧
    ∀ other, before.find? other = none → after.find? other = some .folder →
      other <+: (nominalPlace current path).dropLast

/-- What putting a file where a path leads comes to, after the folders on the way have been made. -/
theorem written_of_grown (onward : Onward current) (grown : GrownAlong (nominalPlace current path).dropLast before between)
    (found : between.writablePath current path = .ok place) (bytes : ByteArray) :
    Written current path before (between.put place (.file bytes)) place bytes := by
  obtain ⟨checked, writable⟩ := writablePath_eq_ok.mp found
  obtain ⟨inside, free, reached, readable⟩ := writable_put writable bytes
  have held := find?_put_self between (.file bytes) inside
  refine ⟨writablePath_eq_ok.mpr ⟨checked, reached⟩, held, ?_, grown.isEnd free, ?_, ?_, ?_⟩
  · exact Outcome.mapError_eq_ok.mpr (Outcome.bind_eq_ok.mpr ⟨_, checked, readable⟩)
  · intro other apart
    rw [find?_put_of_ne between _ apart]
    exact (grown other).imp_right fun ⟨nothing, made, front, onWay, leads⟩ =>
      ⟨nothing, made, front, onWay, follow_keeps (keepsWays_put free) leads⟩
  · intro home noLink
    refine (writable_put (writable_nominal (fun front name within => ?_) ?_ found) bytes).2.2.1
    · obtain ⟨goesOn, checked, folder⟩ := home front name within
      exact ⟨goesOn, checked, grown.find?_of_some folder⟩
    · intro front back parts returns target link
      exact noLink front back parts returns target ((grown.find?_eq_some_iff (by simp)).mp link)
  · intro linkless
    refine ⟨writablePath_of_linkless (grown.linkless linkless) found, fun other nothing made => ?_⟩
    have apart : other ≠ place := by
      rintro rfl
      rw [held] at made
      cases made
    rw [find?_put_of_ne between _ apart] at made
    refine grown.prefix_of_linkless linkless (fun name member => ?_) nothing made
    exact onward_nominalPlace onward path name (List.dropLast_subset _ member)

theorem write_eq_ok (onward : Onward current) (written : tree.write folders current path bytes = (.ok (), after)) :
    ∃ place, Written current path tree after place bytes := by
  have grown := makeWay_grown onward tree folders path
  unfold write at written
  generalize tree.makeWay folders current path = made at grown written
  obtain ⟨outcome, between⟩ := made
  cases outcome with
  | error fault => cases written
  | ok _ =>
    dsimp only at written
    split at written
    · cases written
    · rename_i place found
      cases written
      exact ⟨place, written_of_grown onward grown found bytes⟩

/-- A file that cannot be written leaves at most new folders on the way to it. -/
theorem write_eq_error (onward : Onward current)
    (failed : tree.write folders current path bytes = (.error fault, after)) :
    GrownAlong (nominalPlace current path).dropLast tree after := by
  have grown := makeWay_grown onward tree folders path
  unfold write at failed
  generalize tree.makeWay folders current path = made at grown failed
  obtain ⟨outcome, between⟩ := made
  cases outcome with
  | error other =>
    cases failed
    exact grown
  | ok _ =>
    dsimp only at failed
    split at failed
    · cases failed
      exact grown
    · cases failed

end FileTree

end PlantDrawing
