import PlantDrawing.Proofs.FileChanges

/-!
# What can be wrong with files

Paths come from outside, and a path with the character that ends paths is no path at all.
With proper paths only, whatever is wrong with a file is a problem that the system reports
(`read_reported`, `write_reported`), except that too many folders may be missing one in
another; then nothing is written and no folder made.
-/
namespace PlantDrawing

/-- A text that can be part of a path: the character that ends a path is not in it. -/
def NullFree (text : String) : Prop := '\x00' ∉ text.toList

instance (text : String) : Decidable (NullFree text) := inferInstanceAs (Decidable (_ ∉ _))

/-- A place whose names can be parts of a path. -/
def Place.NullFree (place : Place) : Prop := ∀ name ∈ place, PlantDrawing.NullFree name

instance (place : Place) : Decidable place.NullFree := inferInstanceAs (Decidable (∀ _ ∈ _, _))

/-- A problem with the files and folders of a tree, which is reported as a file error. -/
def FileProblem.Reported : FileProblem → Prop
  | .other .. | .nullCharacter | .tooDeep => False
  | _ => True

/-! ## Proper paths -/

theorem nullFree_append {first second : String} (left : NullFree first) (right : NullFree second) :
    NullFree (first ++ second) := by
  unfold NullFree
  rw [String.toList_append, List.mem_append]
  exact not_or.mpr ⟨left, right⟩

theorem Place.nullFree_path {place : Place} (plain : place.NullFree) : PlantDrawing.NullFree place.path := by
  have spelled : ∀ start : String, PlantDrawing.NullFree start →
      PlantDrawing.NullFree (place.foldl (fun path name => path ++ "/" ++ name) start) := by
    induction place with
    | nil => exact fun start free => free
    | cons name rest ih =>
      intro start free
      obtain ⟨head, tail⟩ := List.forall_mem_cons.mp plain
      exact ih tail _ (nullFree_append (nullFree_append free (by decide)) head)
  exact spelled "" (by decide)

namespace FileTree

variable {tree after grown : FileTree} {here place current : Place} {way : List String} {path mark name : String}
  {links folders : Nat} {problem : FileProblem} {fault : FileFault} {bytes : ByteArray}

theorem mem_of_mem_cutAtSlashes {text name : List Char} {c : Char} (member : name ∈ cutAtSlashes text)
    (within : c ∈ name) : c ∈ text := by
  induction text generalizing name with
  | nil =>
    obtain rfl := List.mem_singleton.mp member
    exact within
  | cons first rest ih =>
    unfold cutAtSlashes at member
    split at member
    · rcases List.mem_cons.mp member with rfl | member
      · cases within
      · exact List.mem_cons_of_mem _ (ih member within)
    · rename_i none
      obtain rfl := List.mem_singleton.mp member
      rw [List.mem_singleton.mp within]
      exact List.mem_cons_self
    · rename_i head names others
      rcases List.mem_cons.mp member with rfl | member
      · rcases List.mem_cons.mp within with rfl | within
        · exact List.mem_cons_self
        · exact List.mem_cons_of_mem _ (ih (others ▸ List.mem_cons_self) within)
      · exact List.mem_cons_of_mem _ (ih (others ▸ List.mem_cons_of_mem _ member) within)

theorem nullFree_names (plain : NullFree path) : ∀ name ∈ FileTree.names path, NullFree name := by
  intro name member
  obtain ⟨characters, cut, rfl⟩ := List.mem_map.mp member
  unfold NullFree
  rw [String.toList_ofList]
  exact fun within => plain (mem_of_mem_cutAtSlashes cut within)

theorem nullFree_nominalPlace (hereFree : current.NullFree) (plain : NullFree path) :
    (nominalPlace current path).NullFree := by
  have start : Place.NullFree (origin current path) := by
    unfold origin
    split
    · exact fun _ member => absurd member (by simp)
    · exact hereFree
  refine List.foldlRecOn (names path) enter start fun place free name member => ?_
  unfold enter
  split
  · exact free
  · split
    · exact fun other inside => free other (List.dropLast_subset _ inside)
    · exact List.forall_mem_append.mpr ⟨free, by simpa using nullFree_names plain name member⟩

/-! ## Reading -/

theorem checkPath_reported (plain : NullFree path) (failed : checkPath path = .error problem) :
    problem.Reported := by
  unfold checkPath at failed
  rw [if_neg plain] at failed
  split at failed
  · cases failed
    trivial
  · split at failed <;> cases failed
    trivial

theorem checkName_reported (failed : checkName name = .error problem) : problem.Reported := by
  unfold checkName at failed
  split at failed <;> cases failed
  trivial

theorem stop_reported (entry : Option Entry) : (stop entry).Reported := by
  cases entry <;> trivial

theorem walk_reported (failed : tree.walk links here way = .error problem) : problem.Reported := by
  induction links using Nat.strongRecOn generalizing here way with
  | _ links fewer =>
    induction way generalizing here with
    | nil => cases (walk_nil tree links here).symm.trans failed
    | cons name rest ih =>
      rcases stays_or_back_or_goesOn name with staying | rfl | onward
      · exact ih (walk_stay staying ▸ failed)
      · exact ih (walk_back ▸ failed)
      · rcases Outcome.bind_eq_error.mp (walk_onward onward ▸ failed) with long | ⟨_, _, failed⟩
        · exact checkName_reported long
        · split at failed
          · exact ih failed
          · cases links with
            | zero =>
              cases failed
              trivial
            | succ others => exact fewer others (Nat.lt_succ_self _) failed
          · cases failed

theorem reach_reported (failed : tree.reach links here way = .error problem) : problem.Reported := by
  rcases Outcome.bind_eq_error.mp failed with lost | ⟨⟨folder, left⟩, _, failed⟩
  · exact walk_reported lost
  · dsimp only at failed
    split at failed <;> cases failed
    exact stop_reported _

theorem contents_reported (failed : tree.contents here way = .error problem) : problem.Reported := by
  rcases Outcome.bind_eq_error.mp failed with lost | ⟨⟨folder, left⟩, _, failed⟩
  · exact walk_reported lost
  · dsimp only at failed
    split at failed
    · cases failed
      trivial
    · split at failed <;> cases failed
      exact stop_reported _

theorem stretch_reported (failed : tree.stretch here way = .error problem) : problem.Reported := by
  have walked : tree.walk 0 here way = .error problem := by
    rw [walk, failed]
    rfl
  exact walk_reported walked

theorem writableOver_reported (failed : tree.writableOver links here way = .error problem) : problem.Reported := by
  induction links using Nat.strongRecOn generalizing here way with
  | _ links fewer =>
    unfold writableOver at failed
    split at failed
    · rcases Outcome.bind_eq_error.mp failed with lost | ⟨_, _, failed⟩
      · exact reach_reported lost
      · cases failed
        trivial
    · rcases Outcome.bind_eq_error.mp failed with lost | ⟨⟨folder, left⟩, _, failed⟩
      · exact stretch_reported lost
      · dsimp only at failed
        split at failed
        · cases failed
          trivial
        · split at failed
          · cases links with
            | zero =>
              cases failed
              trivial
            | succ others => exact fewer others (Nat.lt_succ_self _) failed
          · split at failed <;> cases failed
            exact stop_reported _

/-- A file that cannot be read under a proper path is a file error. -/
theorem read_reported (plain : NullFree path) (failed : tree.read current path = .error fault) :
    fault.problem.Reported := by
  obtain ⟨problem, broken, rfl⟩ := Outcome.mapError_eq_error.mp failed
  rcases Outcome.bind_eq_error.mp broken with unchecked | ⟨_, _, broken⟩
  · exact checkPath_reported plain unchecked
  · exact contents_reported broken

theorem writablePath_reported (plain : NullFree path) (failed : tree.writablePath current path = .error fault) :
    fault.problem.Reported := by
  obtain ⟨problem, broken, rfl⟩ := Outcome.mapError_eq_error.mp failed
  rcases Outcome.bind_eq_error.mp broken with unchecked | ⟨_, _, broken⟩
  · exact checkPath_reported plain unchecked
  · exact writableOver_reported broken

/-! ## Writing -/

theorem nullFree_mark (path : String) : NullFree (FileTree.mark path) := by
  unfold FileTree.mark
  split <;> decide

theorem makeFolder_reported (pathFree : NullFree (mark ++ Place.path way))
    (failed : tree.makeFolder mark way = .error problem) : problem.Reported := by
  rcases Outcome.bind_eq_error.mp failed with unchecked | ⟨_, _, failed⟩
  · exact checkPath_reported pathFree unchecked
  · rcases Outcome.bind_eq_error.mp failed with lost | ⟨folder, _, failed⟩
    · exact reach_reported lost
    · rcases Outcome.bind_eq_error.mp failed with long | ⟨_, _, failed⟩
      · exact checkName_reported long
      · split at failed <;> cases failed
        trivial

theorem makeLast_reported {around : Except FileFault Unit × FileTree} (pathFree : NullFree (mark ++ Place.path way))
    (early : ∀ fault, around.1 = .error fault → fault.problem.Reported)
    (failed : (makeLast mark way around).1 = .error fault) : fault.problem.Reported := by
  unfold makeLast at failed
  split at failed
  · exact early fault failed
  · split at failed
    · cases failed
    · rename_i unmade
      split at failed <;> cases failed
      exact makeFolder_reported pathFree unmade

theorem passOccupied_failed {made : Except FileFault Unit × FileTree} (failed : (passOccupied made).1 = .error fault) :
    made.1 = .error fault := by
  unfold passOccupied at failed
  split at failed
  · cases failed
  · exact failed

theorem makeFolders_reported {reversed : List String} (markFree : NullFree mark)
    (plain : ∀ name ∈ reversed, NullFree name) (failed : (tree.makeFolders mark reversed).1 = .error fault) :
    fault.problem.Reported := by
  induction reversed generalizing fault with
  | nil => cases failed
  | cons name outer ih =>
    have pathFree : Place.NullFree (name :: outer).reverse := fun part member => plain part (List.mem_reverse.mp member)
    refine makeLast_reported (nullFree_append markFree (Place.nullFree_path pathFree)) (fun other broken => ?_) failed
    split at broken
    · cases broken
    · exact ih (fun part member => plain part (List.mem_cons_of_mem _ member)) (passOccupied_failed broken)

/-- A file that cannot be written under a proper path is a file error, or so many folders
    are missing that none of them is made. -/
theorem write_reported (hereFree : current.NullFree) (plain : NullFree path)
    (failed : tree.write folders current path bytes = (.error fault, after)) :
    fault.problem.Reported ∨ fault = ⟨.tooDeep, path⟩ ∧ after = tree ∧
      folders < tree.missingAlong (FileTree.mark path) (nominalPlace current path).dropLast.reverse := by
  unfold write at failed
  generalize made : tree.makeWay folders current path = settled at failed
  obtain ⟨outcome, between⟩ := settled
  cases outcome with
  | error other =>
    cases failed
    unfold makeWay at made
    dsimp only at made
    split at made
    · rename_i deep
      cases made
      exact .inr ⟨rfl, rfl, deep⟩
    · refine .inl (makeFolders_reported (nullFree_mark path) (fun name member => ?_) (congrArg Prod.fst made))
      exact nullFree_nominalPlace hereFree plain name (List.dropLast_subset _ (List.mem_reverse.mp member))
  | ok _ =>
    dsimp only at failed
    split at failed
    · rename_i lost
      cases failed
      exact .inl (writablePath_reported plain lost)
    · cases failed

end FileTree

end PlantDrawing
