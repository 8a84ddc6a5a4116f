import PlantDrawing.FileTree
import PlantDrawing.Proofs.Outcome

/-!
# Ways in a file tree

`Walks` says name by name how a way is followed, over folders and links, until it has
arrived or ended at something else; this is what `walk` finds (`walk_eq_ok`). A way leads
to the same place still when a tree gets more folders and files (`Walks.keeps`), and a way
on from there can be put behind it (`Walks.append`).

Two ways of writing a path out are compared: as it was given, and with its dots resolved
as text. Both lead to the same place as long as no link stands before two dots
(`Walks.nominal`).
-/
namespace PlantDrawing

namespace FileTree

/-- A name that leads on: it neither stays in the folder it is read in nor goes back. -/
def GoesOn (name : String) : Prop := stays name = false ∧ name ≠ ".."

instance (name : String) : Decidable (GoesOn name) := inferInstanceAs (Decidable (_ ∧ _))

/-- A way ends at an entry that is neither a folder nor a link. -/
def IsEnd (entry : Option Entry) : Prop := entry = none ∨ ∃ bytes, entry = some (.file bytes)

/-- How a way from a folder is followed over at most so many links: to the folder that is
    reached last, and what is left of the way there. -/
inductive Walks (tree : FileTree) : Nat → Place → List String → Place → List String → Prop
  | arrived {links : Nat} {here : Place} : Walks tree links here [] here []
  | stayed {links : Nat} {here folder : Place} {name : String} {rest left : List String}
      (staying : stays name = true) (further : Walks tree links here rest folder left) :
      Walks tree links here (name :: rest) folder left
  | back {links : Nat} {here folder : Place} {rest left : List String}
      (further : Walks tree links here.dropLast rest folder left) :
      Walks tree links here (".." :: rest) folder left
  | entered {links : Nat} {here folder : Place} {name : String} {rest left : List String}
      (onward : GoesOn name) (checked : checkName name = .ok ())
      (found : tree.find? (here ++ [name]) = some .folder)
      (further : Walks tree links (here ++ [name]) rest folder left) :
      Walks tree links here (name :: rest) folder left
  | linked {links : Nat} {here folder : Place} {name target : String} {rest left : List String}
      (onward : GoesOn name) (checked : checkName name = .ok ())
      (found : tree.find? (here ++ [name]) = some (.link target))
      (further : Walks tree links (origin here target) (names target ++ rest) folder left) :
      Walks tree (links + 1) here (name :: rest) folder left
  | ended {links : Nat} {here : Place} {name : String} {rest : List String}
      (onward : GoesOn name) (checked : checkName name = .ok ())
      (found : IsEnd (tree.find? (here ++ [name]))) : Walks tree links here (name :: rest) here (name :: rest)

variable {tree before after : FileTree} {here place folder inner : Place} {way thin rest left more : List String}
  {name path : String} {links others : Nat} {bytes : ByteArray}

theorem enter_of_stays (staying : stays name = true) : enter place name = place := if_pos staying

theorem enter_of_goesOn (onward : GoesOn name) : enter place name = place ++ [name] := by
  rw [enter, onward.1, if_neg (by decide), if_neg onward.2]

theorem stays_or_back_or_goesOn (name : String) : stays name = true ∨ name = ".." ∨ GoesOn name := by
  unfold GoesOn
  cases stays name <;> by_cases back : name = ".." <;> simp [back]

/-! ## The walk of a program -/

theorem walk_nil (tree : FileTree) (links : Nat) (here : Place) : tree.walk links here [] = .ok (here, []) := by
  unfold walk stretch
  rfl

theorem walk_stay (staying : stays name = true) :
    tree.walk links here (name :: rest) = tree.walk links here rest := by
  rw [walk, stretch, if_pos staying, ← walk]

theorem walk_back : tree.walk links here (".." :: rest) = tree.walk links here.dropLast rest := by
  rw [walk, stretch, if_neg (by decide), if_pos rfl, ← walk]

/-- What a name that leads on is followed to. -/
theorem walk_onward (onward : GoesOn name) :
    tree.walk links here (name :: rest) = checkName name >>= fun _ =>
      match tree.find? (here ++ [name]) with
      | some .folder => tree.walk links (here ++ [name]) rest
      | some (.link target) =>
        match links with
        | 0 => .error .tooManyLinks
        | others + 1 => tree.walk others (origin here target) (names target ++ rest)
      | _ => .ok (here, name :: rest) := by
  rw [walk, stretch, onward.1, if_neg (by decide), if_neg onward.2]
  cases checkName name with
  | error problem => rfl
  | ok _ =>
    cases found : tree.find? (here ++ [name]) with
    | none => simp [Bind.bind, Except.bind, found]
    | some entry =>
      cases entry with
      | folder =>
        simp only [Bind.bind, Except.bind]
        exact (walk.eq_def tree links (here ++ [name]) rest).symm
      | file bytes => simp [Bind.bind, Except.bind, found]
      | link target => cases links <;> simp [Bind.bind, Except.bind, found]

theorem Walks.of_walk (walked : tree.walk links here way = .ok (folder, left)) :
    Walks tree links here way folder left := by
  induction links using Nat.strongRecOn generalizing here way with
  | _ links fewer =>
    induction way generalizing here with
    | nil =>
      cases (walk_nil tree links here).symm.trans walked
      exact .arrived
    | cons name rest ih =>
      rcases stays_or_back_or_goesOn name with staying | rfl | onward
      · exact .stayed staying (ih (walk_stay staying ▸ walked))
      · exact .back (ih (walk_back ▸ walked))
      · obtain ⟨_, checked, walked⟩ := Outcome.bind_eq_ok.mp (walk_onward onward ▸ walked)
        split at walked
        · rename_i found
          exact .entered onward checked found (ih walked)
        · rename_i found
          cases links with
          | zero => cases walked
          | succ others => exact .linked onward checked found (fewer others (Nat.lt_succ_self _) walked)
        · rename_i noFolder noLink
          cases walked
          refine .ended onward checked ?_
          cases found : tree.find? (folder ++ [name]) with
          | none => exact .inl rfl
          | some entry =>
            cases entry with
            | folder => exact absurd found noFolder
            | file bytes => exact .inr ⟨bytes, rfl⟩
            | link target => exact absurd found (noLink target)

theorem Walks.walk_eq (walks : Walks tree links here way folder left) :
    tree.walk links here way = .ok (folder, left) := by
  induction walks with
  | arrived => exact walk_nil ..
  | stayed staying _ ih => rw [walk_stay staying, ih]
  | back _ ih => rw [walk_back, ih]
  | entered onward checked found _ ih =>
    rw [walk_onward onward, checked, found]
    exact ih
  | linked onward checked found _ ih =>
    rw [walk_onward onward, checked, found]
    exact ih
  | ended onward checked found =>
    rw [walk_onward onward, checked]
    rcases found with nothing | ⟨bytes, file⟩
    · rw [nothing]
      rfl
    · rw [file]
      rfl

theorem walk_eq_ok : tree.walk links here way = .ok (folder, left) ↔ Walks tree links here way folder left :=
  ⟨.of_walk, Walks.walk_eq⟩

theorem reach_eq_ok : tree.reach links here way = .ok place ↔ Walks tree links here way place [] := by
  unfold reach
  rw [Outcome.bind_eq_ok, ← walk_eq_ok]
  constructor
  · rintro ⟨⟨folder, left⟩, walked, arrived⟩
    cases left with
    | nil =>
      cases arrived
      exact walked
    | cons name rest => cases arrived
  · exact fun walked => ⟨_, walked, rfl⟩

theorem follow_eq_ok : tree.follow here way = .ok place ↔ Walks tree mostLinks here way place [] := reach_eq_ok

theorem walks_entered (links : Nat) (onward : GoesOn name) (checked : checkName name = .ok ())
    (found : tree.find? (here ++ [name]) = some .folder) : Walks tree links here [name] (here ++ [name]) [] :=
  .entered onward checked found .arrived

/-- A way that is left at a name has a nameable end there. -/
theorem Walks.end_of_left (walks : Walks tree links here way folder (name :: rest)) :
    GoesOn name ∧ checkName name = .ok () ∧ IsEnd (tree.find? (folder ++ [name])) := by
  generalize left_eq : name :: rest = left at walks
  induction walks with
  | arrived => cases left_eq
  | stayed _ _ ih => exact ih left_eq
  | back _ ih => exact ih left_eq
  | entered _ _ _ _ ih => exact ih left_eq
  | linked _ _ _ _ ih => exact ih left_eq
  | ended onward checked found =>
    cases left_eq
    exact ⟨onward, checked, found⟩

/-! ## Longer ways and larger trees -/

/-- The later tree has all the folders and links of the earlier one. -/
def KeepsWays (before after : FileTree) : Prop :=
  ∀ place entry, before.find? place = some entry → (∀ bytes, entry ≠ .file bytes) →
    after.find? place = some entry

theorem Walks.keeps (keeps : KeepsWays before after) (walks : Walks before links here way folder left)
    (stillEnds : ∀ name ∈ left.head?, IsEnd (after.find? (folder ++ [name]))) :
    Walks after links here way folder left := by
  induction walks with
  | arrived => exact .arrived
  | stayed staying _ ih => exact .stayed staying (ih stillEnds)
  | back _ ih => exact .back (ih stillEnds)
  | entered onward checked found _ ih =>
    exact .entered onward checked (keeps _ _ found (by simp)) (ih stillEnds)
  | linked onward checked found _ ih =>
    exact .linked onward checked (keeps _ _ found (by simp)) (ih stillEnds)
  | ended onward checked _ => exact .ended onward checked (stillEnds _ rfl)

theorem follow_keeps (keeps : KeepsWays before after) (followed : before.follow here way = .ok place) :
    after.follow here way = .ok place :=
  follow_eq_ok.mpr ((follow_eq_ok.mp followed).keeps keeps (by simp))

/-- More links may be followed. -/
theorem Walks.mono (walks : Walks tree links here way folder left) (more : links ≤ others) :
    Walks tree others here way folder left := by
  induction walks generalizing others with
  | arrived => exact .arrived
  | stayed staying _ ih => exact .stayed staying (ih more)
  | back _ ih => exact .back (ih more)
  | entered onward checked found _ ih => exact .entered onward checked found (ih more)
  | linked onward checked found _ ih =>
    obtain ⟨fewer, rfl⟩ := Nat.exists_eq_add_of_le' more
    exact .linked onward checked found (ih (Nat.le_add_left _ _))
  | ended onward checked found => exact .ended onward checked found

/-- A way that leads to a folder goes on from there. -/
theorem Walks.append (walks : Walks tree links here way inner []) (further : Walks tree others inner more folder left) :
    Walks tree (links + others) here (way ++ more) folder left := by
  generalize arrived : [] = none at walks
  induction walks with
  | arrived => exact further.mono (Nat.le_add_left _ _)
  | stayed staying _ ih => exact .stayed staying (ih further arrived)
  | back _ ih => exact .back (ih further arrived)
  | entered onward checked found _ ih => exact .entered onward checked found (ih further arrived)
  | linked onward checked found _ ih =>
    rw [Nat.succ_add]
    exact .linked onward checked found (List.append_assoc .. ▸ ih further arrived)
  | ended => cases arrived

/-! ## Dots resolved as text -/

/-- The first way is the second one without some of the names that stay in their folder. -/
inductive Thins : List String → List String → Prop
  | nil : Thins [] []
  | left_out {name : String} {thin way : List String} (staying : stays name = true) (rest : Thins thin way) :
      Thins thin (name :: way)
  | kept (name : String) {thin way : List String} (rest : Thins thin way) : Thins (name :: thin) (name :: way)

theorem Thins.append (names : List String) (thins : Thins thin way) : Thins (names ++ thin) (names ++ way) := by
  induction names with
  | nil => exact thins
  | cons name _ ih => exact .kept name ih

theorem thins_filter (way : List String) : Thins (way.filter fun name => !stays name) way := by
  induction way with
  | nil => exact .nil
  | cons name rest ih =>
    rw [List.filter_cons]
    split
    · exact .kept name ih
    · rename_i stay
      exact .left_out (by simpa using stay) ih

theorem Walks.thinned (walks : Walks tree links here way folder left) (thins : Thins thin way) :
    ∃ kept, Thins kept left ∧ Walks tree links here thin folder kept := by
  induction walks generalizing thin with
  | arrived =>
    cases thins
    exact ⟨[], .nil, .arrived⟩
  | stayed staying _ ih =>
    cases thins with
    | left_out _ thins => exact ih thins
    | kept _ thins =>
      obtain ⟨kept, fewer, walks⟩ := ih thins
      exact ⟨kept, fewer, .stayed staying walks⟩
  | back _ ih =>
    cases thins with
    | left_out staying _ => exact absurd staying (by decide)
    | kept _ thins =>
      obtain ⟨kept, fewer, walks⟩ := ih thins
      exact ⟨kept, fewer, .back walks⟩
  | entered onward checked found _ ih =>
    cases thins with
    | left_out staying _ => exact absurd staying (by simp [onward.1])
    | kept _ thins =>
      obtain ⟨kept, fewer, walks⟩ := ih thins
      exact ⟨kept, fewer, .entered onward checked found walks⟩
  | linked onward checked found _ ih =>
    cases thins with
    | left_out staying _ => exact absurd staying (by simp [onward.1])
    | kept _ thins =>
      obtain ⟨kept, fewer, walks⟩ := ih (thins.append _)
      exact ⟨kept, fewer, .linked onward checked found walks⟩
  | ended onward checked found =>
    cases thins with
    | left_out staying _ => exact absurd staying (by simp [onward.1])
    | kept _ thins => exact ⟨_, .kept _ thins, .ended onward checked found⟩

/-- A place that is reached by its names, over folders alone. -/
def IsHome (tree : FileTree) (place : Place) : Prop :=
  ∀ front name, front ++ [name] <+: place →
    GoesOn name ∧ checkName name = .ok () ∧ tree.find? (front ++ [name]) = some .folder

/-- No link stands before two dots on a way from a place. -/
def NoLinkLeft (tree : FileTree) (here : Place) (way : List String) : Prop :=
  ∀ front back, way = front ++ back → ".." ∈ back →
    ∀ target, tree.find? (front.foldl enter here) ≠ some (.link target)

theorem walks_home (home : IsHome tree place) : Walks tree 0 [] place place [] := by
  have along : ∀ done rest, place = done ++ rest → Walks tree 0 done rest place [] := by
    intro done rest parts
    induction rest generalizing done with
    | nil =>
      obtain rfl := parts.trans (List.append_nil done)
      exact .arrived
    | cons name rest ih =>
      obtain ⟨onward, checked, found⟩ := home done name ⟨rest, by simp [parts]⟩
      exact .entered onward checked found (ih _ (by simp [parts]))
  exact along [] place rfl

theorem IsHome.dropLast (home : IsHome tree place) : IsHome tree place.dropLast :=
  fun front name within => home front name (within.trans (List.dropLast_prefix place))

theorem IsHome.append (home : IsHome tree place) (onward : GoesOn name) (checked : checkName name = .ok ())
    (found : tree.find? (place ++ [name]) = some .folder) : IsHome tree (place ++ [name]) := by
  intro front last within
  rcases List.prefix_concat_iff.mp within with same | within
  · obtain ⟨rfl, ⟨⟩⟩ := List.append_inj' same rfl
    exact ⟨onward, checked, found⟩
  · exact home front last within

theorem IsHome.origin (home : IsHome tree place) (path : String) : IsHome tree (origin place path) := by
  unfold FileTree.origin
  split
  · intro front name within
    simp at within
  · exact home

theorem foldl_enter_of_noBack (noBack : ".." ∉ way) (here : Place) :
    way.foldl enter here = here ++ way.filter fun name => !stays name := by
  induction way generalizing here with
  | nil => simp
  | cons name rest ih =>
    rw [List.mem_cons, not_or] at noBack
    obtain ⟨notBack, noBack⟩ := noBack
    rw [List.foldl_cons, ih noBack]
    cases staying : stays name with
    | true => rw [enter_of_stays staying, List.filter_cons_of_neg (by simp [staying])]
    | false =>
      rw [enter_of_goesOn ⟨staying, Ne.symm notBack⟩, List.filter_cons_of_pos (by simp [staying]),
        List.append_assoc, List.singleton_append]

/-- A place whose names all lead on. -/
def Onward (place : Place) : Prop := ∀ name ∈ place, GoesOn name

instance (place : Place) : Decidable (Onward place) := inferInstanceAs (Decidable (∀ _ ∈ _, _))

theorem foldl_enter_of_onward (onward : Onward way) : way.foldl enter here = here ++ way := by
  rw [foldl_enter_of_noBack fun member => (onward _ member).2 rfl,
    List.filter_eq_self.mpr fun name member => by simp [(onward name member).1]]

theorem onward_enter (onward : Onward place) (name : String) : Onward (enter place name) := by
  rcases stays_or_back_or_goesOn name with staying | rfl | goesOn
  · rwa [enter_of_stays staying]
  · exact fun other member => onward other (List.dropLast_subset _ member)
  · rw [enter_of_goesOn goesOn]
    exact List.forall_mem_append.mpr ⟨onward, by simpa using goesOn⟩

theorem onward_nominalPlace (onward : Onward here) (path : String) : Onward (nominalPlace here path) := by
  have start : Onward (origin here path) := by
    unfold origin
    split
    · exact fun _ member => absurd member List.not_mem_nil
    · exact onward
  exact List.foldlRecOn (names path) enter start fun place along name _ => onward_enter along name

/-- A way on which no link stands before two dots leads to where it leads with its dots
    resolved as text. -/
theorem Walks.nominal (home : IsHome tree here) (noLink : NoLinkLeft tree here way)
    (walks : Walks tree links here way folder [name]) :
    Walks tree links [] (way.foldl enter here) folder [name] := by
  induction way generalizing here with
  | nil => cases walks
  | cons first rest ih =>
    by_cases returns : ".." ∈ first :: rest
    · have laterNoLink : NoLinkLeft tree (enter here first) rest := by
        rintro front back rfl returns
        exact noLink (first :: front) back rfl returns
      rw [List.foldl_cons]
      cases walks with
      | stayed staying further =>
        rw [enter_of_stays staying] at laterNoLink ⊢
        exact ih home laterNoLink further
      | back further => exact ih home.dropLast laterNoLink further
      | entered onward checked found further =>
        rw [enter_of_goesOn onward] at laterNoLink ⊢
        exact ih (home.append onward checked found) laterNoLink further
      | linked onward _ found _ =>
        refine absurd found ?_
        rw [← enter_of_goesOn onward]
        exact noLink [first] rest rfl ((List.mem_cons.mp returns).resolve_left onward.2.symm) _
      | ended onward _ _ => exact absurd (List.mem_singleton.mp returns).symm onward.2
    · rw [foldl_enter_of_noBack returns]
      obtain ⟨onward, -⟩ := walks.end_of_left
      obtain ⟨kept, thins, walks⟩ := walks.thinned (thins_filter (first :: rest))
      have whole : kept = [name] := by
        cases thins with
        | left_out staying _ => exact absurd staying (by simp [onward.1])
        | kept _ thins =>
          cases thins
          rfl
      rw [← Nat.zero_add links]
      exact (walks_home home).append (whole ▸ walks)

/-! ## Trees without links -/

/-- A tree that has no links. -/
def Linkless (tree : FileTree) : Prop := ∀ place target, tree.find? place ≠ some (.link target)

theorem linkless_of_entries (entries : ∀ entry ∈ tree.entries, ∀ target, entry.2 ≠ .link target) :
    Linkless tree := by
  intro place target found
  unfold find? at found
  split at found
  · cases found
  · obtain ⟨early, late, parts, -⟩ := List.lookup_eq_some_iff.mp found
    exact entries (place, .link target) (by simp [parts]) target rfl

/-- Where there are no links, the names of a way tell where it leads. -/
theorem Walks.of_linkless (linkless : Linkless tree) (walks : Walks tree links here way folder left) :
    ∃ front, way = front ++ left ∧ folder = front.foldl enter here := by
  induction walks with
  | arrived => exact ⟨[], rfl, rfl⟩
  | stayed staying _ ih =>
    obtain ⟨front, rfl, rfl⟩ := ih
    exact ⟨_ :: front, rfl, by rw [List.foldl_cons, enter_of_stays staying]⟩
  | back _ ih =>
    obtain ⟨front, rfl, rfl⟩ := ih
    exact ⟨".." :: front, rfl, rfl⟩
  | entered onward _ _ _ ih =>
    obtain ⟨front, rfl, rfl⟩ := ih
    exact ⟨_ :: front, rfl, by rw [List.foldl_cons, enter_of_goesOn onward]⟩
  | linked _ _ found _ _ => exact absurd found (linkless _ _)
  | ended => exact ⟨[], rfl, rfl⟩

end FileTree

end PlantDrawing
