import PlantDrawing.Arguments
import PlantDrawing.Proofs.FileFaults

/-!
# What the arguments give

Reading the arguments of a command fills slots one after another, from the texts of the
tokens alone (`readTokens_induct`). So a run that is asked for has a word in each of its
places, and its paths hold no character that the arguments do not hold
(`ofArguments_fits`).
-/
namespace PlantDrawing

variable {argument text : String} {arguments : List String} {options : List OptionName} {token : Token}
  {tokens : List Token} {runtime : Runtime} {given next final : Given} {places : List PlaceName} {command : CommandName}

/-! ## Texts of tokens -/

/-- The texts that a token brings. -/
def Token.texts : Token → List String
  | .word text => [text]
  | .separator => []
  | .option _ .nothing => []
  | .option _ (.value text) => [text]
  | .option _ (.letters text) => [text]
  | .unknown argument => [argument]

/-- The texts of a token can be parts of paths. -/
def Token.NullFree (token : Token) : Prop := ∀ text ∈ token.texts, PlantDrawing.NullFree text

theorem nullFree_of_sublist {characters : List Char} (plain : NullFree text)
    (part : List.Sublist characters text.toList) : NullFree (String.ofList characters) := by
  unfold NullFree
  rw [String.toList_ofList]
  exact fun within => plain (part.subset within)

namespace Token

theorem cutValue_nullFree {name : OptionName} {start : String} {joined : Joined} (plain : PlantDrawing.NullFree argument)
    (cut : cutValue argument = (start, joined)) : (Token.option name joined).NullFree := by
  unfold cutValue at cut
  dsimp only at cut
  split at cut
  · cases cut
    exact fun _ member => absurd member (by simp [texts])
  · rename_i sign value rest
    cases cut
    intro text member
    obtain rfl := List.mem_singleton.mp member
    refine nullFree_of_sublist plain ?_
    exact (List.sublist_cons_self sign value).trans (rest ▸ List.drop_sublist _ _)

theorem readings_nullFree {name : OptionName} {spelling : String} {joined : Joined} (plain : PlantDrawing.NullFree argument)
    (member : (name, spelling, joined) ∈ readings options argument) : (Token.option name joined).NullFree := by
  unfold readings at member
  split at member
  · obtain ⟨_, _, same⟩ := List.mem_map.mp member
    cases same
    exact cutValue_nullFree plain rfl
  · rename_i letter more _ spelled
    dsimp only at member
    split at member
    · cases List.mem_singleton.mp member
      intro text member
      obtain rfl := List.mem_singleton.mp member
      refine nullFree_of_sublist plain ?_
      rw [spelled]
      exact (List.sublist_cons_self letter more).trans (List.sublist_cons_self _ _)
    · cases member
  · cases member

theorem ofDashed_nullFree (plain : PlantDrawing.NullFree argument) (read : ofDashed options argument = .ok token) :
    token.NullFree := by
  unfold ofDashed at read
  split at read
  · rename_i name spelling joined only
    cases read
    have member : (name, spelling, joined) ∈ readings options argument := only ▸ List.mem_cons_self
    exact readings_nullFree plain member
  · split at read <;> cases read <;> exact List.forall_mem_singleton.mpr plain
  · cases read

theorem classifyDashed_nullFree (plain : PlantDrawing.NullFree argument)
    (read : classifyDashed options argument = .ok token) : token.NullFree := by
  unfold classifyDashed at read
  split at read
  · cases read
    exact fun _ member => absurd member (by simp [texts])
  · split at read
    · rename_i start value cut
      have held := @cutValue_nullFree _ .help _ _ plain cut
      split at read
      · cases read
        split <;> exact held
      · exact ofDashed_nullFree plain read
    · exact ofDashed_nullFree plain read

theorem classify_nullFree (plain : PlantDrawing.NullFree argument) (read : classify options argument = .ok token) :
    token.NullFree := by
  unfold classify at read
  split at read
  · cases read
    exact fun _ member => absurd member (by simp [texts])
  · split at read
    · exact classifyDashed_nullFree plain read
    · cases read
      exact List.forall_mem_singleton.mpr plain

theorem classifyAll_nullFree (plain : ∀ argument ∈ arguments, PlantDrawing.NullFree argument)
    (read : classifyAll options arguments = .ok tokens) : ∀ token ∈ tokens, token.NullFree := by
  induction arguments generalizing tokens with
  | nil =>
    cases read
    simp
  | cons argument rest ih =>
    obtain ⟨head, tail⟩ := List.forall_mem_cons.mp plain
    obtain ⟨token, first, read⟩ := Outcome.bind_eq_ok.mp read
    have tokenFree := classify_nullFree head first
    split at read
    · rename_i separator
      cases read
      refine List.forall_mem_cons.mpr ⟨separator ▸ tokenFree, List.forall_mem_map.mpr ?_⟩
      exact fun argument member => List.forall_mem_singleton.mpr (tail argument member)
    · obtain ⟨others, more, read⟩ := Outcome.bind_eq_ok.mp read
      cases read
      exact List.forall_mem_cons.mpr ⟨tokenFree, ih tail more⟩

end Token

/-! ## Filling the slots -/

theorem readHelpLetters_incomplete {wordFollows : Bool} {letters : List Char} {more : List String} :
    readHelpLetters options wordFollows letters ≠ .ok (.complete final more) := by
  intro read
  induction letters with
  | nil => cases read
  | cons letter rest ih =>
    unfold readHelpLetters at read
    split at read
    · cases read
    · exact ih read
    · split at read <;> cases read
    · cases read

theorem readHelp_incomplete {joined : Joined} {wordFollows : Bool} {more : List String} :
    readHelp options joined wordFollows ≠ .ok (.complete final more) := by
  intro read
  unfold readHelp at read
  split at read
  · cases read
  · cases read
  · split at read
    · cases read
    · exact readHelpLetters_incomplete read

/-- What a reading keeps of what is given and of the places that are still empty, if neither
    a word in its place nor a value of an option breaks it. -/
theorem readTokens_induct (Holds : Given → List PlaceName → Prop) {extra more : List String} {before : Before}
    (placed : ∀ given name others before text, NullFree text →
      Holds given (name :: others) → Holds (given.place name (wordOf before text)) others)
    (assigned : ∀ given next places option text, NullFree text →
      given.set runtime option text = .ok next → Holds given places → Holds next places)
    (plain : ∀ token ∈ tokens, token.NullFree)
    (read : readTokens runtime options given places extra before tokens = .ok (.complete final more))
    (start : Holds given places) : Holds final [] := by
  fun_induction readTokens runtime options given places extra before tokens with
  | case1 given places extra before none =>
    cases read
    rwa [List.isEmpty_iff.mp none] at start
  | case2 => cases read
  | case3 _ _ _ _ _ ih | case5 _ _ _ _ ih | case6 _ _ _ _ _ _ _ ih | case7 _ _ _ _ _ _ _ ih | case8 _ _ _ _ _ _ ih =>
    -- The token brings neither a word for a place nor a value.
    exact ih (List.forall_mem_cons.mp plain).2 read start
  | case4 given extra before text rest name others ih =>
    obtain ⟨head, tail⟩ := List.forall_mem_cons.mp plain
    exact ih tail read (placed _ _ _ _ _ (head text (by simp [Token.texts])) start)
  | case9 given places extra before joined rest => exact absurd read readHelp_incomplete
  | case10 given places extra before name text rest other ih
  | case11 given places extra before name text rest other ih =>
    obtain ⟨head, tail⟩ := List.forall_mem_cons.mp plain
    obtain ⟨next, set, read⟩ := Outcome.bind_eq_ok.mp read
    exact ih next tail read (assigned _ _ _ _ _ (head text (by simp [Token.texts])) set start)
  | case12 given places extra before name text rest other ih =>
    -- The value is the text of the next token.
    obtain ⟨_, next⟩ := List.forall_mem_cons.mp plain
    obtain ⟨head, tail⟩ := List.forall_mem_cons.mp next
    obtain ⟨next, set, read⟩ := Outcome.bind_eq_ok.mp read
    exact ih next tail read (assigned _ _ _ _ _ (head text (by simp [Token.texts])) set start)
  | case13 => cases read

/-- What is said of a place. -/
def Given.slotOf (given : Given) : PlaceName → Slot String
  | .grammar => given.grammar
  | .output => given.output

/-- The paths that are given are proper ones. -/
structure Given.PathsFree (given : Given) : Prop where
  output : ∀ path, given.output = .filled path → NullFree path
  options : ∀ path, given.options = .filled path → NullFree path

/-- The paths are proper ones, and there is a word for each place that is not empty. -/
structure Given.Fits (command : CommandName) (given : Given) (empty : List PlaceName) : Prop where
  paths : given.PathsFree
  words : ∀ place ∈ command.places, place ∈ empty ∨ given.slotOf place ≠ .absent

theorem fits_place {name : PlaceName} {others : List PlaceName} (before : Before) (plain : NullFree text)
    (fits : given.Fits command (name :: others)) :
    (given.place name (wordOf before text)).Fits command others := by
  have word : ∀ path, wordOf before text = .filled path → NullFree path := by
    intro path filled
    unfold wordOf at filled
    split at filled <;> cases filled
    exact plain
  have present : wordOf before text ≠ .absent := by
    unfold wordOf
    split <;> simp
  obtain ⟨⟨output, options⟩, words⟩ := fits
  cases name with
  | grammar =>
    refine ⟨⟨output, options⟩, ?_⟩
    intro place member
    cases place with
    | grammar => exact .inr present
    | output => exact (words .output member).imp_left (by simp)
  | output =>
    refine ⟨⟨word, options⟩, ?_⟩
    intro place member
    cases place with
    | grammar => exact (words .grammar member).imp_left (by simp)
    | output => exact .inr present

theorem fits_set {option : OptionName} (plain : NullFree text) (set : given.set runtime option text = .ok next)
    (fits : given.Fits command places) : next.Fits command places := by
  obtain ⟨⟨output, options⟩, words⟩ := fits
  cases option with
  | help =>
    cases set
    exact ⟨⟨output, options⟩, words⟩
  | options =>
    obtain ⟨slot, filled, rfl⟩ := Outcome.map_eq_ok.mp set
    refine ⟨⟨output, ?_⟩, words⟩
    rintro path rfl
    unfold Given.slot at filled
    split at filled <;> cases filled
    exact plain
  | _ =>
    obtain ⟨slot, filled, rfl⟩ := Outcome.map_eq_ok.mp set
    exact ⟨⟨output, options⟩, words⟩

theorem read_fits {more : List String} (plain : ∀ argument ∈ arguments, NullFree argument)
    (read : command.read runtime arguments = .ok (.complete given more)) : given.Fits command [] := by
  obtain ⟨tokens, classified, read⟩ := Outcome.bind_eq_ok.mp read
  refine readTokens_induct (Given.Fits command) ?_ ?_ (Token.classifyAll_nullFree plain classified) read ?_
  · exact fun given name others before text plain fits => fits_place before plain fits
  · exact fun given next places option text plain set fits => fits_set plain set fits
  · exact ⟨⟨by simp, by simp⟩, fun place member => .inl member⟩

/-! ## The whole line -/

theorem requestOf_fits {extra : List String} (plain : ∀ argument ∈ arguments, NullFree argument)
    {called : CommandName} (asked : requestOf runtime extra called arguments = .ok (.run command given)) :
    given.Fits command [] := by
  obtain ⟨reading, read, asked⟩ := Outcome.bind_eq_ok.mp asked
  split at asked
  · cases asked
  · split at asked
    · cases asked
      exact read_fits plain (Outcome.mapError_eq_ok.mp read)
    · cases asked

theorem readLine_fits {extra : List String} (plain : ∀ argument ∈ arguments, NullFree argument)
    (asked : readLine runtime extra arguments = .ok (.run command given)) : given.Fits command [] := by
  induction arguments generalizing extra with
  | nil => cases asked
  | cons argument rest ih =>
    obtain ⟨-, tail⟩ := List.forall_mem_cons.mp plain
    obtain ⟨token, classified, asked⟩ := Outcome.bind_eq_ok.mp asked
    split at asked
    · split at asked
      · exact requestOf_fits tail asked
      · cases asked
    · split at asked <;> cases asked
    · exact ih tail asked
    · obtain ⟨_, _, asked⟩ := Outcome.bind_eq_ok.mp asked
      cases asked

/-- A run that is asked for has a word in each of its places and proper paths. -/
theorem ofArguments_fits (plain : ∀ argument ∈ arguments, NullFree argument)
    (asked : Request.ofArguments runtime arguments = .ok (.run command given)) : given.Fits command [] :=
  readLine_fits plain asked

end PlantDrawing
