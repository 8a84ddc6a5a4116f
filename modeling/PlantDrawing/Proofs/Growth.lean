import Mathlib.Algebra.Group.Nat.Defs
import Mathlib.Order.Monotone.Basic
import PlantDrawing.Proofs.Derivations

/-!
# Growth of words

A generation has at most as many symbols as the one before it times the growth factor of the
grammar (`Rules.length_substitute_le`), and if no rule deletes its symbol it has at least as many
(`Rules.length_le_substitute`). A symbol that brings itself back several times multiplies with
every generation (`Rules.pow_le_count_generation`). The `Journal` of an expansion holds every word that it builds, the
one that it stops at among them. Under a limit only words within the limit are substituted, so all
words of the journal are within the limit times the growth factor (`Grammar.length_of_journal`);
these bounds are put together in `Grammar.expansion_growth`. A grammar that keeps all symbols and
brings one of its start word back with others (`Grammar.Growing`) has longer words in every
generation (`Grammar.Growing.length_lt`).
-/
namespace PlantDrawing

namespace Rules

variable {rules : Rules} {factor : Nat} {word : Word} {symbol : Char}

theorem length_substitute_le (bounded : ∀ symbol, (rules.replacement symbol).length ≤ factor) (word : Word) :
    (rules.substitute word).length ≤ word.length * factor := by
  induction word with
  | nil => simp
  | cons symbol word ih =>
    have first := bounded symbol
    rw [substitute_cons, List.length_append, List.length_cons, Nat.succ_mul]
    omega

theorem length_generation_le (bounded : ∀ symbol, (rules.replacement symbol).length ≤ factor) (count : Nat)
    (word : Word) : (rules.generation count word).length ≤ word.length * factor ^ count := by
  induction count with
  | zero => simp [generation]
  | succ count ih =>
    rw [generation_succ]
    calc (rules.substitute (rules.generation count word)).length
        ≤ (rules.generation count word).length * factor := length_substitute_le bounded _
      _ ≤ word.length * factor ^ count * factor := Nat.mul_le_mul_right factor ih
      _ = word.length * factor ^ (count + 1) := by rw [Nat.pow_succ, Nat.mul_assoc]

/-! ## Rules that delete nothing -/

/-- No symbol is deleted. -/
def KeepsAll (rules : Rules) : Prop :=
  ∀ rule ∈ rules.entries, rule.replacement ≠ []

instance (rules : Rules) : Decidable rules.KeepsAll :=
  inferInstanceAs (Decidable (∀ rule ∈ rules.entries, rule.replacement ≠ []))

theorem length_replacement_pos (keeps : rules.KeepsAll) (symbol : Char) :
    0 < (rules.replacement symbol).length := by
  rcases rules.replacement_cases symbol with kept | ⟨rule, member, -, replaced⟩
  · simp [kept]
  · rw [replaced]
    exact List.length_pos_iff.mpr (keeps rule member)

theorem length_le_substitute (keeps : rules.KeepsAll) (word : Word) :
    word.length ≤ (rules.substitute word).length := by
  induction word with
  | nil => simp
  | cons symbol word ih =>
    have first := length_replacement_pos keeps symbol
    rw [substitute_cons, List.length_append, List.length_cons]
    omega

/-- A symbol that becomes more than one makes the next generation longer. -/
theorem length_lt_substitute (keeps : rules.KeepsAll) (member : symbol ∈ word)
    (several : 2 ≤ (rules.replacement symbol).length) : word.length < (rules.substitute word).length := by
  obtain ⟨before, after, rfl⟩ := List.append_of_mem member
  have left := length_le_substitute keeps before
  have right := length_le_substitute keeps after
  simp only [substitute_append, substitute_cons, List.length_append, List.length_cons]
  omega

theorem monotone_length_generation (keeps : rules.KeepsAll) (word : Word) :
    Monotone fun count => (rules.generation count word).length := by
  refine monotone_nat_of_le_succ fun count => ?_
  rw [generation_succ]
  exact length_le_substitute keeps _

/-- A symbol that brings itself back is in every generation. -/
theorem mem_generation_of_renewed (renewed : symbol ∈ rules.replacement symbol) (member : symbol ∈ word)
    (count : Nat) : symbol ∈ rules.generation count word := by
  induction count with
  | zero => exact member
  | succ count ih =>
    rw [generation_succ]
    exact List.mem_flatMap.mpr ⟨symbol, ih, renewed⟩

/-- A symbol that brings itself back several times multiplies with every generation. -/
theorem pow_le_count_generation {times : Nat} (several : times ≤ (rules.replacement symbol).count symbol) (count : Nat)
    (word : Word) : times ^ count * word.count symbol ≤ (rules.generation count word).count symbol := by
  have multiplied (word : Word) : times * word.count symbol ≤ (rules.substitute word).count symbol := by
    induction word with
    | nil => simp
    | cons first word ih =>
      rw [substitute_cons, List.count_append, List.count_cons, Nat.mul_add]
      by_cases same : first = symbol
      · subst same
        simp only [beq_self_eq_true, if_true, Nat.mul_one]
        omega
      · simp only [beq_iff_eq, same, if_false, Nat.mul_zero]
        omega
  induction count with
  | zero => simp [generation]
  | succ count ih =>
    rw [generation_succ]
    calc times ^ (count + 1) * word.count symbol
        = times * (times ^ count * word.count symbol) := by rw [Nat.pow_succ, Nat.mul_comm (times ^ count), Nat.mul_assoc]
      _ ≤ times * (rules.generation count word).count symbol := Nat.mul_le_mul_left times ih
      _ ≤ (rules.substitute (rules.generation count word)).count symbol := multiplied _

end Rules

namespace Grammar

/-! ## The growth factor -/

theorem foldl_longest_le {rules : List Rule} {least bound : Nat} :
    rules.foldl (fun longest rule => max longest rule.replacement.length) least ≤ bound ↔
      least ≤ bound ∧ ∀ rule ∈ rules, rule.replacement.length ≤ bound := by
  induction rules generalizing least with
  | nil => simp
  | cons rule rest ih => rw [List.foldl_cons, ih, List.forall_mem_cons, Nat.max_le, and_assoc]

/-- The growth factor is the least number that is at least one and at least the length of every
    replacement. -/
theorem growthFactor_le {grammar : Grammar} {bound : Nat} :
    grammar.growthFactor ≤ bound ↔
      1 ≤ bound ∧ ∀ rule ∈ grammar.rules.entries, rule.replacement.length ≤ bound :=
  foldl_longest_le

theorem one_le_growthFactor (grammar : Grammar) : 1 ≤ grammar.growthFactor :=
  (growthFactor_le.mp (Nat.le_refl _)).1

theorem length_replacement_le (grammar : Grammar) (symbol : Char) :
    (grammar.rules.replacement symbol).length ≤ grammar.growthFactor := by
  rcases grammar.rules.replacement_cases symbol with kept | ⟨rule, member, -, replaced⟩
  · rw [kept]
    exact one_le_growthFactor grammar
  · rw [replaced]
    exact (growthFactor_le.mp (Nat.le_refl _)).2 rule member

/-! ## Journals -/

/-- The words that an expansion builds, in their order, and its outcome. -/
structure Journal where
  built : List Word
  outcome : Except Fault Word

/-- The journal of `expandFrom`. The word that exceeds the limit is built before it is seen to. -/
def journalFrom (grammar : Grammar) (limit : Option Int) (requested : Nat) :
    (remaining done : Nat) → Word → Journal
  | 0, _, word => ⟨[], .ok word⟩
  | remaining + 1, done, word =>
    let next := grammar.rules.substitute word
    match exceeded? limit next with
    | some bound => ⟨[next], .error (.expansionLimit grammar.name bound (done + 1) requested)⟩
    | none =>
      let later := journalFrom grammar limit requested remaining (done + 1) next
      ⟨next :: later.built, later.outcome⟩

/-- The journal of an expansion. -/
def journal (grammar : Grammar) (count : Nat) (limit : Option Int) : Journal :=
  journalFrom grammar limit count count 0 grammar.start

variable {grammar : Grammar} {limit : Option Int} {requested remaining done count generation : Nat}
  {word entry : Word} {bound : Int}

theorem journalFrom_of_exceeded (stopped : exceeded? limit (grammar.rules.substitute word) = some bound) :
    grammar.journalFrom limit requested (remaining + 1) done word =
      ⟨[grammar.rules.substitute word],
        .error (.expansionLimit grammar.name bound (done + 1) requested)⟩ := by
  simp only [journalFrom, stopped]

theorem journalFrom_of_within (within : exceeded? limit (grammar.rules.substitute word) = none) :
    grammar.journalFrom limit requested (remaining + 1) done word =
      ⟨grammar.rules.substitute word ::
          (grammar.journalFrom limit requested remaining (done + 1) (grammar.rules.substitute word)).built,
        (grammar.journalFrom limit requested remaining (done + 1) (grammar.rules.substitute word)).outcome⟩ := by
  simp only [journalFrom, within]

theorem journalFrom_outcome :
    (grammar.journalFrom limit requested remaining done word).outcome =
      grammar.expandFrom limit requested remaining done word := by
  induction remaining generalizing done word with
  | zero => rfl
  | succ remaining ih =>
    rw [expandFrom]
    cases stopped : exceeded? limit (grammar.rules.substitute word) with
    | some bound => rw [journalFrom_of_exceeded stopped]
    | none =>
      rw [journalFrom_of_within stopped]
      exact ih

/-- The outcome of the journal is that of the expansion. -/
theorem journal_outcome : (grammar.journal count limit).outcome = grammar.expandCounted (.int count) limit :=
  journalFrom_outcome.trans expandCounted_count.symm

/-- The words that are built are the first generations: as many as are asked for if the expansion
    succeeds, else up to the one that the fault names. -/
theorem journalFrom_built (grammar : Grammar) (limit : Option Int) (requested remaining done : Nat) (word : Word) :
    ∃ made, (grammar.journalFrom limit requested remaining done word).built =
        (List.range made).map (fun before => grammar.rules.generation (before + 1) word) ∧
      (∀ result, (grammar.journalFrom limit requested remaining done word).outcome = .ok result →
        made = remaining) ∧
      ∀ bound generation, (grammar.journalFrom limit requested remaining done word).outcome =
        .error (.expansionLimit grammar.name bound generation requested) → generation = done + made := by
  induction remaining generalizing done word with
  | zero => exact ⟨0, rfl, fun _ _ => rfl, nofun⟩
  | succ remaining ih =>
    cases stopped : exceeded? limit (grammar.rules.substitute word) with
    | some bound =>
      rw [journalFrom_of_exceeded stopped]
      refine ⟨1, rfl, nofun, ?_⟩
      rintro _ _ ⟨⟩
      rfl
    | none =>
      rw [journalFrom_of_within stopped]
      obtain ⟨made, built, succeeds, fails⟩ := ih (done + 1) (grammar.rules.substitute word)
      refine ⟨made + 1, ?_, fun result ended => congrArg Nat.succ (succeeds result ended), ?_⟩
      · rw [built, List.range_succ_eq_map, List.map_cons, List.map_map]
        rfl
      · intro bound generation ended
        rw [fails bound generation ended]
        omega

theorem journal_built (grammar : Grammar) (count : Nat) (limit : Option Int) :
    ∃ made, (grammar.journal count limit).built =
        (List.range made).map (fun before => grammar.rules.generation (before + 1) grammar.start) ∧
      (∀ final, grammar.expand count limit = .ok final → made = count) ∧
      ∀ bound generation, grammar.expand count limit =
        .error (.expansionLimit grammar.name bound generation count) → made = generation := by
  obtain ⟨made, built, succeeds, fails⟩ := journalFrom_built grammar limit count count 0 grammar.start
  rw [journalFrom_outcome] at succeeds fails
  refine ⟨made, built, succeeds, fun bound generation failed => ?_⟩
  rw [fails bound generation failed, Nat.zero_add]

/-- A word is only substituted if it is the first one or within the limit. -/
theorem length_of_journalFrom {most : Int} (start : (word.length : Int) ≤ most) (limited : bound ≤ most)
    (member : entry ∈ (grammar.journalFrom (some bound) requested remaining done word).built) :
    (entry.length : Int) ≤ most * grammar.growthFactor := by
  induction remaining generalizing done word with
  | zero => cases member
  | succ remaining ih =>
    have next : ((grammar.rules.substitute word).length : Int) ≤ most * grammar.growthFactor := by
      have grown := Rules.length_substitute_le grammar.length_replacement_le word
      calc ((grammar.rules.substitute word).length : Int)
          ≤ word.length * grammar.growthFactor := by exact_mod_cast grown
        _ ≤ most * grammar.growthFactor := Int.mul_le_mul_of_nonneg_right start (Int.natCast_nonneg _)
    cases stopped : exceeded? (some bound) (grammar.rules.substitute word) with
    | some exceeded =>
      rw [journalFrom_of_exceeded stopped] at member
      rw [List.mem_singleton.mp member]
      exact next
    | none =>
      rw [journalFrom_of_within stopped] at member
      have within := not_exceeds_iff.mp (exceeded?_eq_none.mp stopped) bound rfl
      rcases List.mem_cons.mp member with rfl | later
      · exact next
      · exact ih (Int.le_trans within limited) later

theorem length_of_journal (member : entry ∈ (grammar.journal count (some bound)).built) :
    (entry.length : Int) ≤ max (grammar.start.length : Int) bound * grammar.growthFactor :=
  length_of_journalFrom (Int.le_max_left _ _) (Int.le_max_right _ _) member

/-! ## Expansions with room -/

theorem expand_of_room (room : ((grammar.start.length * grammar.growthFactor ^ count : Nat) : Int) ≤ bound) :
    grammar.expand count (some bound) = .ok (grammar.rules.generation count grammar.start) := by
  refine expand_eq_ok.mpr ⟨rfl, fun later _ most => not_exceeds_iff.mpr ?_⟩
  rintro _ ⟨⟩
  have grown := Rules.length_generation_le grammar.length_replacement_le later grammar.start
  have raised : grammar.growthFactor ^ later ≤ grammar.growthFactor ^ count :=
    Nat.pow_le_pow_right (one_le_growthFactor grammar) most
  exact Int.le_trans (Int.ofNat_le.mpr (Nat.le_trans grown (Nat.mul_le_mul_left _ raised))) room

/-- If words never get shorter the last one tells whether all were within the limit. -/
theorem expand_succeeds_iff (keeps : grammar.rules.KeepsAll) (least : 1 ≤ count) :
    (∃ final, grammar.expand count (some bound) = .ok final) ↔
      ((grammar.rules.generation count grammar.start).length : Int) ≤ bound := by
  constructor
  · rintro ⟨final, expanded⟩
    have within := (expand_eq_ok.mp expanded).2 count least (Nat.le_refl count)
    exact not_exceeds_iff.mp within bound rfl
  · intro room
    refine ⟨_, expand_eq_ok.mpr ⟨rfl, fun later _ most => not_exceeds_iff.mpr ?_⟩⟩
    rintro _ ⟨⟩
    exact Int.le_trans (Int.ofNat_le.mpr (Rules.monotone_length_generation keeps grammar.start most)) room

/-- An expansion has at most as many symbols as the start word times a power of the growth factor,
    whatever the rules delete or leave alone, and succeeds under every limit that has room for so
    many. Under any limit the words that it builds are the generations up to the last one asked for,
    or up to the one it fails in, and none has more symbols than the start word or the limit allows,
    times the growth factor. If no rule deletes its symbol, words never get shorter, and then an
    expansion by at least one generation succeeds exactly if its last word is within the limit. -/
theorem expansion_growth (grammar : Grammar) (count : Nat) :
    ∃ word, grammar.expandCounted (.int count) none = .ok word ∧
      word.length ≤ grammar.start.length * grammar.growthFactor ^ count ∧
      (∀ bound : Int, ((grammar.start.length * grammar.growthFactor ^ count : Nat) : Int) ≤ bound →
        grammar.expandCounted (.int count) (some bound) = .ok word) ∧
      (∀ bound : Int, ∃ made, (grammar.journal count (some bound)).built =
          (List.range made).map (fun before => grammar.rules.generation (before + 1) grammar.start) ∧
        (∀ final, grammar.expandCounted (.int count) (some bound) = .ok final → made = count) ∧
        (∀ generation, grammar.expandCounted (.int count) (some bound) =
          .error (.expansionLimit grammar.name bound generation count) → made = generation) ∧
        ∀ entry ∈ (grammar.journal count (some bound)).built,
          (entry.length : Int) ≤ max (grammar.start.length : Int) bound * grammar.growthFactor) ∧
      (grammar.rules.KeepsAll →
        (∃ next, grammar.expandCounted (.int (count + 1 : Nat)) none = .ok next ∧ word.length ≤ next.length) ∧
        ∀ bound : Int, 1 ≤ count →
          ((∃ final, grammar.expandCounted (.int count) (some bound) = .ok final) ↔
            (word.length : Int) ≤ bound)) := by
  have unlimited (made : Nat) :
      grammar.expandCounted (.int made) none = .ok (grammar.rules.generation made grammar.start) :=
    expandCounted_count.trans expand_unlimited
  refine ⟨_, unlimited count, ?_, fun bound room => ?_, fun bound => ?_, fun keeps =>
    ⟨⟨_, unlimited (count + 1), ?_⟩, fun bound least => ?_⟩⟩
  · exact Rules.length_generation_le grammar.length_replacement_le count grammar.start
  · exact expandCounted_count.trans (expand_of_room room)
  · obtain ⟨made, built, succeeds, fails⟩ := journal_built grammar count (some bound)
    rw [expandCounted_count]
    exact ⟨made, built, succeeds, fails bound, fun entry member => length_of_journal member⟩
  · exact Rules.monotone_length_generation keeps grammar.start (Nat.le_succ count)
  · rw [expandCounted_count]
    exact expand_succeeds_iff keeps least

/-- Two generations of the weed have room in twelve times twelve symbols. Under a limit of twenty
    the second is built and has at most twenty times twelve symbols, but it is refused. -/
theorem weed_growth :
    ((Catalog.weed.start.length * Catalog.weed.growthFactor ^ 2 : Nat) : Int) ≤ 144 ∧
      Catalog.weed.rules.KeepsAll ∧ 1 ≤ 2 ∧
      ∃ word, Catalog.weed.expandCounted (.int (2 : Nat)) (some 144) = .ok word ∧
        word ∈ (Catalog.weed.journal 2 (some 20)).built ∧ (word.length : Int) ≤ 20 * 12 ∧
        ¬ ∃ final, Catalog.weed.expandCounted (.int (2 : Nat)) (some 20) = .ok final := by
  have room : ((Catalog.weed.start.length * Catalog.weed.growthFactor ^ 2 : Nat) : Int) ≤ 144 := by decide
  have keeps : Catalog.weed.rules.KeepsAll := by decide
  obtain ⟨word, expanded, -, roomy, journals, kept⟩ := expansion_growth Catalog.weed 2
  obtain rfl : Word.ofText "FF[+F[+X]F[-X]+X]FF[-F[+X]F[-X]+X]+F[+X]F[-X]+X" = word := Except.ok.inj expanded
  have built : Word.ofText "FF[+F[+X]F[-X]+X]FF[-F[+X]F[-X]+X]+F[+X]F[-X]+X" ∈
      (Catalog.weed.journal 2 (some 20)).built := by decide
  refine ⟨room, keeps, by decide, _, roomy 144 room, built, ?_, ?_⟩
  · obtain ⟨made, -, -, -, small⟩ := journals 20
    exact small _ built
  · exact fun succeeds => absurd (((kept keeps).2 20 (by decide)).mp succeeds) (by decide)

/-! ## Grammars that always grow -/

/-- A grammar that deletes no symbol and brings one of its start word back along with others. -/
structure Growing (grammar : Grammar) : Prop where
  keeps : grammar.rules.KeepsAll
  renews : ∃ symbol ∈ grammar.start, symbol ∈ grammar.rules.replacement symbol ∧
    2 ≤ (grammar.rules.replacement symbol).length

namespace Growing

/-- Every generation is longer than the one before. -/
theorem length_lt (growing : grammar.Growing) (count : Nat) :
    (grammar.rules.generation count grammar.start).length <
      (grammar.rules.generation (count + 1) grammar.start).length := by
  obtain ⟨symbol, member, renewed, several⟩ := growing.renews
  rw [Rules.generation_succ]
  exact Rules.length_lt_substitute growing.keeps (Rules.mem_generation_of_renewed renewed member count) several

theorem lt_length (growing : grammar.Growing) (count : Nat) :
    count < (grammar.rules.generation count grammar.start).length := by
  obtain ⟨symbol, member, -⟩ := growing.renews
  have first : 0 < grammar.start.length := List.length_pos_of_mem member
  have grown := (strictMono_nat_of_lt_succ growing.length_lt).add_le_nat count 0
  rw [Nat.add_zero, Rules.generation] at grown
  omega

/-- The first generation, or the one of the limit's own number, exceeds the limit. -/
theorem exceeds (growing : grammar.Growing) (bound : Int) :
    (grammar.rules.generation (max 1 bound).toNat grammar.start).Exceeds (some bound) := by
  have long := growing.lt_length (max 1 bound).toNat
  exact ⟨bound, rfl, by omega⟩

theorem count_lt (growing : grammar.Growing) (expanded : grammar.expand count (some bound) = .ok word) :
    (count : Int) < max 1 bound := by
  refine Int.not_le.mp fun many => ?_
  exact (expand_eq_ok.mp expanded).2 (max 1 bound).toNat (by omega) (by omega) (growing.exceeds bound)

theorem generation_le (growing : grammar.Growing)
    (failed : grammar.expand count (some bound) =
      .error (.expansionLimit grammar.name bound generation count)) : (generation : Int) ≤ max 1 bound := by
  obtain ⟨-, least, -, -, within⟩ := expand_fails_iff.mp failed
  refine Int.not_lt.mp fun later => ?_
  exact within (max 1 bound).toNat (by omega) (by omega) (growing.exceeds bound)

/-- An expansion under a limit is stopped no later than the generation of the limit's number, or
    it is by fewer generations. -/
theorem expand_stops (growing : grammar.Growing) (count : Nat) (bound : Int) :
    (∃ generation : Nat, 1 ≤ generation ∧ generation ≤ count ∧ (generation : Int) ≤ max 1 bound ∧
        grammar.expand count (some bound) = .error (.expansionLimit grammar.name bound generation count)) ∨
      (count : Int) < max 1 bound ∧ ∃ word, grammar.expand count (some bound) = .ok word := by
  cases expanded : grammar.expand count (some bound) with
  | ok word => exact .inr ⟨growing.count_lt expanded, word, rfl⟩
  | error fault =>
    obtain ⟨other, generation, limited, least, most, rfl, -⟩ := expand_eq_error.mp expanded
    cases limited
    exact .inl ⟨generation, least, most, growing.generation_le expanded, rfl⟩

/-- Under a limit no expansion builds more words than the limit allows symbols. -/
theorem length_built_le (growing : grammar.Growing) (count : Nat) (bound : Int) :
    ((grammar.journal count (some bound)).built.length : Int) ≤ max 1 bound := by
  obtain ⟨made, built, succeeds, fails⟩ := journal_built grammar count (some bound)
  rw [built, List.length_map, List.length_range]
  rcases growing.expand_stops count bound with ⟨generation, -, -, most, failed⟩ | ⟨few, word, expanded⟩
  · rw [fails bound generation failed]
    exact most
  · rw [succeeds word expanded]
    exact Int.le_of_lt few

end Growing

end Grammar

end PlantDrawing
