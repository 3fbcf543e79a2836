import Mathlib.Data.List.Forall2
import Lindenmayer.Settings
import Lindenmayer.Proofs.Cleaning
import Lindenmayer.Proofs.Numerals
import Lindenmayer.Proofs.Outcomes

/-!
Settings from any environment. Three variables hold integers, and settings are read just if each of them is absent or
blank or denotes an integer above zero; else the first that does not is named (`settings_configured`). What a variable
says is its value without marks and blanks before it and blanks behind it, unless a mark stands behind a blank there:
such a mark is kept and makes an integer unreadable (`buried_unread`).
-/
namespace Lindenmayer.Configuring
open Text Environment Cleaning Numerals Outcomes

/-- The value that a variable is found with: the one under its own name, or else the one under its name with a
    byte-order mark before it. -/
def found? (e : Environment) (name : Text) : Option Text := (e.get? name).or (e.get? (byteOrderMark :: name))

/-- No mark stands behind a blank before the value of a variable. -/
def Clear (e : Environment) (name : Text) : Prop := ∀ value ∈ found? e name, ¬ Buried value

instance (e : Environment) (name : Text) : Decidable (Clear e name) := inferInstanceAs (Decidable (∀ _ ∈ found? e name, _))

/-- What a variable says, nothing if it is absent or blank. -/
def said (e : Environment) (name : Text) : Text := ((found? e name).map bare).getD []

/-- What is read of a variable, nothing if it is absent or blank. -/
def kept (e : Environment) (name : Text) : Text := (e.lookup name).getD []

/-- What is read of a variable, or what stands in for nothing. -/
def chosen (e : Environment) (name : String) (usual : Text) : Text := if kept e (ofString name) = [] then usual else kept e (ofString name)

/-- A text says nothing, or is that of an integer above zero. -/
def Counts (usual : Int) (text : Text) (n : Int) : Prop := text = [] ∧ n = usual ∨ Denotes (text.map Fin.val) n ∧ 1 ≤ n

/-- A variable stands for an integer above zero. -/
def Reads (e : Environment) (name : String) (usual n : Int) : Prop := Clear e (ofString name) ∧ Counts usual (said e (ofString name)) n

/-- Why a variable stands for no integer above zero. -/
inductive Faulty (e : Environment) (name : String) : Failure → Prop where
  | word (wrong : ¬ Clear e (ofString name) ∨ said e (ofString name) ≠ [] ∧ ∀ n, ¬ Denotes ((said e (ofString name)).map Fin.val) n) :
      Faulty e name (.settingNotInteger name (kept e (ofString name)))
  | small {n : Int} (clear : Clear e (ofString name)) (denotes : Denotes ((said e (ofString name)).map Fin.val) n) (below : n < 1) :
      Faulty e name (.settingNotPositive name n)

/-- A failure rejects a variable, and names it first. -/
structure Rejects (name : String) (failure : Failure) : Prop where
  category : failure.category = .rejected
  message : ∃ rest, failure.message = name ++ rest
  short : ∀ n, failure = .settingNotPositive name n → n.natAbs < 10 ^ digitLimit

/-- The variables that hold integers, in the order in which they are read, with what stands in for each. -/
def counts : List (String × Int) := [("LSYSTEM_MAX_ITERATIONS", 10), ("LSYSTEM_MAX_SYMBOLS", 2000000), ("LSYSTEM_IMAGE_SIZE", 800)]

/-- All variables that are read. -/
def names : List String := counts.map Prod.fst ++ ["LSYSTEM_OUTPUT_DIR", "LOG_LEVEL"]

/-- Settings are what the variables stand for. -/
structure Loads (e : Environment) (s : Settings) : Prop where
  maxIterations : Reads e "LSYSTEM_MAX_ITERATIONS" 10 s.maxIterations
  maxSymbols : Reads e "LSYSTEM_MAX_SYMBOLS" 2000000 s.maxSymbols
  imageSize : Reads e "LSYSTEM_IMAGE_SIZE" 800 s.imageSize
  outputDir : s.outputDir = chosen e "LSYSTEM_OUTPUT_DIR" (ofString "static")
  logLevel : s.logLevel = upper (chosen e "LOG_LEVEL" (ofString "INFO"))

/-- The same variables, with marks and blanks put before their values and blanks behind them. -/
def Surrounded (e padded : Environment) : Prop := List.Forall₂ (fun v w => w.1 = v.1 ∧ Padded v.2 w.2) e padded

variable {e padded : Environment} {name : Text}

/-! ### What a variable says -/

theorem lookup_found (e : Environment) (name : Text) : e.lookup name = (found? e name).map cleaned := by
  rw [lookup, found?]
  cases e.get? name with
  | none | some => rfl

theorem trim_kept (e : Environment) (name : Text) : trim (kept e name) = kept e name := by
  rw [kept, lookup_found]
  cases found? e name with
  | none => rfl
  | some value => exact trim_cleaned value

/-- What is read is what is said, unless a mark is buried. -/
theorem lookup_bare : e.lookup name = (found? e name).map bare ↔ Clear e name := by
  rw [lookup_found, Clear]
  cases found? e name with
  | none => exact ⟨fun _ => nofun, fun _ => rfl⟩
  | some value => simp [cleaned_bare]

theorem kept_said (clear : Clear e name) : kept e name = said e name := by rw [kept, lookup_bare.mpr clear, said]

theorem lookup_head {value : Text} (read : e.lookup name = some value) :
    (∀ c ∈ value.head?, isSpace c = false) ∧ (byteOrderMark ∈ value.head? ↔ ¬ Clear e name) := by
  rw [lookup_found] at read
  obtain ⟨held, found, rfl⟩ := Option.map_eq_some_iff.mp read
  refine ⟨(cleaned_head held).1, (cleaned_head held).2.trans ?_⟩
  simp [Clear, found]

/-- A buried mark is read, and begins no integer. -/
theorem kept_unread (buried : ¬ Clear e name) : kept e name ≠ [] ∧ ∀ n, ¬ Denotes ((kept e name).map Fin.val) n := by
  have first : (kept e name).head? = some byteOrderMark := by
    rw [kept]
    cases read : e.lookup name with
    | none =>
      rw [lookup_found, Option.map_eq_none_iff] at read
      rw [Clear, read] at buried
      exact absurd nofun buried
    | some value => exact (lookup_head read).2.mpr buried
  constructor
  · intro nothing
    rw [nothing] at first
    cases first
  · intro n denotes
    obtain ⟨c, begins, sort⟩ := denotes.begins
    rw [List.head?_map, first] at begins
    obtain rfl := Option.some_inj.mp begins
    have none_ : digit? byteOrderMark.val = none := by decide
    rw [none_] at sort
    rcases sort with ⟨⟨⟩⟩ | ⟨⟨⟩⟩ | ⟨_, ⟨⟩⟩

theorem given_kept (e : Environment) (name : String) :
    e.given? name = if kept e (ofString name) = [] then none else some (kept e (ofString name)) := by
  rw [given?, kept]
  cases e.lookup (ofString name) with
  | none => rfl
  | some text =>
    cases text with
    | nil | cons => rfl

/-! ### Integers -/

theorem integer_kept {n : Int} : integer? (kept e name) = some n ↔ Denotes ((kept e name).map Fin.val) n := by
  rw [integer_denotes, trim_kept]

/-- What is read of a variable decides on its integer. -/
theorem positive_kept (e : Environment) (name : String) (usual : Int) :
    (∀ n, Settings.positive e name usual = .ok n ↔ Counts usual (kept e (ofString name)) n) ∧
      ∀ failure, Settings.positive e name usual = .error failure ↔
        (kept e (ofString name) ≠ [] ∧ ∀ n, ¬ Denotes ((kept e (ofString name)).map Fin.val) n) ∧
          failure = .settingNotInteger name (kept e (ofString name)) ∨
        ∃ n, Denotes ((kept e (ofString name)).map Fin.val) n ∧ n < 1 ∧ failure = .settingNotPositive name n := by
  have read (n : Int) : integer? (kept e (ofString name)) = some n ↔ Denotes ((kept e (ofString name)).map Fin.val) n := integer_kept
  rw [Settings.positive, given_kept]
  generalize kept e (ofString name) = text at *
  by_cases nothing : text = []
  · have unread (n : Int) : ¬ Denotes [] n := by
      intro denotes
      obtain ⟨_, ⟨⟩, -⟩ := denotes.begins
    simp [Counts, nothing, unread, eq_comm]
  · rw [if_neg nothing]
    dsimp only
    cases found : integer? text with
    | none =>
      have unread (n : Int) : ¬ Denotes (text.map Fin.val) n := by
        rw [← read, found]
        exact nofun
      simp [Counts, nothing, unread, eq_comm]
    | some m =>
      have only (n : Int) : Denotes (text.map Fin.val) n ↔ m = n := by rw [← read, found, Option.some_inj]
      dsimp only
      by_cases below : m ≤ 0
      · rw [if_pos below]
        simp only [Counts, nothing, only, false_and, false_or, reduceCtorEq, false_iff, Except.error.injEq]
        refine ⟨fun n => ?_, fun failure => ?_⟩
        · omega
        · simp [Int.lt_iff_add_one_le, below, eq_comm]
      · rw [if_neg below]
        simp only [Counts, nothing, only, false_and, false_or, reduceCtorEq, false_iff, Except.ok.injEq]
        refine ⟨fun n => ?_, fun failure => ?_⟩
        · omega
        · simp [Int.lt_iff_add_one_le, below]

theorem positive_ok {name : String} {usual n : Int} : Settings.positive e name usual = .ok n ↔ Reads e name usual n := by
  rw [(positive_kept e name usual).1, Reads]
  by_cases clear : Clear e (ofString name)
  · rw [kept_said clear, and_iff_right clear]
  · obtain ⟨some_, unread⟩ := kept_unread clear
    simp [Counts, clear, some_, unread]

theorem positive_error {name : String} {usual : Int} {failure : Failure} :
    Settings.positive e name usual = .error failure ↔ Faulty e name failure := by
  rw [(positive_kept e name usual).2]
  constructor
  · rintro (⟨unread, rfl⟩ | ⟨n, denotes, below, rfl⟩)
    · refine .word ?_
      by_cases clear : Clear e (ofString name)
      · exact .inr (kept_said clear ▸ unread)
      · exact .inl clear
    · have clear : Clear e (ofString name) := by
        by_contra buried
        exact (kept_unread buried).2 n denotes
      exact .small clear (kept_said clear ▸ denotes) below
  · rintro (⟨buried | unread⟩ | ⟨clear, denotes, below⟩)
    · exact .inl ⟨kept_unread buried, rfl⟩
    · by_cases clear : Clear e (ofString name)
      · exact .inl ⟨(kept_said clear).symm ▸ unread, rfl⟩
      · exact .inl ⟨kept_unread clear, rfl⟩
    · exact .inr ⟨_, (kept_said clear).symm ▸ denotes, below, rfl⟩

theorem Faulty.rejects {name : String} {failure : Failure} (faulty : Faulty e name failure) : Rejects name failure := by
  cases faulty with
  | word => exact ⟨rfl, ⟨_, String.append_assoc ..⟩, nofun⟩
  | small _ denotes =>
    refine ⟨rfl, ⟨_, String.append_assoc ..⟩, ?_⟩
    rintro _ ⟨⟩
    exact denotes.short

/-! ### Settings -/

theorem ofEnvironment_ok {s : Settings} : Settings.ofEnvironment e = .ok s ↔ Loads e s := by
  have text (name : String) (usual : Text) : (e.given? name).getD usual = chosen e name usual := by
    rw [given_kept, chosen]
    split
    · rfl
    · rfl
  rw [Settings.ofEnvironment, text, text]
  constructor
  · intro loaded
    obtain ⟨first, one, loaded⟩ := bind_ok.mp loaded
    obtain ⟨second, two, loaded⟩ := bind_ok.mp loaded
    obtain ⟨third, three, loaded⟩ := bind_ok.mp loaded
    cases loaded
    exact ⟨positive_ok.mp one, positive_ok.mp two, positive_ok.mp three, rfl, rfl⟩
  · rintro ⟨one, two, three, output, level⟩
    refine bind_ok.mpr ⟨_, positive_ok.mpr one, bind_ok.mpr ⟨_, positive_ok.mpr two, bind_ok.mpr ⟨_, positive_ok.mpr three, ?_⟩⟩⟩
    obtain ⟨_, _, _, _, _⟩ := s
    cases output
    cases level
    rfl

/-- Nothing but a variable of an integer makes settings unreadable, and the first that does is told of. -/
theorem ofEnvironment_error {failure : Failure} : Settings.ofEnvironment e = .error failure ↔
    ∃ before c after, counts = before ++ c :: after ∧ (∀ earlier ∈ before, ∃ n, Reads e earlier.1 earlier.2 n) ∧ Faulty e c.1 failure := by
  have listed : Settings.ofEnvironment e = .error failure ↔ counts.mapM (fun c => Settings.positive e c.1 c.2) = .error failure := by
    have done {α : Type} (a : α) : (pure a : Except Failure α) ≠ .error failure := nofun
    simp only [Settings.ofEnvironment, Settings.usual, counts, List.mapM_cons, List.mapM_nil, bind_error, done, and_false, exists_const, or_false]
  simp only [listed, mapM_error, positive_ok, positive_error]

/-! ### Marks and blanks around values -/

theorem found_surrounded (more : Surrounded e padded) (name : Text) : (found? padded name).map bare = (found? e name).map bare := by
  have same (name : Text) : (padded.get? name).map bare = (e.get? name).map bare := by
    induction more with
    | nil => rfl
    | @cons v w _ _ here _ ih =>
      rw [get?, get?, List.find?_cons, List.find?_cons, here.1]
      by_cases named : (v.1 == name) = true
      · rw [named]
        exact congrArg some (bare_padded here.2)
      · rw [Bool.not_eq_true] at named
        rw [named]
        exact ih
  rw [found?, found?, Option.map_or, Option.map_or, same, same]

theorem lookup_surrounded (more : Surrounded e padded) (clear : Clear e name) : padded.lookup name = e.lookup name ↔ Clear padded name := by
  rw [lookup_bare.mpr clear, ← found_surrounded more, lookup_bare]

theorem ofEnvironment_surrounded (more : Surrounded e padded) (clear : ∀ name ∈ names, Clear e (ofString name) ∧ Clear padded (ofString name)) :
    Settings.ofEnvironment padded = Settings.ofEnvironment e := by
  have given : ∀ name ∈ names, padded.given? name = e.given? name := fun name listed => by
    rw [given?, given?, (lookup_surrounded more (clear name listed).1).mpr (clear name listed).2]
  have positive (usual : Int) : ∀ name ∈ names, Settings.positive padded name usual = Settings.positive e name usual := fun name listed => by
    rw [Settings.positive, Settings.positive, given name listed]
  have listed : "LSYSTEM_MAX_ITERATIONS" ∈ names ∧ "LSYSTEM_MAX_SYMBOLS" ∈ names ∧ "LSYSTEM_IMAGE_SIZE" ∈ names ∧
      "LSYSTEM_OUTPUT_DIR" ∈ names ∧ "LOG_LEVEL" ∈ names := by simp [names, counts]
  obtain ⟨one, two, three, four, five⟩ := listed
  rw [Settings.ofEnvironment, Settings.ofEnvironment, positive _ _ one, positive _ _ two, positive _ _ three, given _ four, given _ five]

/-! ### Main statement -/

/-- How settings come from an environment: what is loaded and when, which variable is rejected, under which name a
    value is found, what is read of it, and what does not matter around it. -/
structure Configured (e : Environment) : Prop where
  loads : ∀ s, Settings.ofEnvironment e = .ok s ↔ Loads e s
  admits : (∃ s, Settings.ofEnvironment e = .ok s) ↔ ∀ c ∈ counts, ∃ n, Reads e c.1 c.2 n
  refuses : ∀ failure, Settings.ofEnvironment e = .error failure ↔
    ∃ before c after, counts = before ++ c :: after ∧ (∀ earlier ∈ before, ∃ n, Reads e earlier.1 earlier.2 n) ∧ Faulty e c.1 failure
  rejects : ∀ name failure, Faulty e name failure → Rejects name failure
  plain : ∀ name value, e.get? name = some value → e.lookup name = some (cleaned value)
  marked : ∀ name, e.get? name = none → e.lookup name = (e.get? (byteOrderMark :: name)).map cleaned
  begins : ∀ name value, e.lookup name = some value →
    (∀ c ∈ value.head?, isSpace c = false) ∧ (byteOrderMark ∈ value.head? ↔ ¬ Clear e name)
  unmoved : ∀ padded, Surrounded e padded → ∀ name, Clear e name → (padded.lookup name = e.lookup name ↔ Clear padded name)
  surrounded : ∀ padded, Surrounded e padded → (∀ name ∈ names, Clear e (ofString name) ∧ Clear padded (ofString name)) →
    Settings.ofEnvironment padded = Settings.ofEnvironment e

/-- Settings are loaded just if each variable of an integer is absent or blank or denotes one above zero, and else the
    first that does not is rejected. Marks and blanks before a value make no difference, nor do blanks behind it, as
    long as no mark stands behind a blank before a value. -/
theorem settings_configured (e : Environment) : Configured e where
  loads _ := ofEnvironment_ok
  admits := by
    constructor
    · rintro ⟨s, loaded⟩
      obtain ⟨one, two, three, -, -⟩ := ofEnvironment_ok.mp loaded
      simp only [counts, List.forall_mem_cons]
      exact ⟨⟨_, one⟩, ⟨_, two⟩, ⟨_, three⟩, nofun⟩
    · intro each
      simp only [counts, List.forall_mem_cons] at each
      obtain ⟨⟨i, one⟩, ⟨j, two⟩, ⟨k, three⟩, -⟩ := each
      exact ⟨⟨i, j, k, _, _⟩, ofEnvironment_ok.mpr ⟨one, two, three, rfl, rfl⟩⟩
  refuses _ := ofEnvironment_error
  rejects _ _ faulty := faulty.rejects
  plain name value held := by
    rw [lookup, held]
    rfl
  marked name absent := by
    rw [lookup, absent]
    rfl
  begins _ _ := lookup_head
  unmoved _ more _ := lookup_surrounded more
  surrounded _ := ofEnvironment_surrounded

/-- A size behind marks, a blank and a sign, in digits of another script with an underscore between them. -/
theorem marked_size_configured :
    let e : Environment := [(byteOrderMark :: ofString "LSYSTEM_IMAGE_SIZE", ofString "+\u0662_\u0665\u0666")]
    let padded : Environment := [(byteOrderMark :: ofString "LSYSTEM_IMAGE_SIZE", ofString "\ufeff\ufeff\u3000+\u0662_\u0665\u0666\n")]
    Surrounded e padded ∧ (∀ name ∈ names, Clear e (ofString name) ∧ Clear padded (ofString name)) ∧
      Loads e { Settings.usual with imageSize := 256 } ∧ Settings.ofEnvironment padded = .ok { Settings.usual with imageSize := 256 } := by
  intro e padded
  have more : Surrounded e padded := .cons ⟨rfl, ofString "\ufeff\ufeff\u3000", ofString "\n", by decide +kernel,
    List.all_eq_true.mp (by decide), List.all_eq_true.mp (by decide)⟩ .nil
  have clear : ∀ name ∈ names, Clear e (ofString name) ∧ Clear padded (ofString name) := by
    decide +kernel
  have loaded : Settings.ofEnvironment e = .ok { Settings.usual with imageSize := 256 } := toOption_ok.mp (by decide +kernel)
  exact ⟨more, clear, ((settings_configured e).loads _).mp loaded, ((settings_configured e).surrounded padded more clear).trans loaded⟩

/-- A mark behind a blank is read as the beginning of the value, where an integer stood behind both. -/
theorem buried_unread :
    let name := ofString "LSYSTEM_IMAGE_SIZE"
    let e : Environment := [(name, ofString "256")]
    let padded : Environment := [(name, ofString " \ufeff256")]
    Surrounded e padded ∧ Settings.ofEnvironment e = .ok { Settings.usual with imageSize := 256 } ∧ said padded name = ofString "256" ∧
      padded.lookup name = some (byteOrderMark :: ofString "256") ∧ ¬ ∃ s, Settings.ofEnvironment padded = .ok s := by
  intro name e padded
  refine ⟨.cons ⟨rfl, ofString " \ufeff", [], by decide, List.all_eq_true.mp (by decide), nofun⟩ .nil,
    toOption_ok.mp (by decide +kernel), by decide +kernel, by decide +kernel, ?_⟩
  rintro ⟨s, loaded⟩
  have refused : (Settings.ofEnvironment padded).toOption = none := by decide +kernel
  rw [loaded] at refused
  cases refused

end Lindenmayer.Configuring
