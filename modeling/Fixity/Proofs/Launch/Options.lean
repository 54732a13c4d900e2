/-
This file says which options a command line holds once it was read: those that its
arguments name. An argument names an option by two hyphens and the long name, alone or
with a value after an equals sign. Each step through the arguments keeps the options
that are held and adds those that the argument names, so whoever gives an option finds
it in what was read, with a value of its kind.
-/

import Fixity.Launch.CommandLine
import Fixity.Proofs.Text.Cutting

namespace Fixity.Launch.CommandLine

/-! ### Names of options -/

theorem Key.long_injective : Function.Injective Key.long := by
  intro one other same
  cases one <;> cases other <;> first | rfl | exact absurd same (by decide)

/-- An argument names an option: by its long name alone, or with a value. -/
def Names (argument : String) (key : Key) : Prop :=
  argument = "--" ++ key.long ∨ ∃ value, argument = "--" ++ key.long ++ "=" ++ value

/-- Arguments that name an option give it. -/
def Gives (arguments : List String) (key : Key) : Prop :=
  ∃ argument ∈ arguments, Names argument key

theorem Key.long_plain (key : Key) : '=' ∉ key.long.toList ∧ key.long.toList ≠ [] := by
  cases key <;> decide

/-- What two hyphens and more begin is a long name, up to an equals sign if there is one. -/
theorem shape_of_hyphens {argument : String} {rest : List Char} (present : rest ≠ [])
    (split : argument.toList = '-' :: '-' :: rest) :
    Shape.of argument =
      match Text.splitFirst? '=' rest with
      | some (name, value) => .long (String.ofList name) (some (String.ofList value))
      | none => .long (String.ofList rest) none := by
  obtain ⟨c, more, rfl⟩ := List.exists_cons_of_ne_nil present
  rw [Shape.of, split]
  rfl

theorem exists_hyphens_of_shape {argument name : String} {value : Option String}
    (shape : Shape.of argument = .long name value) :
    ∃ rest, rest ≠ [] ∧ argument.toList = '-' :: '-' :: rest := by
  rw [Shape.of] at shape
  split at shape
  case h_1 => cases shape
  case h_2 rest lone split =>
    refine ⟨rest, ?_, split⟩
    rintro rfl
    exact lone rfl
  case h_3 => cases shape
  case h_4 => cases shape

theorem names_iff {argument : String} {key : Key} :
    Names argument key ↔ ∃ value, Shape.of argument = .long key.long value := by
  obtain ⟨plain, present⟩ := key.long_plain
  constructor
  · rintro (rfl | ⟨value, rfl⟩)
    · refine ⟨none, ?_⟩
      rw [shape_of_hyphens present (String.toList_append ..), Text.splitFirst?_of_notMem plain]
      exact congrArg (Shape.long · none) String.ofList_toList
    · refine ⟨some value, ?_⟩
      have split : ("--" ++ key.long ++ "=" ++ value).toList =
          '-' :: '-' :: (key.long.toList ++ '=' :: value.toList) := by
        simp only [String.toList_append, List.append_assoc]
        rfl
      rw [shape_of_hyphens (List.append_ne_nil_of_left_ne_nil present _) split,
        Text.splitFirst?_append_cons plain]
      simp only [String.ofList_toList]
  · rintro ⟨value, shape⟩
    obtain ⟨rest, present, split⟩ := exists_hyphens_of_shape shape
    rw [shape_of_hyphens present split] at shape
    by_cases marked : '=' ∈ rest
    · obtain ⟨name, text, rfl, whole⟩ := List.eq_append_cons_of_mem marked
      rw [Text.splitFirst?_append_cons whole, Shape.long.injEq] at shape
      refine .inr ⟨String.ofList text, String.toList_inj.mp ?_⟩
      rw [split, ← shape.1]
      simp only [String.toList_append, String.toList_ofList, List.append_assoc]
      rfl
    · rw [Text.splitFirst?_of_notMem marked, Shape.long.injEq] at shape
      refine .inl (String.toList_inj.mp ?_)
      rw [split, ← shape.1]
      simp only [String.toList_append, String.toList_ofList]
      rfl

/-! ### Options that are held -/

/-- An option is held, with its value or without. -/
def Given.Has (given : Given) (key : Key) : Prop :=
  (given.value? key).isSome = true ∨ given.pending.map Prod.fst = some key

/-- A value is of the kind of its option. -/
def Key.Fits (key : Key) (value : Value) : Prop :=
  match key with
  | registryUrl | bucketsFile | input | host => ∃ text, value = .text text
  | maxDays | concurrency | port => ∃ n, value = .number n
  | full | help | version => value = .present

theorem Key.fits_of_readNumber {first range : Text.IntegerRange} {text : String} {value : Value}
    (read : Key.readNumber first range text = .ok value) : ∃ n, value = .number n := by
  rw [Key.readNumber] at read
  split at read
  · split at read
    · exact ⟨_, (Except.ok.inj read).symm⟩
    · cases read
  · cases read

theorem Key.fits_of_read {key : Key} {text : String} {value : Value} (takes : key.takesValue = true)
    (read : key.read text = .ok value) : key.Fits value := by
  cases key with
  | registryUrl | host => exact ⟨text, (Except.ok.inj read).symm⟩
  | bucketsFile | input =>
    simp only [Key.read] at read
    split at read
    · cases read
    · exact ⟨text, (Except.ok.inj read).symm⟩
  | maxDays | concurrency | port => exact Key.fits_of_readNumber read
  | full | help | version => cases takes

/-- The options that are held are known at the level, and their values fit. -/
structure Given.Sound (level : Level) (given : Given) : Prop where
  values : ∀ key value, (key, value) ∈ given.values → key ∈ level.keys ∧ key.Fits value
  pending : ∀ key text, given.pending = some (key, text) →
    key ∈ level.keys ∧ key.takesValue = true

/-- A step keeps what is held and adds the options of which something holds; options that have a
short name, too, are left aside. -/
structure Adds (level : Level) (given later : Given) (added : Key → Prop) : Prop where
  sound : given.Sound level → later.Sound level
  has : ∀ key, key.short? = none → (later.Has key ↔ given.Has key ∨ added key)

theorem Adds.refl (level : Level) (given : Given) : Adds level given given fun _ => False where
  sound := id
  has _ _ := (or_false _).symm.to_iff

theorem Adds.trans {level : Level} {one two three : Given} {first second : Key → Prop}
    (step : Adds level one two first) (next : Adds level two three second) :
    Adds level one three fun key => first key ∨ second key where
  sound sound := next.sound (step.sound sound)
  has key long := by rw [next.has key long, step.has key long, or_assoc]

/-! ### Steps -/

theorem exists_ok_of_bind {result : Except ε α} {next : α → Except ε β} {b : β}
    (done : (result >>= next) = .ok b) : ∃ a, result = .ok a ∧ next a = .ok b := by
  cases result with
  | error fault => cases done
  | ok a => exact ⟨a, rfl, done⟩

section Steps

variable {level : Level} {given later : Given} {key : Key}

theorem exists_value_of_put {read : Except Usage Value} (put : given.put key read = .ok later) :
    ∃ value, read = .ok value ∧ later = { values := given.values ++ [(key, value)] } := by
  rw [Given.put] at put
  split at put
  · cases put
  · cases read with
    | error fault => cases put
    | ok value => exact ⟨value, rfl, (Except.ok.inj put).symm⟩

/-- Settling changes nothing, or it gives the pending option the value that is read. -/
theorem settle_cases (settle : given.settle = .ok later) :
    (given.pending = none ∧ later = given) ∨ ∃ key text value,
      given.pending = some (key, some text) ∧ key.read text = .ok value ∧
        later = { values := given.values ++ [(key, value)] } := by
  rw [Given.settle] at settle
  split at settle
  case h_1 none => exact .inl ⟨none, (Except.ok.inj settle).symm⟩
  case h_2 => cases settle
  case h_3 key text waiting =>
    obtain ⟨value, read, later⟩ := exists_value_of_put settle
    exact .inr ⟨key, text, value, waiting, read, later⟩

theorem has_of_settled (settled : given.pending = none) :
    given.Has key ↔ (given.value? key).isSome = true := by
  rw [Given.Has, settled]
  exact or_iff_left nofun

theorem has_value {value : Value} {other : Key} :
    ({ values := given.values ++ [(key, value)] } : Given).Has other ↔
      (given.value? other).isSome = true ∨ other = key := by
  rw [has_of_settled rfl, Given.value?, List.lookup_append, Option.isSome_or, Bool.or_eq_true]
  refine or_congr_right ?_
  by_cases same : other = key
  · subst same
    simp
  · simp [same]

theorem sound_value {value : Value} (sound : given.Sound level) (known : key ∈ level.keys)
    (fits : key.Fits value) :
    ({ values := given.values ++ [(key, value)] } : Given).Sound level := by
  refine ⟨fun other content member => ?_, nofun⟩
  rcases List.mem_append.mp member with before | last
  · exact sound.values other content before
  · obtain ⟨rfl, rfl⟩ := Prod.mk.inj (List.mem_singleton.mp last)
    exact ⟨known, fits⟩

/-- Settling leaves no option pending and loses none. -/
theorem adds_settle (level : Level) (settle : given.settle = .ok later) :
    later.pending = none ∧ Adds level given later fun _ => False := by
  obtain ⟨settled, rfl⟩ | ⟨key, text, value, waiting, read, rfl⟩ := settle_cases settle
  · exact ⟨settled, .refl level later⟩
  · refine ⟨rfl, fun sound => ?_, fun other _ => ?_⟩
    · obtain ⟨known, takes⟩ := sound.pending key (some text) waiting
      exact sound_value sound known (Key.fits_of_read takes read)
    · rw [has_value, or_false, Given.Has, waiting]
      exact or_congr_right (by simp [eq_comm])

/-- Putting a value that fits after settling adds its option. -/
theorem adds_settle_put {settled : Given} {read : Except Usage Value} (known : key ∈ level.keys)
    (fits : ∀ value, read = .ok value → key.Fits value) (settle : given.settle = .ok settled)
    (put : settled.put key read = .ok later) : Adds level given later (· = key) := by
  obtain ⟨ready, kept⟩ := adds_settle level settle
  obtain ⟨value, read, rfl⟩ := exists_value_of_put put
  refine ⟨fun sound => sound_value (kept.sound sound) known (fits value read), fun other long => ?_⟩
  rw [has_value, ← has_of_settled ready, kept.has other long, or_false]

theorem adds_attach {text : String} (known : key ∈ level.keys) (takes : key.takesValue = true)
    (attach : given.attach key text = .ok later) : Adds level given later (· = key) := by
  obtain ⟨settled, settle, put⟩ := exists_ok_of_bind attach
  exact adds_settle_put known (fun _ => Key.fits_of_read takes) settle put

theorem adds_await (known : key ∈ level.keys) (takes : key.takesValue = true)
    (await : given.await key = .ok later) : Adds level given later (· = key) := by
  obtain ⟨settled, settle, wait⟩ := exists_ok_of_bind await
  obtain rfl := Except.ok.inj wait
  obtain ⟨ready, kept⟩ := adds_settle level settle
  refine ⟨fun sound => ⟨(kept.sound sound).values, ?_⟩, fun other long => ?_⟩
  · rintro _ _ ⟨⟩
    exact ⟨known, takes⟩
  · have held := kept.has other long
    rw [or_false, has_of_settled ready] at held
    rw [← held, Given.Has]
    exact or_congr_right (by simp [eq_comm])

theorem adds_raise (known : key ∈ level.keys) (bare : key.takesValue = false)
    (raise : given.raise key = .ok later) : Adds level given later (· = key) := by
  obtain ⟨settled, settle, put⟩ := exists_ok_of_bind raise
  cases key with
  | full => exact adds_settle_put known (fun _ read => (Except.ok.inj read).symm) settle put
  | help | version => cases put
  | registryUrl | bucketsFile | maxDays | input | concurrency | host | port => cases bare

/-- A long name adds the option that it is the name of. -/
theorem adds_long {name : String} {value : Option String}
    (long : given.long level name value = .ok later) :
    Adds level given later fun key => key.long = name := by
  rw [Given.long] at long
  split at long
  case h_1 => cases long
  case h_2 key found =>
    have known := List.mem_of_find?_eq_some found
    have same := List.find?_some found
    have named : (fun other : Key => other.long = name) = (· = key) := by
      funext other
      rw [← beq_iff_eq.mp same, Key.long_injective.eq_iff]
    rw [named]
    split at long
    case h_1 text takes => exact adds_attach known takes long
    case h_2 takes => exact adds_await known takes long
    case h_3 => cases long
    case h_4 bare => exact adds_raise known bare long

/-- Adding an option that has a short name is adding none. -/
theorem Adds.of_short (step : Adds level given later (· = key)) (short : key.short? ≠ none) :
    Adds level given later fun _ => False where
  sound := step.sound
  has other long := by
    rw [step.has other long]
    refine or_congr_right (iff_false_intro ?_)
    rintro rfl
    exact short long

/-- Short names add nothing but options that have one. -/
theorem adds_shorts {names : List Char} (shorts : given.shorts level names = .ok later) :
    Adds level given later fun _ => False := by
  induction names generalizing given with
  | nil =>
    obtain rfl := Except.ok.inj shorts
    exact .refl level given
  | cons c rest inductionHypothesis =>
    rw [Given.shorts] at shorts
    split at shorts
    case h_1 => cases shorts
    case h_2 key found =>
      have known := List.mem_of_find?_eq_some found
      have same := List.find?_some found
      have short : key.short? ≠ none := by
        rw [beq_iff_eq.mp same]
        nofun
      split at shorts
      case isTrue takes =>
        split at shorts
        case h_1 => exact (adds_await known takes shorts).of_short short
        case h_2 => exact (adds_attach known takes shorts).of_short short
        case h_3 => exact (adds_attach known takes shorts).of_short short
      case isFalse bare =>
        obtain ⟨raised, raise, more⟩ := exists_ok_of_bind shorts
        have first := (adds_raise known (eq_false_of_ne_true bare) raise).of_short short
        have both := first.trans (inductionHypothesis more)
        simpa only [or_self] using both

/-- An argument that the last option was waiting for adds nothing. -/
theorem adds_awaited {argument : String} (awaited : given.awaited? = some key) :
    Adds level given { given with pending := some (key, some argument) } fun _ => False := by
  have waiting : given.pending = some (key, none) := by
    rw [Given.awaited?] at awaited
    split at awaited
    case h_1 waiting => rw [waiting, Option.some.inj awaited]
    case h_2 => cases awaited
  refine ⟨fun sound => ⟨sound.values, ?_⟩, fun other _ => ?_⟩
  · rintro _ _ ⟨⟩
    exact sound.pending key none waiting
  · rw [or_false, Given.Has, Given.Has, waiting]
    rfl

/-! ### Walks -/

/-- The arguments that a walk has left. -/
def left (next : Option (Level × List String)) : List String :=
  (next.map Prod.snd).getD []

/-- A walk passes some arguments and leaves the others. The options that are added are those that the
passed arguments give, and only a level with commands is followed by another, one without. -/
structure Passes (level : Level) (given later : Given) (arguments : List String)
    (next : Option (Level × List String)) : Prop where
  adds : ∃ passed, arguments = passed ++ left next ∧ Adds level given later (Gives passed)
  next : ∀ inner rest, next = some (inner, rest) → level.commands ≠ [] ∧ inner.commands = []

theorem gives_cons {argument : String} {rest : List String} :
    Gives (argument :: rest) key ↔ Names argument key ∨ Gives rest key :=
  List.exists_mem_cons_iff ..

/-- An argument of another shape than that of a long name names no option. -/
theorem not_names {argument : String} (other : ∀ name value, Shape.of argument ≠ .long name value) :
    Names argument = fun _ => False := by
  funext key
  refine eq_false fun named => ?_
  obtain ⟨value, shape⟩ := names_iff.mp named
  exact other key.long value shape

/-- The name of a command has no hyphens. -/
theorem shape_of_command {argument : String} (known : argument ∈ level.commands) :
    Shape.of argument = .plain := by
  cases level with
  | top =>
    simp only [Level.commands, List.mem_cons, List.not_mem_nil, or_false] at known
    rcases known with rfl | rfl | rfl <;> decide
  | audit | serve => cases known

theorem commands_of_name {argument : String} {inner : Level}
    (name : Level.ofName? argument = some inner) : inner.commands = [] := by
  rw [Level.ofName?.eq_def] at name
  split at name <;> cases name <;> rfl

/-- A walk ends with an argument that names no option. -/
theorem passes_last {argument : String} (next : Option (Level × List String))
    (other : ∀ name value, Shape.of argument ≠ .long name value)
    (further : ∀ inner rest, next = some (inner, rest) → level.commands ≠ [] ∧ inner.commands = []) :
    Passes level given given (argument :: left next) next := by
  refine ⟨⟨[argument], rfl, id, fun key _ => ?_⟩, further⟩
  rw [gives_cons, not_names other]
  simp [Gives]

/-- A step over one argument goes before a walk through the rest. -/
theorem passes_cons {between : Given} {argument : String} {rest : List String}
    {next : Option (Level × List String)} (step : Adds level given between (Names argument))
    (walked : Passes level between later rest next) :
    Passes level given later (argument :: rest) next := by
  obtain ⟨⟨passed, rfl, more⟩, further⟩ := walked
  refine ⟨⟨argument :: passed, rfl, ?_⟩, further⟩
  have both := step.trans more
  simpa only [← gives_cons] using both

/-- A walk passes its arguments one by one, and each adds the option that it names. -/
theorem walk_passes {arguments : List String} {next : Option (Level × List String)}
    (walked : walk level given arguments = .ok (later, next)) :
    Passes level given later arguments next := by
  induction arguments generalizing given with
  | nil =>
    obtain ⟨rfl, rfl⟩ := Prod.mk.inj (Except.ok.inj walked)
    refine ⟨⟨[], rfl, id, fun key _ => ?_⟩, nofun⟩
    simp [Gives]
  | cons argument rest inductionHypothesis =>
    unfold walk at walked
    dsimp only at walked
    split at walked
    -- The name of a command ends the walk, the shape of any other argument says how it goes on.
    case isTrue command =>
      split at walked
      case h_1 inner name =>
        obtain ⟨rfl, rfl⟩ := Prod.mk.inj (Except.ok.inj walked)
        refine passes_last (some (inner, rest)) ?_ ?_
        · rw [shape_of_command command.2]
          nofun
        · rintro _ _ ⟨⟩
          exact ⟨List.ne_nil_of_mem command.2, commands_of_name name⟩
      case h_2 => cases walked
    case isFalse =>
      split at walked
      case h_1 shape =>
        split at walked
        case h_1 =>
          obtain ⟨rfl, rfl⟩ := Prod.mk.inj (Except.ok.inj walked)
          refine passes_last none ?_ nofun
          rw [shape]
          nofun
        case h_2 => cases walked
      case h_2 name value shape =>
        obtain ⟨between, long, walked⟩ := exists_ok_of_bind walked
        refine passes_cons ?_ (inductionHypothesis walked)
        have named : Names argument = fun key => key.long = name := by
          funext key
          rw [names_iff, shape]
          simp [eq_comm]
        rw [named]
        exact adds_long long
      case h_3 names shape =>
        obtain ⟨between, shorts, walked⟩ := exists_ok_of_bind walked
        refine passes_cons ?_ (inductionHypothesis walked)
        rw [not_names (by rw [shape]; nofun)]
        exact adds_shorts shorts
      case h_4 shape =>
        split at walked
        case h_1 key awaited =>
          refine passes_cons ?_ (inductionHypothesis walked)
          rw [not_names (by rw [shape]; nofun)]
          exact adds_awaited awaited
        case h_2 => cases walked

end Steps

/-! ### Whole command lines -/

theorem Given.Sound.of_value {level : Level} {given : Given} {key : Key} {value : Value}
    (sound : given.Sound level) (held : given.value? key = some value) :
    key ∈ level.keys ∧ key.Fits value := by
  rw [Given.value?, List.lookup_eq_some_iff] at held
  obtain ⟨before, after, split, -⟩ := held
  exact sound.values key value (by simp [split])

section Kinds

variable {level : Level} {given : Given} {key : Key}

/-- An option whose values are texts is kept as a text. -/
theorem isSome_text? (sound : given.Sound level)
    (texts : ∀ value, key.Fits value → ∃ text, value = .text text) :
    (text? given key).isSome = (given.value? key).isSome := by
  rw [text?]
  cases held : given.value? key with
  | none => rfl
  | some value =>
    obtain ⟨text, rfl⟩ := texts value (sound.of_value held).2
    rfl

/-- An option whose values are numbers is kept as a number. -/
theorem isSome_number? (sound : given.Sound level)
    (numbers : ∀ value, key.Fits value → ∃ n, value = .number n) :
    (number? given key).isSome = (given.value? key).isSome := by
  rw [number?]
  cases held : given.value? key with
  | none => rfl
  | some value =>
    obtain ⟨n, rfl⟩ := numbers value (sound.of_value held).2
    rfl

end Kinds

/-- What is settled after a walk are the options that its arguments give. -/
theorem settled_of_walk {level : Level} {arguments : List String} {given settled : Given}
    {next : Option (Level × List String)} (walked : walk level {} arguments = .ok (given, next))
    (settle : given.settle = .ok settled) :
    settled.Sound level ∧ ∃ passed, arguments = passed ++ left next ∧
      ∀ key : Key, key.short? = none → ((settled.value? key).isSome = true ↔ Gives passed key) := by
  obtain ⟨⟨passed, split, adds⟩, -⟩ := walk_passes walked
  obtain ⟨ready, keeps⟩ := adds_settle level settle
  have whole := adds.trans keeps
  refine ⟨whole.sound ⟨nofun, nofun⟩, passed, split, fun key long => ?_⟩
  rw [← has_of_settled ready, whole.has key long, has_of_settled rfl]
  simp [Given.value?]

/-- The options before and after the command are those that the arguments give, and no command
follows another. -/
structure Sides (arguments : List String) (level : Level) (outer inner : Given) : Prop where
  inside : level.commands = []
  before : outer.Sound .top
  after : inner.Sound level
  given : ∀ key : Key, key.short? = none →
    ((inner.value? key).isSome = true ∨ (outer.value? key).isSome = true ↔ Gives arguments key)

theorem sides_of_read {arguments : List String} {line : CommandLine}
    (done : read arguments = .ok line) :
    ∃ level outer inner, Sides arguments level outer inner ∧ line = assemble level outer inner := by
  obtain ⟨⟨outer, _ | ⟨level, rest⟩⟩, walked, done⟩ := exists_ok_of_bind done
  case none =>
    obtain ⟨outer, -, done⟩ := exists_ok_of_bind done
    split at done <;> cases done
  case some =>
    obtain ⟨⟨inner, next⟩, walkedOn, done⟩ := exists_ok_of_bind done
    obtain ⟨innerSettled, settleInner, done⟩ := exists_ok_of_bind done
    obtain ⟨outerSettled, settleOuter, done⟩ := exists_ok_of_bind done
    obtain rfl := Except.ok.inj done
    have inside : level.commands = [] := ((walk_passes walked).next level rest rfl).2
    have last : next = none := by
      cases next with
      | none => rfl
      | some further => exact absurd inside ((walk_passes walkedOn).next _ _ rfl).1
    subst last
    obtain ⟨soundOuter, passed, rfl, givenOuter⟩ := settled_of_walk walked settleOuter
    obtain ⟨soundInner, passedOn, rfl, givenInner⟩ := settled_of_walk walkedOn settleInner
    refine ⟨level, outerSettled, innerSettled,
      ⟨inside, soundOuter, soundInner, fun key long => ?_⟩, rfl⟩
    rw [givenInner key long, givenOuter key long]
    simp [Gives, left, or_and_right, exists_or, or_comm]

/-! ### Options that go before the environment -/

/-- The variable of the environment that an option is to go before. -/
def Key.variable? : Key → Option String
  | registryUrl => some "FIXITY_REGISTRY_URL"
  | bucketsFile => some "FIXITY_BUCKETS_FILE"
  | maxDays => some "MAX_DAYS_SINCE_LAST_FIXITY"
  | host => some "FIXITY_HOST"
  | port => some "FIXITY_PORT"
  | _ => none

/-- A command line holds such an option. -/
def holds (line : CommandLine) (key : Key) : Bool :=
  match key, line.command with
  | .registryUrl, _ => line.registryUrl.isSome
  | .bucketsFile, _ => line.bucketsFile.isSome
  | .maxDays, _ => line.maxDays.isSome
  | .host, .serve options => options.host.isSome
  | .port, .serve options => options.port.isSome
  | _, _ => false

theorem value?_eq_none {level : Level} {given : Given} {key : Key} (sound : given.Sound level)
    (foreign : key ∉ level.keys) : given.value? key = none := by
  cases held : given.value? key with
  | none => rfl
  | some value => exact absurd (sound.of_value held).1 foreign

theorem Sides.holds_eq {arguments : List String} {level : Level} {outer inner : Given}
    (sides : Sides arguments level outer inner) {key : Key} (stands : key.variable? ≠ none) :
    holds (assemble level outer inner) key =
      ((inner.value? key).isSome || (outer.value? key).isSome) := by
  obtain ⟨inside, before, after, -⟩ := sides
  cases key with
  | registryUrl | bucketsFile =>
    rw [holds, assemble, Option.isSome_or, isSome_text? after fun _ => id,
      isSome_text? before fun _ => id]
  | maxDays =>
    rw [holds, assemble, Option.isSome_map, Option.isSome_or, isSome_number? after fun _ => id,
      isSome_number? before fun _ => id]
  | host | port =>
    -- Both are known after `serve` only.
    rw [value?_eq_none before (by decide), Option.isSome_none, Bool.or_false]
    cases level with
    | top => cases inside
    | audit =>
      rw [value?_eq_none after (by decide)]
      rfl
    | serve =>
      first
      | exact isSome_text? after fun _ => id
      | exact Option.isSome_map.trans (isSome_number? after fun _ => id)
  | input | full | concurrency | help | version => exact absurd rfl stands

/-- A command line that was read holds those options that its arguments give. -/
theorem holds_iff_gives {arguments : List String} {line : CommandLine} {key : Key}
    (done : read arguments = .ok line) (stands : key.variable? ≠ none) :
    holds line key = true ↔ Gives arguments key := by
  obtain ⟨level, outer, inner, sides, rfl⟩ := sides_of_read done
  have long : key.short? = none := by
    cases key <;> first | rfl | exact absurd rfl stands
  rw [sides.holds_eq stands, Bool.or_eq_true, sides.given key long]

end Fixity.Launch.CommandLine
