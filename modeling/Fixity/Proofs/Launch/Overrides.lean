/-
This file compares launches of one command line in two environments. Where the
environments differ only in variables that given options are to go before, the
address of the service is the same, and so are the settings, with one exception: the
days of the environment are read although the option is given, and where they cannot
be read there are no settings at all.
-/

import Fixity.Launch.Settings
import Fixity.Proofs.Launch.Options

namespace Fixity.Launch

open CommandLine

/-! ### Variables that count -/

/-- A variable counts unless an option is given that is to go before it. -/
def Counts (arguments : List String) (name : String) : Prop :=
  ∀ key : Key, key.variable? = some name → ¬ Gives arguments key

/-- Two environments are alike but for variables that do not count. -/
def Alike (arguments : List String) (one other : Environment) : Prop :=
  ∀ name, Counts arguments name → one name = other name

/-- No two options go before one variable. -/
theorem key_eq_of_variable {one other : Key} {name : String} (first : one.variable? = some name)
    (second : other.variable? = some name) : one = other := by
  have same : one.variable? = other.variable? := first.trans second.symm
  have stands : one.variable? ≠ none := by
    rw [first]
    nofun
  clear first second
  revert stands same
  cases one <;> cases other <;> decide

section Alike

variable {arguments : List String} {line : CommandLine} {one other : Environment}

/-- A variable that no option goes before is the same. -/
theorem Alike.plain (alike : Alike arguments one other) (name : String)
    (plain : name ∉ ["FIXITY_REGISTRY_URL", "FIXITY_BUCKETS_FILE", "MAX_DAYS_SINCE_LAST_FIXITY",
      "FIXITY_HOST", "FIXITY_PORT"]) : one name = other name := by
  refine alike name fun key stands => absurd ?_ plain
  cases key <;> cases stands <;> decide

/-- A variable is the same where the command line holds nothing that goes before it. -/
theorem Alike.of_not_holds (alike : Alike arguments one other) (done : read arguments = .ok line)
    {key : Key} {name : String} (stands : key.variable? = some name)
    (missing : holds line key = false) : one name = other name := by
  refine alike name fun another same gives => ?_
  obtain rfl := key_eq_of_variable stands same
  have plain : key.variable? ≠ none := by
    rw [stands]
    nofun
  have held := (holds_iff_gives done plain).mpr gives
  rw [missing] at held
  cases held

end Alike

/-- An environment of some variables that hold texts. -/
def Environment.ofTexts (texts : List (String × String)) : Environment :=
  fun name => (texts.lookup name).map fun text => Text.Utf8.encode text.toList

/-- Setting variables that held options go before sets none that counts. -/
theorem alike_ofTexts {arguments : List String} {line : CommandLine}
    {texts : List (String × String)} (done : read arguments = .ok line)
    (held : ∀ entry ∈ texts, ∃ key : Key, key.variable? = some entry.1 ∧ holds line key = true) :
    Alike arguments (.ofTexts []) (.ofTexts texts) := by
  intro name counts
  cases found : texts.lookup name with
  | none => rw [Environment.ofTexts, Environment.ofTexts, found, List.lookup_nil]
  | some text =>
    obtain ⟨before, after, rfl, -⟩ := List.lookup_eq_some_iff.mp found
    obtain ⟨key, stands, held⟩ := held (name, text) (by simp)
    have plain : key.variable? ≠ none := by
      rw [stands]
      nofun
    exact absurd ((holds_iff_gives done plain).mp held) (counts key stands)

/-! ### Reading variables -/

section Reading

variable {one other : Environment} {name : String}

theorem Environment.text?_congr (same : one name = other name) :
    one.text? name = other.text? name := by
  rw [Environment.text?, same, ← Environment.text?]

theorem Environment.number_congr (same : one name = other name) (range : Text.IntegerRange)
    (default : Int) : one.number name range default = other.number name range default := by
  rw [Environment.number, same, ← Environment.number]

end Reading

/-- The variable of the days is not set, or holds a number. -/
def DaysReadable (environment : Environment) : Prop :=
  ∃ days, environment.number "MAX_DAYS_SINCE_LAST_FIXITY" .signed64 Settings.usualMaxDays = .ok days

/-- The variable of the days is the same in two environments, or readable in both. -/
def DaysAlike (one other : Environment) : Prop :=
  one "MAX_DAYS_SINCE_LAST_FIXITY" = other "MAX_DAYS_SINCE_LAST_FIXITY" ∨
    DaysReadable one ∧ DaysReadable other

/-- Where the days cannot be read there are no settings, whatever the command line holds. -/
theorem assemble_of_unreadable {line : CommandLine} {environment : Environment}
    (unreadable : ¬ DaysReadable environment) (settings : Settings) :
    Settings.assemble line environment ≠ .ok settings := by
  intro assembled
  obtain ⟨timeout, -, assembled⟩ := exists_ok_of_bind assembled
  obtain ⟨days, read, -⟩ := exists_ok_of_bind assembled
  exact unreadable ⟨days, read⟩

/-! ### Settings and address -/

section Launches

variable {arguments : List String} {line : CommandLine} {one other : Environment}

/-- A text from the command line, or else from a variable, is the same. -/
theorem Alike.text (alike : Alike arguments one other) (done : read arguments = .ok line)
    (key : Key) {name : String} {given : Option String} (stands : key.variable? = some name)
    (held : holds line key = given.isSome) :
    given.or (one.text? name) = given.or (other.text? name) := by
  cases given with
  | some text => rfl
  | none => rw [Environment.text?_congr (alike.of_not_holds done stands held)]

/-- The days of the environment are the same, or they do not count and can be read. -/
theorem Alike.days (alike : Alike arguments one other) (done : read arguments = .ok line)
    (near : Gives arguments .maxDays → DaysAlike one other) :
    one "MAX_DAYS_SINCE_LAST_FIXITY" = other "MAX_DAYS_SINCE_LAST_FIXITY" ∨
      ∃ days, line.maxDays = some days ∧ DaysReadable one ∧ DaysReadable other := by
  cases given : line.maxDays with
  | none =>
    have missing : holds line .maxDays = false := by
      rw [holds, given]
      rfl
    exact .inl (alike.of_not_holds done rfl missing)
  | some days =>
    have held : holds line .maxDays = true := by
      rw [holds, given]
      rfl
    have gives := (holds_iff_gives done (by decide)).mp held
    exact (near gives).imp_right fun both => ⟨days, rfl, both⟩

/-- The settings are the same, if the days are alike where the option for them is given. -/
theorem Alike.assemble_eq (alike : Alike arguments one other) (done : read arguments = .ok line)
    (near : Gives arguments .maxDays → DaysAlike one other) :
    Settings.assemble line one = Settings.assemble line other := by
  have timeout := Environment.number_congr (alike.plain "FIXITY_REGISTRY_TIMEOUT_SECS" (by decide))
  have version := Environment.text?_congr (alike.plain "FIXITY_REGISTRY_API_VERSION" (by decide))
  have user := Environment.text?_congr (alike.plain "FIXITY_REGISTRY_API_USER" (by decide))
  have secret := Environment.text?_congr (alike.plain "FIXITY_REGISTRY_API_KEY" (by decide))
  have endToEnd := Environment.text?_congr (alike.plain "FIXITY_E2E" (by decide))
  have url : line.registryUrl.or _ = line.registryUrl.or _ := alike.text done .registryUrl rfl rfl
  have buckets : line.bucketsFile.or _ = line.bucketsFile.or _ :=
    alike.text done .bucketsFile rfl rfl
  simp only [Settings.assemble, ← Option.getD_or, timeout, version, user, secret, endToEnd, url,
    buckets]
  -- The days are read before the option is looked at, so a fault would count though they do not.
  rcases alike.days done near with same | ⟨days, given, ⟨first, readOne⟩, second, readOther⟩
  · rw [Environment.number_congr same]
  · rw [given, readOne, readOther]
    rfl

/-- The address of the service is the same. -/
theorem Alike.address_eq (alike : Alike arguments one other) (done : read arguments = .ok line)
    {options : ServeOptions} (serves : line.command = .serve options) :
    options.address one = options.address other := by
  have heldHost : holds line .host = options.host.isSome := by rw [holds.eq_def, serves]
  have heldPort : holds line .port = options.port.isSome := by rw [holds.eq_def, serves]
  have host := alike.text done .host rfl heldHost
  rw [ServeOptions.address, ServeOptions.address, ← Option.getD_or, ← Option.getD_or, host]
  cases given : options.port with
  | some port => rfl
  | none =>
    rw [given] at heldPort
    rw [Environment.number_congr (alike.of_not_holds done rfl heldPort)]

end Launches

/-- **Given options go before the environment.** Settings and address do not depend on the variables
that the options stand in for. The days are the exception: their variable has to be readable, or
there are no settings, with the option as without it. -/
theorem independent_of_overridden {arguments : List String} {line : CommandLine}
    (done : read arguments = .ok line) :
    (∀ one other, Alike arguments one other →
      (∀ options, line.command = .serve options → options.address one = options.address other) ∧
      ((Gives arguments .maxDays → DaysAlike one other) →
        Settings.assemble line one = Settings.assemble line other)) ∧
    ∀ environment, ¬ DaysReadable environment →
      ∀ settings, Settings.assemble line environment ≠ .ok settings :=
  ⟨fun _ _ alike => ⟨fun _ => alike.address_eq done, alike.assemble_eq done⟩,
    fun _ => assemble_of_unreadable⟩

/-- The five options are given, and their variables are set to something else. -/
theorem independent_of_overridden_all :
    let arguments := ["--registry-url=http://registry.test", "--buckets-file", "b.json",
      "--max-days-since-fixity-check=7", "serve", "--host=::1", "--port=8080"]
    let line : CommandLine := {
      registryUrl := some "http://registry.test"
      bucketsFile := some "b.json"
      maxDays := some 7
      command := .serve { host := some "::1", port := some 8080 } }
    let crowded := Environment.ofTexts [("FIXITY_REGISTRY_URL", "http://other.test"),
      ("FIXITY_BUCKETS_FILE", ""), ("MAX_DAYS_SINCE_LAST_FIXITY", "-3"),
      ("FIXITY_HOST", "0.0.0.0"), ("FIXITY_PORT", "eighty")]
    read arguments = .ok line ∧ Alike arguments (.ofTexts []) crowded ∧
      DaysAlike (.ofTexts []) crowded ∧
      ServeOptions.address { host := some "::1", port := some 8080 } (.ofTexts []) =
        ServeOptions.address { host := some "::1", port := some 8080 } crowded ∧
      Settings.assemble line (.ofTexts []) = Settings.assemble line crowded := by
  intro arguments line crowded
  have done : read arguments = .ok line := by decide +kernel
  have alike : Alike arguments (.ofTexts []) crowded := by
    refine alike_ofTexts done ?_
    simp only [List.forall_mem_cons]
    exact ⟨⟨.registryUrl, rfl, rfl⟩, ⟨.bucketsFile, rfl, rfl⟩, ⟨.maxDays, rfl, rfl⟩,
      ⟨.host, rfl, rfl⟩, ⟨.port, rfl, rfl⟩, nofun⟩
  have near : DaysAlike (.ofTexts []) crowded := .inr ⟨⟨90, rfl⟩, ⟨-3, by decide +kernel⟩⟩
  obtain ⟨address, assemble⟩ := (independent_of_overridden done).1 _ _ alike
  exact ⟨done, alike, near, address _ rfl, assemble fun _ => near⟩

/-- Days that hold no number stop an audit although the option for them is given. -/
theorem assemble_ne_of_malformed_days :
    let arguments := ["--max-days-since-fixity-check=7", "audit"]
    let line : CommandLine := { maxDays := some 7, command := .audit {} }
    let malformed := Environment.ofTexts [("MAX_DAYS_SINCE_LAST_FIXITY", "soon")]
    read arguments = .ok line ∧ Gives arguments .maxDays ∧
      Alike arguments (.ofTexts []) malformed ∧
      (∃ settings, Settings.assemble line (.ofTexts []) = .ok settings) ∧
      Settings.assemble line malformed =
        .error (.malformedVariable "MAX_DAYS_SINCE_LAST_FIXITY" "soon" .invalidDigit) := by
  intro arguments line malformed
  have done : read arguments = .ok line := by decide +kernel
  have gives : Gives arguments .maxDays := ⟨_, List.mem_cons_self, .inr ⟨"7", by decide⟩⟩
  have alike : Alike arguments (.ofTexts []) malformed :=
    alike_ofTexts done (List.forall_mem_singleton.mpr ⟨.maxDays, rfl, rfl⟩)
  exact ⟨done, gives, alike, ⟨_, rfl⟩, by decide +kernel⟩

end Fixity.Launch
